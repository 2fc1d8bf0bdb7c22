import FlexRic.XApp.Invariants

/-!
# FlexRic.XApp.SyncCalls

The calls of an xApp that wait for their answers.

* `SyncSafe`: no call reports success without its answer, no wait is missed
  by its signal or ended by anything else than its signal or the timeout, and
  no answer ends the process;
* `syncSafe_step`: which steps keep this;
* `sync_calls`: the same along runs, and for the answers that may come next.
-/

namespace FlexRic

namespace XSys

variable {s s' : XSys} {e : XEvent} {c c' : XCall} {r : XReq} {i k : Nat} {phase : Phase}
  {ev : PendingEventXapp} {cause : Wake}

/-! ## What a call promises -/

/-- The wait of the call `uid`, which reports `success`, has ended as it
should. -/
structure EndedOk (uid : Nat) (success : Option Bool) (cause : Wake) (received : Bool) : Prop where
  cause : cause = .timedOut ∨ cause = .signal uid
  inTime : success = some true → received = true

/-- The calls' side. -/
structure CallsSafe (s : XSys) : Prop where
  /-- a wait ends by its own signal or by the timeout; when the call reports
  success, its answer had been received by then -/
  ended : ∀ c ∈ s.calls, ∀ cause received, c.phase = .woken cause received →
    EndedOk c.req.uid c.req.call.success cause received
  returned : ∀ x ∈ s.returned, EndedOk x.req.uid x.success x.cause x.received
  /-- a call whose answer has been signalled does not wait, nor is it going to -/
  notLost : ∀ c ∈ s.calls, c.req.uid ∈ s.signalled → c.Woken

/-- The promises of the calls, and that handling an answer does not end the
process. -/
structure SyncSafe (s : XSys) : Prop extends CallsSafe s where
  receiver : ∀ r ev, s.rx = .found r ev → ∀ picks, ¬ (s.step (.stopTimer picks)).Aborts

/-- The receiving thread is not stopped by an assertion while its timer is pending. -/
theorem receiver_iff (h : TablesOk s) :
    (∀ r ev, s.rx = .found r ev → ∀ picks, ¬ (s.step (.stopTimer picks)).Aborts) ↔
      ∀ r ∈ s.rx.answering, s.TimerPending r.call := by
  constructor
  · intro hall r hr
    cases hrx : s.rx with
    | found r' ev =>
      rw [hrx] at hr
      rw [List.mem_singleton.mp hr]
      by_contra hnone
      exact hall r' ev hrx (0, 0) (h.stopTimer_aborts hrx (0, 0) hnone)
    | idle =>
      rw [hrx] at hr
      exact absurd hr List.not_mem_nil
    | stopped r' =>
      rw [hrx] at hr
      exact absurd hr List.not_mem_nil
  · intro hall r ev hrx picks
    obtain ⟨fd, p', -, hs⟩ := h.stopTimer hrx picks
      (hall r (by rw [hrx]; exact List.mem_cons_self))
    rw [hs]
    exact Outcome.next_not_aborts

/-- **so that the promise of a call** is that of the calls, and of one timer. -/
theorem syncSafe_iff (h : TablesOk s) :
    SyncSafe s ↔ CallsSafe s ∧ ∀ r ∈ s.rx.answering, s.TimerPending r.call := by
  rw [← receiver_iff h]
  exact ⟨fun hx => ⟨hx.toCallsSafe, hx.receiver⟩, fun hx => ⟨hx.1, hx.2⟩⟩

/-! ## The condition on a step -/

/-- The signal for `r` reaches its call: a waiting call that it wakes is that
one; if none waits, that one is not on its way to the wait. -/
def SignalReaches (s : XSys) (r : XReq) (i : Nat) : Prop :=
  if s.anyWaiting then ∀ c ∈ s.calls[i]?, c.req.uid = r.uid
  else ∀ c ∈ s.calls, c.req.uid = r.uid → c.Woken

instance (s : XSys) (r : XReq) (i : Nat) : Decidable (s.SignalReaches r i) := by
  unfold SignalReaches
  infer_instance

/-- The steps on which the calls stay safe: no wait ends without cause; the
timeout of a call that reports success does not come before its answer; an
answer comes while its procedure is active and a timer of its kind is
pending; its signal reaches its call. -/
def SyncCond (s : XSys) : XEvent → Prop
  | .timeout i => ∀ c ∈ s.calls[i]?, c.req.call.success = some true → c.req.uid ∈ s.received
  | .spurious _ => False
  | .recv k => ∀ r ∈ s.due[k]?, s.Active r ∧ s.TimerPending r.call
  | .signal i => ∀ r ∈ s.rx.handling, s.SignalReaches r i
  | _ => True

instance (s : XSys) : (e : XEvent) → Decidable (SyncCond s e)
  | .timeout i => inferInstanceAs (Decidable (∀ c ∈ s.calls[i]?, _))
  | .spurious _ => isFalse id
  | .recv k => inferInstanceAs (Decidable (∀ r ∈ s.due[k]?, _))
  | .signal _ => inferInstanceAs (Decidable (∀ r ∈ s.rx.handling, _))
  | .reportSm .. | .rmReportSm _ | .controlSm .. | .register .. | .send _ | .wait _ | .ret _
    | .stopTimer _ | .expired _ => isTrue trivial

/-! ## The calls step by step -/

namespace CallsSafe

theorem init : CallsSafe XSys.init where
  ended _ h := absurd h List.not_mem_nil
  returned _ h := absurd h List.not_mem_nil
  notLost _ h := absurd h List.not_mem_nil

/-- The promise is about calls and signals alone. -/
theorem congr (h : CallsSafe s) (hcalls : s'.calls = s.calls) (hret : s'.returned = s.returned)
    (hsig : s'.signalled = s.signalled) : CallsSafe s' :=
  ⟨hcalls ▸ h.ended, hret ▸ h.returned, by rw [hcalls, hsig]; exact h.notLost⟩

/-- A new call has not ended. -/
theorem opened (h : CallsSafe s) (hh : Heard s) (actProc : ActProc) (call : SyncCall)
    (id : RicGenId) : CallsSafe (s.opened actProc call id) := by
  refine ⟨fun c hc cause received hp => ?_, h.returned, fun c hc hsig => ?_⟩ <;>
    obtain hc | hc := List.mem_append.mp hc
  · exact h.ended c hc cause received hp
  · rw [List.mem_singleton.mp hc] at hp
    cases hp
  · exact h.notLost c hc hsig
  · rw [List.mem_singleton.mp hc] at hsig
    exact absurd (hh.received _ (hh.signalled hsig)) (Nat.lt_irrefl _)

/-- A call moves on before its wait. -/
theorem moved (h : CallsSafe s) (hc : s.calls[i]? = some c) (hold : ¬ c.Woken)
    (hnew : ∀ cause received, phase ≠ .woken cause received)
    (hcalls : s'.calls = (s.setPhase i c phase).calls) (hret : s'.returned = s.returned)
    (hsig : s'.signalled = s.signalled) : CallsSafe s' := by
  refine ⟨fun c' hc' cause received hp => ?_, hret ▸ h.returned, fun c' hc' hs => ?_⟩ <;>
    rw [hcalls] at hc' <;> obtain hc' | rfl := mem_setPhase hc'
  · exact h.ended c' hc' cause received hp
  · exact absurd hp (hnew cause received)
  · exact h.notLost c' hc' (hsig ▸ hs)
  · exact absurd (h.notLost c (List.mem_of_getElem? hc) (hsig ▸ hs)) hold

/-- A call that was woken ends with its answer. -/
theorem finished (h : CallsSafe s) {received : Bool} (hc : s.calls[i]? = some c)
    (hw : c.phase = .woken cause received) (actProc : ActProc) :
    CallsSafe (s.finished i c cause received actProc) := by
  refine ⟨fun c' hc' => h.ended c' (List.mem_of_mem_eraseIdx hc'), fun x hx => ?_,
    fun c' hc' => h.notLost c' (List.mem_of_mem_eraseIdx hc')⟩
  obtain hx | hx := List.mem_append.mp hx
  · exact h.returned x hx
  · rw [List.mem_singleton.mp hx]
    exact h.ended c (List.mem_of_getElem? hc) cause received hw

/-- A wait ends, in a state whose other calls are safe. -/
theorem wake_iff (hn : s.callUids.Nodup) (hc : s.calls[i]? = some c)
    (hended : ∀ c ∈ s.calls, ∀ cause received, c.phase = .woken cause received →
      EndedOk c.req.uid c.req.call.success cause received)
    (hret : ∀ x ∈ s.returned, EndedOk x.req.uid x.success x.cause x.received)
    (hlost : ∀ c' ∈ s.calls, c'.req.uid ≠ c.req.uid → c'.req.uid ∈ s.signalled → c'.Woken) :
    CallsSafe (s.wake i c cause) ↔
      EndedOk c.req.uid c.req.call.success cause (decide (c.req.uid ∈ s.received)) := by
  constructor
  · intro h
    exact h.ended _ ((mem_setPhase_iff hn hc).mpr (.inl rfl)) cause _ rfl
  · intro hok
    refine ⟨fun c' hc' cause' received hp => ?_, hret, fun c' hc' hsig => ?_⟩ <;>
      obtain rfl | ⟨hc', hne⟩ := (mem_setPhase_iff hn hc).mp hc'
    · cases hp
      exact hok
    · exact hended c' hc' cause' received hp
    · exact ⟨cause, _, rfl⟩
    · exact hlost c' hc' hne hsig

end CallsSafe

/-- A call that timed out succeeds only with an answer. -/
theorem endedOk_timedOut :
    EndedOk c.req.uid c.req.call.success .timedOut (decide (c.req.uid ∈ s.received)) ↔
      (c.req.call.success = some true → c.req.uid ∈ s.received) := by
  constructor
  · exact fun h hsucc => of_decide_eq_true (h.inTime hsucc)
  · exact fun h => ⟨.inl rfl, fun hsucc => decide_eq_true (h hsucc)⟩

/-- A call that was woken by nothing never ends as it should. -/
theorem not_endedOk_spurious {uid : Nat} {success : Option Bool} {received : Bool} :
    ¬ EndedOk uid success .spurious received := fun h => by
  obtain h | h := h.cause <;> cases h

/-- The signal for `r` ends the wait of a call as it should when it is the
call of `r`. -/
theorem endedOk_signal (hr : r.uid ∈ s.received) :
    EndedOk c.req.uid c.req.call.success (.signal r.uid) (decide (c.req.uid ∈ s.received)) ↔
      c.req.uid = r.uid := by
  constructor
  · intro h
    obtain h | h := h.cause
    · cases h
    · exact (Wake.signal.inj h).symm
  · intro huid
    exact ⟨.inr (by rw [huid]), fun _ => decide_eq_true (huid ▸ hr)⟩

/-- The condition on a signal is that it reaches its call. -/
theorem syncCond_signal (hrx : s.rx = .stopped r) :
    SyncCond s (.signal i) ↔ s.SignalReaches r i := by
  simp only [SyncCond, hrx, Rx.handling, List.mem_singleton, forall_eq]

/-- A signal that wakes a call keeps the calls safe exactly when it is that
call's. -/
theorem CallsSafe.woke_iff (h : CallsSafe s) (hn : Numbered s) (hh : Heard s)
    (hrx : s.rx = .stopped r) (hc : s.calls[i]? = some c) (hw : c.phase = .waiting) :
    CallsSafe ((s.signalDone r).wake i c (.signal r.uid)) ↔ SyncCond s (.signal i) := by
  have hany : s.anyWaiting = true :=
    List.any_eq_true.mpr ⟨c, List.mem_of_getElem? hc, by rw [hw]; rfl⟩
  have hr : r.uid ∈ s.received := hh.handling r (by rw [hrx]; exact List.mem_cons_self)
  have hcond : SyncCond s (.signal i) ↔ c.req.uid = r.uid := by
    rw [syncCond_signal hrx, SignalReaches, if_pos hany]
    simp only [hc, Option.mem_some_iff, forall_eq']
  rw [hcond, ← endedOk_signal hr]
  constructor
  · intro h'
    exact h'.ended _ ((mem_setPhase_iff hn.calls hc).mpr (.inl rfl)) _ _ rfl
  · intro hok
    refine (CallsSafe.wake_iff (s := s.signalDone r) hn.calls hc h.ended h.returned
      fun c' hc' hne hsig => ?_).mpr hok
    obtain hsig | hsig := List.mem_append.mp hsig
    · exact h.notLost c' hc' hsig
    · rw [(endedOk_signal hr).mp hok, ← List.mem_singleton.mp hsig] at hne
      exact absurd rfl hne

/-- A signal that wakes nobody keeps them safe exactly when its call has been
woken. -/
theorem CallsSafe.lost_iff (h : CallsSafe s) (hrx : s.rx = .stopped r)
    (hnone : ∀ c ∈ s.calls, c.phase ≠ .waiting) :
    CallsSafe (s.signalDone r) ↔ SyncCond s (.signal i) := by
  have hany : ¬ s.anyWaiting = true := fun hany => by
    obtain ⟨c, hc, hw⟩ := List.any_eq_true.mp hany
    exact hnone c hc (beq_iff_eq.mp hw)
  rw [syncCond_signal hrx, SignalReaches, if_neg hany]
  constructor
  · intro h' c hc huid
    exact h'.notLost c hc (List.mem_append_right _ (List.mem_singleton.mpr huid))
  · intro hcond
    refine ⟨h.ended, h.returned, fun c hc hsig => ?_⟩
    obtain hsig | hsig := List.mem_append.mp hsig
    · exact h.notLost c hc hsig
    · exact hcond c hc (List.mem_singleton.mp hsig)

/-- A step keeps the calls safe exactly when it meets the condition, unless
it takes an answer up. -/
theorem callsSafe_step (hn : Numbered s) (hh : Heard s) (h : CallsSafe s)
    (hs : s.step e = .next s') : CallsSafe s' ↔ (∀ k, e ≠ .recv k) → SyncCond s e := by
  cases step_cases hs with
  | opened call id actProc event active ext eq =>
    subst eq
    refine iff_of_true (h.opened hh actProc call id) fun _ => ?_
    cases event <;> trivial
  | registered i timer c phase fd event call next pos notOpen eq =>
    subst event eq
    refine iff_of_true (h.moved call ?_ ?_ rfl rfl rfl) fun _ => trivial
    · rintro ⟨cause, received, hp⟩
      obtain ⟨ho, -⟩ | ⟨ho, -⟩ := afterRegister_eq_some next <;> rw [ho] at hp <;> cases hp
    · obtain ⟨-, rfl⟩ | ⟨-, rfl⟩ := afterRegister_eq_some next <;> simp
  | sent i c phase event call next eq =>
    subst event eq
    refine iff_of_true (h.moved call ?_ ?_ rfl rfl rfl) fun _ => trivial
    · rintro ⟨cause, received, hp⟩
      obtain ⟨ho, -⟩ | ⟨ho, -⟩ := afterSend_eq_some next <;> rw [ho] at hp <;> cases hp
    · obtain ⟨-, rfl⟩ | ⟨-, rfl⟩ := afterSend_eq_some next <;> simp
  | waits i c event call ready eq =>
    subst event eq
    refine iff_of_true (h.moved call ?_ (by simp) rfl rfl rfl) fun _ => trivial
    rintro ⟨cause, received, hp⟩
    rw [ready] at hp
    cases hp
  | timedOut i c event call waiting eq =>
    subst event eq
    rw [CallsSafe.wake_iff hn.calls call h.ended h.returned fun c' hc' _ => h.notLost c' hc',
      endedOk_timedOut]
    simp [SyncCond, call]
  | spurious i c event call waiting eq =>
    subst event eq
    rw [CallsSafe.wake_iff hn.calls call h.ended h.returned fun c' hc' _ => h.notLost c' hc']
    exact iff_of_false not_endedOk_spurious fun hc => hc fun _ => nofun
  | returned i c cause received actProc event call woken done eq =>
    subst event eq
    exact iff_of_true (h.finished call woken actProc) fun _ => trivial
  | taken k r ev actProc event idle due found eq =>
    subst event eq
    exact iff_of_true (h.congr rfl rfl rfl) fun hne => absurd rfl (hne k)
  | stopped picks r ev fd pending event rx removed eq =>
    subst event eq
    exact iff_of_true (h.congr rfl rfl rfl) fun _ => trivial
  | woke i r c event rx call waiting eq =>
    subst event eq
    rw [h.woke_iff hn hh rx call waiting]
    exact ⟨fun hc _ => hc, fun hc => hc fun _ => nofun⟩
  | lost i r event rx none eq =>
    subst event eq
    rw [h.lost_iff rx none]
    exact ⟨fun hc _ => hc, fun hc => hc fun _ => nofun⟩
  | expired fd retryCount event eq =>
    subst event eq
    exact iff_of_true (h.congr rfl rfl rfl) fun _ => trivial

/-- The receiving thread finds a timer to stop in the state after a step,
unless it has taken an answer up that finds none. -/
theorem receiver_step (h : ∀ r ∈ s.rx.answering, s.TimerPending r.call)
    (hs : s.step e = .next s') :
    (∀ r ∈ s'.rx.answering, s'.TimerPending r.call) ↔ ((∃ k, e = .recv k) → SyncCond s e) := by
  cases step_cases hs with
  | opened call id actProc event active ext eq =>
    subst eq
    refine iff_of_true h fun _ => ?_
    cases event <;> trivial
  | registered i timer c phase fd event call next pos notOpen eq =>
    subst event eq
    refine iff_of_true (fun r hr => ?_) fun _ => trivial
    obtain ⟨t, ht, hk⟩ := h r hr
    exact ⟨t, Bimap.mem_inserted_left.mpr (.inr ht), hk⟩
  | sent i c phase event call next eq =>
    subst event eq
    exact iff_of_true h fun _ => trivial
  | waits i c event call ready eq =>
    subst event eq
    exact iff_of_true h fun _ => trivial
  | timedOut i c event call waiting eq =>
    subst event eq
    refine iff_of_true h fun hk => ?_
    obtain ⟨_, hk⟩ := hk
    cases hk
  | spurious i c event call waiting eq =>
    subst event eq
    refine iff_of_true h fun hk => ?_
    obtain ⟨_, hk⟩ := hk
    cases hk
  | returned i c cause received actProc event call woken done eq =>
    subst event eq
    exact iff_of_true h fun _ => trivial
  | taken k r ev actProc event idle due found eq =>
    subst event eq
    obtain ⟨-, -, -, hactive⟩ := findAnswered_eq_next found
    simp only [SyncCond, due, Option.mem_some_iff, forall_eq', taken, Rx.answering,
      List.mem_singleton, forall_eq]
    exact ⟨fun hp _ => ⟨hactive, hp⟩, fun hc => (hc ⟨k, rfl⟩).2⟩
  | stopped picks r ev fd pending event rx removed eq =>
    subst event eq
    exact iff_of_true (fun r hr => absurd hr List.not_mem_nil) fun _ => trivial
  | woke i r c event rx call waiting eq =>
    subst event eq
    refine iff_of_true (fun r hr => absurd hr List.not_mem_nil) fun hk => ?_
    obtain ⟨_, hk⟩ := hk
    cases hk
  | lost i r event rx none eq =>
    subst event eq
    refine iff_of_true (fun r hr => absurd hr List.not_mem_nil) fun hk => ?_
    obtain ⟨_, hk⟩ := hk
    cases hk
  | expired fd retryCount event eq =>
    subst event eq
    exact iff_of_true h fun _ => trivial

/-! ## Steps and runs -/

/-- **One step.** From a safe state a step leads to a safe state exactly when
it meets the condition. -/
theorem syncSafe_step (h : TablesOk s) (hn : Numbered s) (hh : Heard s) (hx : SyncSafe s)
    (hs : s.step e = .next s') : SyncSafe s' ↔ SyncCond s e := by
  have hr := ((syncSafe_iff h).mp hx).2
  rw [syncSafe_iff (h.step hs), callsSafe_step hn hh hx.toCallsSafe hs, receiver_step hr hs]
  constructor
  · rintro ⟨hcalls, hrecv⟩
    by_cases hk : ∃ k, e = .recv k
    · exact hrecv hk
    · exact hcalls fun k heq => hk ⟨k, heq⟩
  · exact fun hc => ⟨fun _ => hc, fun _ => hc⟩

/-- An answer is taken up safely exactly when it meets the condition. -/
theorem syncSafe_recv (h : TablesOk s) (hn : Numbered s) (hh : Heard s) (hx : SyncSafe s)
    (hidle : s.rx = .idle) (hr : s.due[k]? = some r) :
    (s.step (.recv k)).Meets SyncSafe ↔ SyncCond s (.recv k) := by
  by_cases ha : s.Active r
  · obtain ⟨ev, actProc, hs⟩ := h.recv hidle hr ha
    rw [Outcome.Meets.of_next hs]
    exact syncSafe_step h hn hh hx hs
  · refine iff_of_false (fun hm => hm.not_aborts (h.recv_aborts hidle hr ha)) fun hc => ?_
    exact ha (hc r hr).1

theorem SyncSafe.init : SyncSafe XSys.init where
  toCallsSafe := CallsSafe.init
  receiver _ _ hrx := by cases hrx

/-- **The calls of an xApp.** In every run whose waits do not end without
cause, whose timeouts do not come before the answer of a call that reports
success, whose answers come while their procedures are active and a timer of
their kind is pending, and whose signals reach their calls, every state keeps
the promises of the calls.  Each of these conditions is needed: a step that
does not meet it leads to a state that breaks a promise, or ends the
process. -/
theorem sync_calls (s : XSys) (h : xappMachine.ReachedBy SyncCond s) :
    SyncSafe s ∧
      (∀ k r, s.rx = .idle → s.due[k]? = some r →
        ((s.step (.recv k)).Meets SyncSafe ↔ SyncCond s (.recv k))) ∧
      ∀ e s', s.step e = .next s' → (SyncSafe s' ↔ SyncCond s e) := by
  have hx : SyncSafe s := h.invariant SyncSafe.init fun s e s' hr hp hc hs =>
    (syncSafe_step (tablesOk hr.reachable) (numbered hr.reachable) (heard hr.reachable) hp hs).mpr hc
  have ht := tablesOk h.reachable
  have hn := numbered h.reachable
  have hh := heard h.reachable
  exact ⟨hx, fun _ _ hidle hr => syncSafe_recv ht hn hh hx hidle hr,
    fun _ _ hs => syncSafe_step ht hn hh hx hs⟩

/-- A control that is answered while it waits. -/
def answeredControl : List XEvent :=
  [.controlSm (.gnb 1) 3, .send 0, .register 0 (some 5), .wait 0, .recv 0, .stopTimer (0, 0),
    .signal 0, .ret 0]

theorem sync_calls_answered_control :
    ∃ s, (s.returned.any fun x => x.success == some true) = true ∧ SyncSafe s := by
  obtain ⟨s, hr, hs⟩ := Machine.ReachedBy.exists_of_run (M := xappMachine) (C := SyncCond)
    answeredControl (fun s => s.returned.any fun x => x.success == some true) (by decide)
  exact ⟨s, hs, (sync_calls s hr).1⟩

/-- A control that nobody answers, and whose wait times out. -/
def unansweredControl : List XEvent :=
  [.controlSm (.gnb 1) 3, .send 0, .register 0 (some 5), .wait 0, .timeout 0, .ret 0]

/-- The call reports success without an answer; the answer then ends the
process. -/
theorem timed_out_control_succeeds :
    (¬ ∀ s, xappMachine.Reachable s → SyncSafe s) ∧
      ∃ s, xappMachine.Reachable s ∧ (s.step (.recv 0)).Aborts := by
  constructor
  · intro hclaim
    obtain ⟨s, hr, hs⟩ := Machine.Reachable.exists_of_run (M := xappMachine) unansweredControl
      (fun s => s.returned.any fun x => x.success == some true && x.received == false)
      (by decide)
    simp only [List.any_eq_true, Bool.and_eq_true, beq_iff_eq] at hs
    obtain ⟨x, hx, hsucc, hrec⟩ := hs
    have hin := ((hclaim s hr).returned x hx).inTime hsucc
    rw [hrec] at hin
    cases hin
  · obtain ⟨s, hr, hs⟩ := Machine.Reachable.exists_of_run (M := xappMachine) unansweredControl
      (fun s => (s.step (.recv 0)).aborted) (by decide)
    exact ⟨s, hr, Outcome.aborts_of_aborted hs⟩

end XSys

end FlexRic
