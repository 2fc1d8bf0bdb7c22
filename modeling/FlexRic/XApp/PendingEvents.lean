import FlexRic.XApp.Invariants

/-!
# FlexRic.XApp.PendingEvents

The timers of an xApp against its requests.

* `stopsOwnTimer_iff`: when the answer being handled stops the timer of its
  own request, however the trees are balanced;
* `timersExact_step`: which steps lead from a state where it does to another;
* `timers_exact`: the same along runs, with the timers of the requests that
  are out.
-/

namespace FlexRic

namespace XSys

variable {s s' : XSys} {e : XEvent} {c c' : XCall} {r : XReq} {i k : Nat} {phase : Phase}
  {ev : PendingEventXapp}

/-! ## The timer an answer stops -/

/-- Each kind of call has its own pending event. -/
theorem pendingEvent_inj {a b : SyncCall} : a.pendingEvent = b.pendingEvent ↔ a = b := by
  cases a <;> cases b <;> decide

/-- Handling the answer of `r` removes the timer registered for `r` from both
trees, and leaves those of all other requests. -/
def StopsOwnTimer (s : XSys) (r : XReq) : Prop :=
  ∃ fd, (fd, r) ∈ s.timers ∧ ∀ picks, ∃ s', s.step (.stopTimer picks) = .next s' ∧
    Bimap.RemovedPair s.pending fd r.timer s'.pending ∧
      ∀ t, t ∈ s'.timers ↔ t ∈ s.timers ∧ t.2 ≠ r

/-- The answer being handled stops the timer of its own request. -/
def TimersExact (s : XSys) : Prop := ∀ r ev, s.rx = .found r ev → s.StopsOwnTimer r

/-- The request has a timer, and no other of its kind has one. -/
def AloneTimed (s : XSys) (r : XReq) : Prop :=
  (∃ fd, (fd, r) ∈ s.timers) ∧ ∀ t ∈ s.timers, t.2.call = r.call → t.2 = r

/-- A request has one timer. -/
theorem Numbered.timer_once (h : Numbered s) {t t' : Fd × XReq} (ht : t ∈ s.timers)
    (ht' : t' ∈ s.timers) (hr : t.2 = t'.2) : t = t' :=
  List.inj_on_of_nodup_map h.timed ht ht' (congrArg XReq.uid hr)

/-- Two removals with one result have removed the same descriptor. -/
theorem TablesOk.removed_unique (h : TablesOk s) {fd fd' : Fd} {p' : PendingEventXappDs}
    {ev' : PendingEventXapp} (hr : Bimap.RemovedPair s.pending fd ev p')
    (hr' : Bimap.RemovedPair s.pending fd' ev' p') : fd = fd' := by
  have hnodup : (fd :: p'.left.map Prod.fst).Nodup :=
    (hr.perm_first.map Prod.fst).nodup_iff.mp h.fds_left
  have hperm := (hr.perm_first.symm.trans hr'.perm_first).map Prod.fst
  obtain heq | hmem := List.mem_cons.mp (hperm.mem_iff.mp List.mem_cons_self)
  · exact heq
  · exact absurd hmem (List.nodup_cons.mp hnodup).1

/-- An answer stops the timer that is found under its kind. -/
theorem stopTimer_eq_next {picks : Picks} (hrx : s.rx = .found r ev)
    (h : s.step (.stopTimer picks) = .next s') :
    ∃ fd p', s.pending.rmPendingEventEv ev picks = .next (fd, p') ∧
      s' = s.withoutTimer r fd p' := by
  simp only [step, hrx, Outcome.bind_eq_next, Outcome.pure_eq, Outcome.next_inj] at h
  obtain ⟨⟨fd, p'⟩, hrm, rfl⟩ := h
  exact ⟨fd, p', hrm, rfl⟩

/-- **The timer of an answer.** It is the one registered for the request,
exactly when the request has one and no other request of its kind has. -/
theorem stopsOwnTimer_iff (h : TablesOk s) (hn : Numbered s) (hrx : s.rx = .found r ev) :
    s.StopsOwnTimer r ↔ s.AloneTimed r := by
  have hev := h.rx r ev hrx
  have hkind : ∀ {r' : XReq}, r'.timer.ev = ev.ev ↔ r'.call = r.call := fun {r'} => by
    rw [hev]
    exact pendingEvent_inj
  constructor
  · rintro ⟨fd, hmem, hstop⟩
    refine ⟨⟨fd, hmem⟩, fun t ht hcall => ?_⟩
    have hall : ∀ picks, ∃ p', s.pending.rmPendingEventEv ev picks = .next (fd, p') ∧
        Bimap.RemovedPair s.pending fd r.timer p' := by
      intro picks
      obtain ⟨s', hs, hr, -⟩ := hstop picks
      obtain ⟨fd', p', hrm, rfl⟩ := stopTimer_eq_next hrx hs
      obtain ⟨ev', -, hr'⟩ := PendingEventXappDs.rmPendingEventEv_spec h.pending hrm
      have hfd := h.removed_unique hr hr'
      subst hfd
      exact ⟨p', hrm, hr⟩
    obtain ⟨-, honly⟩ := (PendingEventXappDs.rmPendingEventEv_exact_iff h.pending
      (hkind.mpr rfl)).mp hall
    have hfd := honly _ (h.mem_timers ht) (hkind.mpr hcall)
    exact h.timer_unique (hfd ▸ ht) hmem
  · rintro ⟨⟨fd, hmem⟩, halone⟩
    have honce : ∀ t ∈ s.timers, t.2 = r → t.1 = fd := fun t ht hr =>
      congrArg Prod.fst (hn.timer_once ht hmem hr)
    refine ⟨fd, hmem, fun picks => ?_⟩
    have honly : ∀ t ∈ s.pending.left, t.2.ev = ev.ev → t.1 = fd := fun t ht hk => by
      obtain ⟨r', hr', heq⟩ := h.timer_of_mem ht
      rw [heq] at hk
      exact honce _ hr' (halone _ hr' (hkind.mp hk))
    obtain ⟨p', hrm, hr⟩ := (PendingEventXappDs.rmPendingEventEv_exact_iff h.pending
      (hkind.mpr rfl)).mpr ⟨h.mem_timers hmem, honly⟩ picks
    refine ⟨s.withoutTimer r fd p', by simp [step, hrx, hrm, withoutTimer], hr, fun t => ?_⟩
    simp only [withoutTimer, List.mem_filter, bne_iff_ne, ne_eq]
    refine and_congr_right fun ht => not_congr ⟨fun hfd => ?_, honce t ht⟩
    exact h.timer_unique (hfd ▸ ht) hmem

/-- **The timers are exact** if the answer in hand has the only one of its kind. -/
theorem timersExact_iff (h : TablesOk s) (hn : Numbered s) :
    s.TimersExact ↔ ∀ r ∈ s.rx.answering, s.AloneTimed r := by
  cases hrx : s.rx with
  | found r ev =>
    simp only [TimersExact, hrx, Rx.answering, List.mem_singleton, forall_eq]
    constructor
    · intro hx
      exact (stopsOwnTimer_iff h hn hrx).mp (hx r ev rfl)
    · intro ha r' ev' heq
      cases heq
      exact (stopsOwnTimer_iff h hn hrx).mpr ha
  | idle =>
    refine iff_of_true (fun r ev heq => ?_) fun r hr => absurd hr List.not_mem_nil
    rw [hrx] at heq
    cases heq
  | stopped r =>
    refine iff_of_true (fun r ev heq => ?_) fun r hr => absurd hr List.not_mem_nil
    rw [hrx] at heq
    cases heq

/-! ## The condition on a step -/

/-- The call of the request has sent it and not registered its timer. -/
def MidSend (s : XSys) (r : XReq) : Prop := ∃ c ∈ s.calls, c.req = r ∧ c.phase = .sent

instance (s : XSys) (r : XReq) : Decidable (s.MidSend r) :=
  inferInstanceAs (Decidable (∃ c ∈ s.calls, c.req = r ∧ c.phase = .sent))

/-- The steps on which the timers stay exact: an answer comes while its
procedure is active, not before its call has registered the timer, and while
no other request of its kind has one; no timer of its kind is registered
before it has stopped its own. -/
def TimerCond (s : XSys) : XEvent → Prop
  | .recv k => ∀ r ∈ s.due[k]?, s.Active r ∧ ¬ s.MidSend r ∧
      ∀ t ∈ s.timers, t.2.call = r.call → t.2 = r
  | .register i _ => ∀ c ∈ s.calls[i]?, ∀ r ∈ s.rx.answering, r.call ≠ c.req.call
  | _ => True

instance (s : XSys) (e : XEvent) : Decidable (TimerCond s e) := by
  cases e <;> simp only [TimerCond] <;> infer_instance

/-! ## The timers of the requests that are out -/

/-- A request that is out has a timer, unless its call is yet to register it. -/
structure Kept (s : XSys) : Prop where
  registered : ∀ c ∈ s.calls, c.phase = .registered → ∃ fd, (fd, c.req) ∈ s.timers
  due : ∀ r ∈ s.due, (∃ fd, (fd, r) ∈ s.timers) ∨ s.MidSend r

namespace Kept

theorem init : Kept XSys.init where
  registered _ h := absurd h List.not_mem_nil
  due _ h := absurd h List.not_mem_nil

/-- Nothing goes out and no timer is stopped. -/
theorem mono (h : Kept s) (hreg : ∀ c ∈ s'.calls, c.phase = .registered → c ∈ s.calls)
    (hsent : ∀ c ∈ s.calls, c.phase = .sent → c ∈ s'.calls) (hdue : s'.due ⊆ s.due)
    (htimers : s.timers ⊆ s'.timers) : Kept s' where
  registered c hc hp := by
    obtain ⟨fd, hfd⟩ := h.registered c (hreg c hc hp) hp
    exact ⟨fd, htimers hfd⟩
  due r hr := by
    obtain ⟨fd, hfd⟩ | ⟨c, hc, hreq, hp⟩ := h.due r (hdue hr)
    · exact .inl ⟨fd, htimers hfd⟩
    · exact .inr ⟨c, hsent c hc hp, hreq, hp⟩

/-- A call that has sent and registered moves on. -/
theorem moved (h : Kept s) (hn : Numbered s) (hc : s.calls[i]? = some c)
    (hold : c.phase ≠ .sent) (hnew : phase ≠ .registered)
    (hcalls : s'.calls = (s.setPhase i c phase).calls) (hdue : s'.due ⊆ s.due)
    (htimers : s.timers ⊆ s'.timers) : Kept s' := by
  refine h.mono (fun c' hc' hp => ?_) (fun c' hc' hp => ?_) hdue htimers
  · rw [hcalls] at hc'
    obtain hc' | rfl := mem_setPhase hc'
    · exact hc'
    · exact absurd hp hnew
  · rw [hcalls, mem_setPhase_iff hn.calls hc]
    refine .inr ⟨hc', fun huid => hold ?_⟩
    rw [← call_unique hn.calls hc' (List.mem_of_getElem? hc) huid]
    exact hp

theorem withTimer (h : Kept s) (hn : Numbered s) (hc : s.calls[i]? = some c) (fd : Fd)
    (pending : PendingEventXappDs) : Kept (s.withTimer i c phase fd pending) := by
  have hnew : (fd, c.req) ∈ (s.withTimer i c phase fd pending).timers :=
    List.mem_append_right _ List.mem_cons_self
  have hold : s.timers ⊆ (s.withTimer i c phase fd pending).timers :=
    List.subset_append_left _ _
  refine ⟨fun c' hc' hp => ?_, fun r hr => ?_⟩
  · obtain rfl | ⟨hc', -⟩ := (mem_setPhase_iff hn.calls hc).mp hc'
    · exact ⟨fd, hnew⟩
    · obtain ⟨fd', hfd'⟩ := h.registered c' hc' hp
      exact ⟨fd', hold hfd'⟩
  · obtain ⟨fd', hfd'⟩ | ⟨c', hc', hreq, hp⟩ := h.due r hr
    · exact .inl ⟨fd', hold hfd'⟩
    by_cases huid : c'.req.uid = c.req.uid
    · have heq := call_unique hn.calls hc' (List.mem_of_getElem? hc) huid
      exact .inl ⟨fd, by rw [← hreq, heq]; exact hnew⟩
    · exact .inr ⟨c', (mem_setPhase_iff hn.calls hc).mpr (.inr ⟨hc', huid⟩), hreq, hp⟩

theorem sent (h : Kept s) (hn : Numbered s) (hc : s.calls[i]? = some c)
    (hnext : c.afterSend = some phase) : Kept (s.withDue i c phase) := by
  have hmem : c ∈ s.calls := List.mem_of_getElem? hc
  refine ⟨fun c' hc' hp => ?_, fun r hr => ?_⟩
  · obtain rfl | ⟨hc', -⟩ := (mem_setPhase_iff hn.calls hc).mp hc'
    · obtain ⟨-, hr⟩ | ⟨-, hr⟩ := afterSend_eq_some hnext <;> subst hr <;> cases hp
    · exact h.registered c' hc' hp
  · obtain hr | hr := List.mem_append.mp hr
    · obtain ht | ⟨c', hc', hreq, hp⟩ := h.due r hr
      · exact .inl ht
      refine .inr ⟨c', (mem_setPhase_iff hn.calls hc).mpr (.inr ⟨hc', fun huid => ?_⟩), hreq, hp⟩
      rw [call_unique hn.calls hc' hmem huid] at hp
      obtain ⟨hs, -⟩ | ⟨hs, -⟩ := afterSend_eq_some hnext <;> rw [hs] at hp <;> cases hp
    · rw [List.mem_singleton.mp hr]
      obtain ⟨-, rfl⟩ | ⟨hreg, rfl⟩ := afterSend_eq_some hnext
      · exact .inr ⟨{ c with phase := .sent }, (mem_setPhase_iff hn.calls hc).mpr (.inl rfl), rfl, rfl⟩
      · exact .inl (h.registered c hmem hreg)

/-- Stopping the timer of its own request takes none from the requests that
are out. -/
theorem stopped (h : Kept s) (hn : Numbered s) (hrx : s.rx = .found r ev)
    (htimers : ∀ t ∈ s.timers, t.2 ≠ r → t ∈ s'.timers) (hcalls : s'.calls = s.calls)
    (hdue : s'.due = s.due) : Kept s' := by
  have hans : r.uid ∈ s.out := List.mem_map.mpr
    ⟨r, List.mem_append_right _ (by rw [hrx]; exact List.mem_cons_self), rfl⟩
  refine ⟨fun c hc hp => ?_, fun r' hr' => ?_⟩
  · rw [hcalls] at hc
    obtain ⟨fd, hfd⟩ := h.registered c hc hp
    refine ⟨fd, htimers _ hfd fun heq => hn.unsent c hc (.inr hp) ?_⟩
    rw [show c.req = r from heq]
    exact hans
  · rw [hdue] at hr'
    obtain ⟨fd, hfd⟩ | hsent := h.due r' hr'
    · refine .inl ⟨fd, htimers _ hfd fun heq => ?_⟩
      have hnodup := hn.out
      simp only [out, hrx, Rx.answering, List.map_append, List.map_cons, List.map_nil] at hnodup
      have hdisj := (List.nodup_append.mp hnodup).2.2
      exact hdisj _ (List.mem_map.mpr ⟨r', hr', rfl⟩) _ List.mem_cons_self (congrArg XReq.uid heq)
    · rw [MidSend, hcalls]
      exact .inr hsent

theorem step (h : Kept s) (hn : Numbered s) (hx : s.TimersExact)
    (hs : s.step e = .next s') : Kept s' := by
  cases step_cases hs with
  | opened call id actProc event active ext eq =>
    subst eq
    refine h.mono (fun c hc hp => ?_) (fun c hc _ => List.mem_append_left _ hc)
      (List.Subset.refl _) (List.Subset.refl _)
    obtain hc | hc := List.mem_append.mp hc
    · exact hc
    · rw [List.mem_singleton.mp hc] at hp
      cases hp
  | registered i timer c phase fd event call next pos notOpen eq =>
    exact eq ▸ h.withTimer hn call fd _
  | sent i c phase event call next eq => exact eq ▸ h.sent hn call next
  | waits i c event call ready eq =>
    subst eq
    exact h.moved hn call (by simp [ready]) (by simp) rfl (List.Subset.refl _) (List.Subset.refl _)
  | timedOut i c event call waiting eq =>
    subst eq
    exact h.moved hn call (by simp [waiting]) (by simp) rfl (List.Subset.refl _)
      (List.Subset.refl _)
  | spurious i c event call waiting eq =>
    subst eq
    exact h.moved hn call (by simp [waiting]) (by simp) rfl (List.Subset.refl _)
      (List.Subset.refl _)
  | returned i c cause received actProc event call woken done eq =>
    subst eq
    refine h.mono (fun c hc _ => List.mem_of_mem_eraseIdx hc) (fun c' hc' hp => ?_)
      (List.Subset.refl _) (List.Subset.refl _)
    obtain rfl | hmem := List.mem_cons.mp ((setPhase_perm call c.phase).2.mem_iff.mp hc')
    · rw [woken] at hp
      cases hp
    · exact hmem
  | taken k r ev actProc event idle due found eq =>
    subst eq
    exact h.mono (fun c hc _ => hc) (fun c hc _ => hc) (List.eraseIdx_sublist _ _).subset
      (List.Subset.refl _)
  | stopped picks r ev fd pending event rx removed eq =>
    subst eq
    obtain ⟨fd', hmem, hstop⟩ := hx r ev rx
    obtain ⟨s₁, hs₁, -, hkeep⟩ := hstop picks
    rw [event, hs₁] at hs
    cases hs
    exact h.stopped hn rx (fun t htm hne => (hkeep t).mpr ⟨htm, hne⟩) rfl rfl
  | woke i r c event rx call waiting eq =>
    subst eq
    exact h.moved hn call (by simp [waiting]) (by simp) rfl (List.Subset.refl _)
      (List.Subset.refl _)
  | lost i r event rx none eq =>
    subst eq
    exact h.mono (fun c hc _ => hc) (fun c hc _ => hc) (List.Subset.refl _) (List.Subset.refl _)
  | expired fd retryCount event eq =>
    subst eq
    exact h.mono (fun c hc _ => hc) (fun c hc _ => hc) (List.Subset.refl _) (List.Subset.refl _)

end Kept

/-! ## Steps and runs -/

/-- **One step.** From a state with exact timers a step leads to exact timers
exactly when it meets the condition. -/
theorem timersExact_step (h : TablesOk s) (hn : Numbered s) (hk : Kept s) (hx : s.TimersExact)
    (hs : s.step e = .next s') : s'.TimersExact ↔ TimerCond s e := by
  have ha := (timersExact_iff h hn).mp hx
  rw [timersExact_iff (h.step hs) (hn.step hs)]
  cases step_cases hs with
  | opened call id actProc event active ext eq =>
    subst eq
    cases event <;> exact iff_of_true ha trivial
  | registered i timer c phase fd event call next pos notOpen eq =>
    subst event eq
    simp only [TimerCond, call, Option.mem_some_iff, forall_eq']
    refine forall₂_congr fun r hr => ?_
    obtain ⟨⟨fd', hfd'⟩, halone⟩ := ha r hr
    constructor
    · rintro ⟨-, halone'⟩ hcall
      have hreq : c.req = r :=
        halone' (fd, c.req) (List.mem_append_right _ List.mem_cons_self) hcall.symm
      exact hn.untimed call next (List.mem_map.mpr ⟨(fd', r), hfd', by rw [hreq]⟩)
    · intro hne
      refine ⟨⟨fd', List.mem_append_left _ hfd'⟩, fun t ht hcall => ?_⟩
      obtain ht | ht := List.mem_append.mp ht
      · exact halone t ht hcall
      · rw [List.mem_singleton.mp ht] at hcall
        exact absurd hcall.symm hne
  | sent i c phase event call next eq =>
    subst event eq
    exact iff_of_true ha trivial
  | waits i c event call ready eq =>
    subst event eq
    exact iff_of_true ha trivial
  | timedOut i c event call waiting eq =>
    subst event eq
    exact iff_of_true ha trivial
  | spurious i c event call waiting eq =>
    subst event eq
    exact iff_of_true ha trivial
  | returned i c cause received actProc event call woken done eq =>
    subst event eq
    exact iff_of_true ha trivial
  | taken k r ev actProc event idle due found eq =>
    subst event eq
    obtain ⟨-, -, -, hactive⟩ := findAnswered_eq_next found
    simp only [TimerCond, due, Option.mem_some_iff, forall_eq', taken, Rx.answering,
      List.mem_singleton, forall_eq]
    constructor
    · rintro ⟨⟨fd, hfd⟩, halone⟩
      refine ⟨hactive, ?_, halone⟩
      rintro ⟨c, hc, hreq, hp⟩
      exact hn.unregistered c hc (.inr hp) (List.mem_map.mpr ⟨(fd, r), hfd, by rw [hreq]⟩)
    · rintro ⟨-, hsent, halone⟩
      exact ⟨(hk.due r (List.mem_of_getElem? due)).resolve_right hsent, halone⟩
  | stopped picks r ev fd pending event rx removed eq =>
    subst event eq
    exact iff_of_true (fun r hr => absurd hr List.not_mem_nil) trivial
  | woke i r c event rx call waiting eq =>
    subst event eq
    exact iff_of_true (fun r hr => absurd hr List.not_mem_nil) trivial
  | lost i r event rx none eq =>
    subst event eq
    exact iff_of_true (fun r hr => absurd hr List.not_mem_nil) trivial
  | expired fd retryCount event eq =>
    subst event eq
    exact iff_of_true ha trivial

/-- An answer is taken up and its own timer found exactly when it meets the
condition. -/
theorem timersExact_recv (h : TablesOk s) (hn : Numbered s) (hk : Kept s) (hx : s.TimersExact)
    (hidle : s.rx = .idle) (hr : s.due[k]? = some r) :
    (s.step (.recv k)).Meets TimersExact ↔ TimerCond s (.recv k) := by
  by_cases ha : s.Active r
  · obtain ⟨ev, actProc, hs⟩ := h.recv hidle hr ha
    rw [Outcome.Meets.of_next hs]
    exact timersExact_step h hn hk hx hs
  · refine iff_of_false (fun hm => hm.not_aborts (h.recv_aborts hidle hr ha)) fun hc => ?_
    exact ha (hc r hr).1

/-- **In every run under the condition a request that is out has its timer.** -/
theorem kept (h : xappMachine.ReachedBy TimerCond s) : Kept s ∧ s.TimersExact := by
  have hinit : Kept XSys.init ∧ XSys.init.TimersExact := ⟨Kept.init, fun _ _ hrx => by cases hrx⟩
  refine h.invariant (P := fun s => Kept s ∧ s.TimersExact) hinit fun s e s' hr hp hc hs => ?_
  have ht := tablesOk hr.reachable
  have hn := numbered hr.reachable
  exact ⟨hp.1.step hn hp.2 hs, (timersExact_step ht hn hp.1 hp.2 hs).mpr hc⟩

/-- What the timers of an xApp are there for: one for each request that is
out, from the moment its call has registered it until its answer stops it. -/
structure TimersKept (s : XSys) : Prop where
  pending : s.pending.left.Perm (s.timers.map entry)
  once : (s.timers.map fun t => t.2.uid).Nodup
  due : ∀ r ∈ s.due, (∃ fd, (fd, r) ∈ s.timers) ∨ s.MidSend r
  answer : s.TimersExact

/-- **The timers of an xApp.** In every run whose answers come while their
procedures are active, after their own timers have been registered and while
no other request of their kind has one, the answer of a request removes its
timer and leaves the others.  Each of these conditions is needed: a step that
does not meet it leads to a state where an answer does not stop its own timer,
or ends the process. -/
theorem timers_exact (s : XSys) (h : xappMachine.ReachedBy TimerCond s) :
    TimersKept s ∧
      (∀ k r, s.rx = .idle → s.due[k]? = some r →
        ((s.step (.recv k)).Meets TimersExact ↔ TimerCond s (.recv k))) ∧
      ∀ e s', s.step e = .next s' → (s'.TimersExact ↔ TimerCond s e) := by
  have ht := tablesOk h.reachable
  have hn := numbered h.reachable
  obtain ⟨hk, hx⟩ := kept h
  exact ⟨⟨ht.timers, hn.timed, hk.due, hx⟩,
    fun _ _ hidle hr => timersExact_recv ht hn hk hx hidle hr,
    fun _ _ hs => timersExact_step ht hn hk hx hs⟩

/-- A report and a control are out, and the answer of the report is being
handled. -/
def reportAndControl : List XEvent :=
  [.reportSm (.gnb 1) 142, .register 0 (some 5), .send 0, .controlSm (.gnb 1) 3, .send 1,
    .register 1 (some 6), .recv 0]

theorem timers_exact_report_and_control :
    ∃ s, s.timers.length = 2 ∧ s.rx ≠ .idle ∧ TimersKept s := by
  obtain ⟨s, hr, hs⟩ := Machine.ReachedBy.exists_of_run (M := xappMachine) (C := TimerCond)
    reportAndControl (fun s => s.timers.length == 2 && s.rx != .idle) (by decide)
  simp only [Bool.and_eq_true, beq_iff_eq, bne_iff_ne, ne_eq] at hs
  exact ⟨s, hs.1, hs.2, (timers_exact s hr).1⟩

/-- Two reports are out, and the answer of the second is being handled. -/
def twoReports : List XEvent :=
  [.reportSm (.gnb 1) 142, .register 0 (some 5), .send 0, .reportSm (.gnb 1) 143,
    .register 1 (some 6), .send 1, .recv 1]

/-- A control is answered before its call has registered the timer. -/
def fastAnswer : List XEvent := [.controlSm (.gnb 1) 3, .send 0, .recv 0]

/-- With two reports out the timer that is stopped need not be the one of the
answer, and an answer that comes fast finds no timer. -/
theorem timers_not_exact :
    (¬ ∀ s, xappMachine.Reachable s → s.TimersExact) ∧
      ∃ s, xappMachine.Reachable s ∧ ∀ picks, (s.step (.stopTimer picks)).Aborts := by
  constructor
  · intro hclaim
    obtain ⟨s, hr, hs⟩ := Machine.Reachable.exists_of_run (M := xappMachine) twoReports
      (fun s => s.rx.answering.any fun r => s.timers.any fun t => t.2.call == r.call && t.2 != r)
      (by decide)
    simp only [List.any_eq_true, Bool.and_eq_true, beq_iff_eq, bne_iff_ne, ne_eq] at hs
    obtain ⟨r, hans, t, ht, hcall, hne⟩ := hs
    have ha := (timersExact_iff (tablesOk hr) (numbered hr)).mp (hclaim s hr) r hans
    exact hne (ha.2 t ht hcall)
  · obtain ⟨s, hr, hs⟩ := Machine.Reachable.exists_of_run (M := xappMachine) fastAnswer
      (fun s => s.rx.answering.any fun r => decide (¬ s.TimerPending r.call)) (by decide)
    obtain ⟨r, hans, hnone⟩ := List.any_eq_true.mp hs
    refine ⟨s, hr, fun picks => ?_⟩
    cases hrx : s.rx with
    | found r' ev =>
      rw [hrx] at hans
      rw [List.mem_singleton.mp hans] at hnone
      exact (tablesOk hr).stopTimer_aborts hrx picks (of_decide_eq_true hnone)
    | idle =>
      rw [hrx] at hans
      exact absurd hans List.not_mem_nil
    | stopped r' =>
      rw [hrx] at hans
      exact absurd hans List.not_mem_nil

end XSys

end FlexRic
