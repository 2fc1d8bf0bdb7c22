import FlexRic.XApp.System

/-!
# FlexRic.XApp.Steps

What one event of an xApp can do: first the functions it calls, then, in
`step_cases`, the whole event.
-/

namespace FlexRic

namespace XSys

variable {s s' : XSys} {e : XEvent} {c : XCall} {r : XReq} {i k : Nat}

/-! ## What the functions do -/

/-- A new id has the next number, and is registered. -/
theorem generateRicGenId_eq_next {p p' : ActProc} {type : ActProcType} {ranFuncId : UInt16}
    {node : GlobalE2NodeId} {id : RicGenId}
    (h : generateRicGenId p type ranFuncId node = .next (id, p')) :
    id.ricReqId ∈ p'.keys ∧ ActProc.Extends p p' := by
  simp only [generateRicGenId, Outcome.bind_eq_next, Outcome.assert_eq_next, Outcome.pure_eq,
    Outcome.next_inj, decide_eq_true_eq] at h
  obtain ⟨-, -, -, hlt, heq⟩ := h
  cases heq
  refine ⟨?_, .inr ⟨hlt, rfl, ActProc.keys_addActProc⟩⟩
  rw [ActProc.keys_addActProc]
  exact List.mem_append_right _ List.mem_cons_self

/-- A timer is added under a new descriptor. -/
theorem addPendingEventXapp_eq_next {p p' : PendingEventXappDs} {ev : PendingEventXapp}
    {timer : Option Fd} {fd : Fd} (h : addPendingEventXapp p ev timer = .next (fd, p')) :
    0 < fd ∧ (∀ e ∈ p.left, e.1 ≠ fd) ∧
      p' = Bimap.inserted cmpFd cmpPendingEventXapp p fd ev := by
  simp only [addPendingEventXapp, Outcome.bind_eq_next, Outcome.assert_eq_next,
    Outcome.expect_eq_next, Outcome.await_eq_next, Outcome.pure_eq, Outcome.next_inj] at h
  obtain ⟨-, -, fd', -, -, hnot, q, hadd, heq⟩ := h
  cases heq
  obtain ⟨hpos, rfl⟩ := PendingEventXappDs.addPendingEvent_eq_next hadd
  refine ⟨hpos, fun e he hfd => ?_, rfl⟩
  simp only [Bool.not_eq_eq_eq_not, Bool.not_true, List.any_eq_false, beq_iff_eq] at hnot
  exact hnot e he hfd

/-- An answer is looked up by its number. -/
theorem findAnswered_eq_next {p p' : ActProc} {ev : PendingEventXapp}
    (h : findAnswered p r = .next (ev, p')) :
    ev.ev = r.call.pendingEvent ∧ p'.keys = p.keys ∧ p'.keyId = p.keyId ∧
      r.key.toUInt32 ∈ p.keys := by
  simp only [findAnswered, Outcome.bind_eq_next, Outcome.expect_eq_next, Outcome.pure_eq,
    Outcome.next_inj] at h
  obtain ⟨⟨rv, q⟩, hfind, val, hrv, heq⟩ := h
  cases heq
  obtain ⟨hkeys, hid, hmem⟩ := ActProc.findActProc_eq_next hfind
  exact ⟨rfl, hkeys, hid, hmem.mp (Option.isSome_of_mem hrv)⟩

/-- The answer of a procedure that is active is taken up. -/
theorem findAnswered_of_mem {p : ActProc} (hpos : 0 < r.key.toUInt32)
    (h : r.key.toUInt32 ∈ p.keys) : ∃ ev p', findAnswered p r = .next (ev, p') := by
  obtain ⟨val, p', hfind⟩ := ActProc.findActProc_of_mem hpos h
  exact ⟨_, p', by rw [findAnswered, hfind]; rfl⟩

/-- The answer of any other ends the process. -/
theorem findAnswered_aborts {p : ActProc} (hpos : 0 < r.key.toUInt32)
    (h : r.key.toUInt32 ∉ p.keys) : (findAnswered p r).Aborts := by
  rw [findAnswered, ActProc.findActProc_of_not_mem hpos h]
  exact Outcome.abort_aborts

/-- Returning takes procedures out of the registry only. -/
theorem finish_eq_next {p p' : ActProc} (h : finish p r = .next p') :
    p'.keyId = p.keyId ∧ p'.keys ⊆ p.keys := by
  have hrm : ∀ {q}, p.rmActProc r.key = .next q → q.keyId = p.keyId ∧ q.keys ⊆ p.keys := fun hq =>
    ⟨(ActProc.rmActProc_eq_next hq).1, fun k hk => (((ActProc.rmActProc_eq_next hq).2 k).mp hk).1⟩
  rw [finish] at h
  cases hc : r.call with
  | reportSm =>
    rw [hc] at h
    cases h
    exact ⟨rfl, List.Subset.refl _⟩
  | rmReportSm =>
    rw [hc] at h
    exact hrm h
  | controlSm =>
    rw [hc] at h
    exact hrm h

/-! ## What an event can do -/

/-- The timer of a call's request has been registered. -/
def withTimer (s : XSys) (i : Nat) (c : XCall) (phase : Phase) (fd : Fd)
    (pending : PendingEventXappDs) : XSys :=
  { s.setPhase i c phase with pending, timers := s.timers ++ [(fd, c.req)] }

/-- A call's request is out. -/
def withDue (s : XSys) (i : Nat) (c : XCall) (phase : Phase) : XSys :=
  { s.setPhase i c phase with due := s.due ++ [c.req] }

/-- A call has returned. -/
def finished (s : XSys) (i : Nat) (c : XCall) (cause : Wake) (received : Bool)
    (actProc : ActProc) : XSys :=
  { s with
    actProc
    calls := s.calls.eraseIdx i
    returned := s.returned ++ [⟨c.req, c.req.call.success, cause, received⟩] }

/-- An answer has been taken up. -/
def taken (s : XSys) (k : Nat) (r : XReq) (ev : PendingEventXapp) (actProc : ActProc) : XSys :=
  { s with
    actProc
    due := s.due.eraseIdx k
    rx := .found r ev
    received := s.received ++ [r.uid] }

/-- A timer has been stopped for the answer of `r`. -/
def withoutTimer (s : XSys) (r : XReq) (fd : Fd) (pending : PendingEventXappDs) : XSys :=
  { s with pending, rx := .stopped r, timers := s.timers.filter fun t => t.1 != fd }

/-- The answer of `r` has been signalled. -/
def signalDone (s : XSys) (r : XReq) : XSys :=
  { s with sync := ⟨true, true⟩, rx := .idle, signalled := s.signalled ++ [r.uid] }

/-- The event is a call. -/
inductive Begins : XEvent → SyncCall → Prop
  | reportSm (id ranFuncId) : Begins (.reportSm id ranFuncId) .reportSm
  | rmReportSm (ricReqId) : Begins (.rmReportSm ricReqId) .rmReportSm
  | controlSm (id ranFuncId) : Begins (.controlSm id ranFuncId) .controlSm

/-- What one event can do. -/
inductive Effect (s : XSys) (e : XEvent) (s' : XSys) : Prop
  | opened (call : SyncCall) (id : RicGenId) (actProc : ActProc) (event : Begins e call)
      (active : id.ricReqId ∈ actProc.keys) (ext : ActProc.Extends s.actProc actProc)
      (eq : s' = s.opened actProc call id)
  | registered (i : Nat) (timer : Option Fd) (c : XCall) (phase : Phase) (fd : Fd)
      (event : e = .register i timer) (call : s.calls[i]? = some c)
      (next : c.afterRegister = some phase) (pos : 0 < fd)
      (notOpen : ∀ t ∈ s.pending.left, t.1 ≠ fd)
      (eq : s' = s.withTimer i c phase fd
        (Bimap.inserted cmpFd cmpPendingEventXapp s.pending fd c.req.timer))
  | sent (i : Nat) (c : XCall) (phase : Phase) (event : e = .send i)
      (call : s.calls[i]? = some c) (next : c.afterSend = some phase)
      (eq : s' = s.withDue i c phase)
  | waits (i : Nat) (c : XCall) (event : e = .wait i) (call : s.calls[i]? = some c)
      (ready : c.phase = .ready) (eq : s' = s.setPhase i c .waiting)
  | timedOut (i : Nat) (c : XCall) (event : e = .timeout i) (call : s.calls[i]? = some c)
      (waiting : c.phase = .waiting) (eq : s' = s.wake i c .timedOut)
  | spurious (i : Nat) (c : XCall) (event : e = .spurious i) (call : s.calls[i]? = some c)
      (waiting : c.phase = .waiting) (eq : s' = s.wake i c .spurious)
  | returned (i : Nat) (c : XCall) (cause : Wake) (received : Bool) (actProc : ActProc)
      (event : e = .ret i) (call : s.calls[i]? = some c)
      (woken : c.phase = .woken cause received) (done : finish s.actProc c.req = .next actProc)
      (eq : s' = s.finished i c cause received actProc)
  | taken (k : Nat) (r : XReq) (ev : PendingEventXapp) (actProc : ActProc)
      (event : e = .recv k) (idle : s.rx = .idle) (due : s.due[k]? = some r)
      (found : findAnswered s.actProc r = .next (ev, actProc)) (eq : s' = s.taken k r ev actProc)
  | stopped (picks : Picks) (r : XReq) (ev : PendingEventXapp) (fd : Fd)
      (pending : PendingEventXappDs) (event : e = .stopTimer picks) (rx : s.rx = .found r ev)
      (removed : s.pending.rmPendingEventEv ev picks = .next (fd, pending))
      (eq : s' = s.withoutTimer r fd pending)
  | woke (i : Nat) (r : XReq) (c : XCall) (event : e = .signal i) (rx : s.rx = .stopped r)
      (call : s.calls[i]? = some c) (waiting : c.phase = .waiting)
      (eq : s' = (s.signalDone r).wake i c (.signal r.uid))
  | lost (i : Nat) (r : XReq) (event : e = .signal i) (rx : s.rx = .stopped r)
      (none : ∀ c ∈ s.calls, c.phase ≠ .waiting) (eq : s' = s.signalDone r)
  | expired (fd : Fd) (retryCount : Nat) (event : e = .expired fd)
      (eq : s' = { s with retryCount })

/-- **A signal wakes a call**, or is lost. -/
theorem signalSyncUi_eq_next (h : s.signalSyncUi r i = .next s') :
    (∃ c, s.calls[i]? = some c ∧ c.phase = .waiting ∧
        s' = (s.signalDone r).wake i c (.signal r.uid)) ∨
      (∀ c ∈ s.calls, c.phase ≠ .waiting) ∧ s' = s.signalDone r := by
  simp only [signalSyncUi] at h
  split at h
  · simp only [Outcome.bind_eq_next, Outcome.awaitSome_eq_next, Outcome.await_eq_next,
      Outcome.pure_eq, Outcome.next_inj, beq_iff_eq] at h
    obtain ⟨c, hc, ⟨⟩, hw, rfl⟩ := h
    exact .inl ⟨c, hc, hw, rfl⟩
  · rename_i hnone
    cases h
    refine .inr ⟨fun c hc hw => hnone ?_, rfl⟩
    exact List.any_eq_true.mpr ⟨c, hc, by rw [hw]; rfl⟩

/-- **The effect of an event.** -/
theorem step_cases (h : s.step e = .next s') : Effect s e s' := by
  cases e with
  | reportSm id ranFuncId =>
    simp only [step, Outcome.bind_eq_next, Outcome.pure_eq, Outcome.next_inj] at h
    obtain ⟨⟨ricId, p⟩, hgen, rfl⟩ := h
    obtain ⟨hactive, hext⟩ := generateRicGenId_eq_next hgen
    exact .opened _ ricId p (.reportSm id ranFuncId) hactive hext rfl
  | rmReportSm ricReqId =>
    simp only [step, Outcome.bind_eq_next, Outcome.assert_eq_next, Outcome.expect_eq_next,
      Outcome.pure_eq, Outcome.next_inj] at h
    obtain ⟨-, -, ⟨ans, p⟩, hfind, val, hans, rfl⟩ := h
    obtain ⟨hkeys, hkey, hmem⟩ := ActProc.findActProc_eq_next hfind
    cases hans
    refine .opened _ val.id p (.rmReportSm ricReqId) ?_ (.inl ⟨hkey, hkeys⟩) rfl
    rw [ActProc.findActProc_id hfind, hkeys]
    exact hmem.mp rfl
  | controlSm id ranFuncId =>
    simp only [step, Outcome.bind_eq_next, Outcome.pure_eq, Outcome.next_inj] at h
    obtain ⟨-, -, ⟨ricId, p⟩, hgen, rfl⟩ := h
    obtain ⟨hactive, hext⟩ := generateRicGenId_eq_next hgen
    exact .opened _ ricId p (.controlSm id ranFuncId) hactive hext rfl
  | register i timer =>
    simp only [step, Outcome.bind_eq_next, Outcome.awaitSome_eq_next, Outcome.pure_eq,
      Outcome.next_inj] at h
    obtain ⟨c, hc, phase, hphase, ⟨fd, pending⟩, hadd, rfl⟩ := h
    obtain ⟨hpos, hnot, rfl⟩ := addPendingEventXapp_eq_next hadd
    exact .registered i timer c phase fd rfl hc hphase hpos hnot rfl
  | send i =>
    simp only [step, Outcome.bind_eq_next, Outcome.awaitSome_eq_next, Outcome.pure_eq,
      Outcome.next_inj] at h
    obtain ⟨c, hc, phase, hphase, rfl⟩ := h
    exact .sent i c phase rfl hc hphase rfl
  | wait i =>
    simp only [step, Outcome.bind_eq_next, Outcome.awaitSome_eq_next, Outcome.await_eq_next,
      Outcome.pure_eq, Outcome.next_inj, beq_iff_eq] at h
    obtain ⟨c, hc, ⟨⟩, hready, rfl⟩ := h
    exact .waits i c rfl hc hready rfl
  | timeout i =>
    simp only [step, Outcome.bind_eq_next, Outcome.awaitSome_eq_next, Outcome.await_eq_next,
      Outcome.pure_eq, Outcome.next_inj, beq_iff_eq] at h
    obtain ⟨c, hc, ⟨⟩, hw, rfl⟩ := h
    exact .timedOut i c rfl hc hw rfl
  | spurious i =>
    simp only [step, Outcome.bind_eq_next, Outcome.awaitSome_eq_next, Outcome.await_eq_next,
      Outcome.pure_eq, Outcome.next_inj, beq_iff_eq] at h
    obtain ⟨c, hc, ⟨⟩, hw, rfl⟩ := h
    exact .spurious i c rfl hc hw rfl
  | ret i =>
    simp only [step, Outcome.bind_eq_next, Outcome.awaitSome_eq_next] at h
    obtain ⟨c, hc, h⟩ := h
    split at h
    · rename_i cause received hw
      simp only [Outcome.bind_eq_next, Outcome.pure_eq, Outcome.next_inj] at h
      obtain ⟨p, hp, rfl⟩ := h
      exact .returned i c cause received p rfl hc hw hp rfl
    · cases h
  | recv k =>
    simp only [step, Outcome.bind_eq_next, Outcome.awaitSome_eq_next, Outcome.await_eq_next,
      Outcome.pure_eq, Outcome.next_inj, beq_iff_eq] at h
    obtain ⟨⟨⟩, hidle, r, hr, ⟨ev, p⟩, hfound, rfl⟩ := h
    exact .taken k r ev p rfl hidle hr hfound rfl
  | stopTimer picks =>
    simp only [step] at h
    split at h
    · rename_i r ev hrx
      simp only [Outcome.bind_eq_next, Outcome.pure_eq, Outcome.next_inj] at h
      obtain ⟨⟨fd, pending⟩, hrm, rfl⟩ := h
      exact .stopped picks r ev fd pending rfl hrx hrm rfl
    · cases h
  | signal i =>
    simp only [step] at h
    split at h
    · rename_i r hrx
      obtain ⟨c, hc, hw, rfl⟩ | ⟨hnone, rfl⟩ := signalSyncUi_eq_next h
      · exact .woke i r c rfl hrx hc hw rfl
      · exact .lost i r rfl hrx hnone rfl
    · cases h
  | expired fd =>
    simp only [step, Outcome.bind_eq_next, Outcome.await_eq_next, Outcome.pure_eq,
      Outcome.next_inj] at h
    obtain ⟨-, -, -, -, ev, -, rfl⟩ := h
    exact .expired fd _ rfl rfl

end XSys

end FlexRic
