import FlexRic.Ric.System

/-!
# FlexRic.Ric.PendingEvents

The timers of the near-RT RIC against its outstanding procedures.

* `timersMatch`: in every run `pending` holds, key by key, as many timers as
  procedures are outstanding, and its two trees mirror each other;
* `stray_aborts`: so an answer nothing waits for always ends the process;
* `oneTimer`: while no request is sent under the kind and id of an
  outstanding one, each procedure has one timer of its own;
* `pending_exact`: in such runs every answer removes the timer of its own
  procedure and no timer expiration does harm.
-/

namespace FlexRic

namespace RicSys

open Bimap

variable {s s' : RicSys} {e : RicEvent}

/-! ## All runs -/

/-- The answer admits exactly the action with id 0, when it is the answer of
a subscription request. -/
def AdmitsOne (p : Proc) (resp : NearRic.Admission) : Prop :=
  p.ev = .subscriptionRequest → resp.lenNa = 0 ∧ resp.admitted = [0]

instance (p : Proc) (resp : NearRic.Admission) : Decidable (AdmitsOne p resp) :=
  inferInstanceAs (Decidable (_ → _))

/-- The timers count the outstanding procedures by kind and id. -/
structure TimersMatch (s : RicSys) : Prop where
  pos : ∀ x ∈ s.ric.pending.left, 0 < x.1
  mirror : Mirror s.ric.pending.left s.ric.pending.right
  fds : OrdAssoc.Distinct cmpFd s.ric.pending.left
  keys : (s.ric.pending.left.map Prod.snd).Perm (s.procs.map Proc.key)

/-- A timer of the table is that of a procedure. -/
theorem TimersMatch.key_mem (h : TimersMatch s) {x : PendingEventRic × Fd}
    (hx : x ∈ s.ric.pending.right) : ∃ p ∈ s.procs, p.key = x.1 := by
  have hmem : x.1 ∈ s.ric.pending.left.map Prod.snd :=
    List.mem_map.mpr ⟨(x.2, x.1), h.mirror.mem.mpr hx, rfl⟩
  exact List.mem_map.mp (h.keys.mem_iff.mp hmem)

/-- Each procedure has a timer in the table. -/
theorem TimersMatch.exists_entry (h : TimersMatch s) {p : Proc} (hp : p ∈ s.procs) :
    ∃ x ∈ s.ric.pending.right, x.1 = p.key := by
  have hmem : p.key ∈ s.procs.map Proc.key := List.mem_map.mpr ⟨p, hp, rfl⟩
  obtain ⟨x, hx, hk⟩ := List.mem_map.mp (h.keys.mem_iff.mpr hmem)
  exact ⟨(x.2, x.1), h.mirror.mem.mp hx, hk⟩

/-- The pair an answer removes carries the key of the answer. -/
theorem TimersMatch.stopped (h : TimersMatch s) {ev : PendingEvent} {id : RicGenId}
    {resp : NearRic.Admission} {picks : Picks} {fd : Fd} {ric : NearRic}
    (hs : s.ric.handleAnswer ev id resp picks = .next (fd, ric)) :
    RemovedPair s.ric.pending fd ⟨ev, id⟩ ric.pending := by
  obtain ⟨hx, -, -⟩ := NearRic.handleAnswer_eq_next hs
  obtain ⟨b, hb, hr⟩ := extractRight_spec lawful_cmpFd h.mirror h.fds hx
  rw [cmpPendingEventRic_eq_zero] at hb
  exact hb ▸ hr

/-- At the start there are no timers. -/
theorem TimersMatch.init : TimersMatch RicSys.init :=
  ⟨nofun, .nil, .nil, .nil⟩

/-- A request adds a procedure and its timer. -/
theorem TimersMatch.opened (h : TimersMatch s) {req : Req} {ev : PendingEvent} {fd : Fd}
    {ric : NearRic} (hst : s.ric.Started fd ⟨ev, req.id⟩ ric) :
    TimersMatch (s.opened ric req ev fd) := by
  have hfds : ∀ x ∈ s.ric.pending.left, cmpFd fd x.1 ≠ 0 := fun x hx hz =>
    hst.notOpen x hx (cmpFd_eq_zero.mp hz).symm
  refine ⟨?_, ?_, ?_, ?_⟩ <;> simp only [RicSys.opened, hst.pending, inserted]
  · intro x hx
    obtain rfl | hx := OrdAssoc.mem_insert.mp hx
    · exact hst.pos
    · exact h.pos x hx
  · exact h.mirror.insert
  · exact (OrdAssoc.distinct_insert lawful_cmpFd).mpr ⟨h.fds, hfds⟩
  · refine ((OrdAssoc.insert_perm _ _ _ _).map Prod.snd).trans ?_
    rw [List.map_append]
    exact (h.keys.cons _).trans (List.perm_append_singleton _ _).symm

/-- An answer takes away a procedure and its timer. -/
theorem TimersMatch.answered (h : TimersMatch s) {k : Nat} {p : Proc} {fd : Fd} {ric : NearRic}
    (hp : s.procs[k]? = some p) (hr : RemovedPair s.ric.pending fd p.key ric.pending) :
    TimersMatch (s.answered ric k p) := by
  obtain ⟨hlt, rfl⟩ := List.getElem?_eq_some_iff.mp hp
  refine ⟨fun x hx => h.pos x (hr.sublist_first.subset hx), hr.mirror h.mirror,
    h.fds.sublist hr.sublist_first, ?_⟩
  have hprocs : (s.procs.map Proc.key).Perm (s.procs[k].key :: (s.procs.eraseIdx k).map Proc.key) :=
    (List.getElem_cons_eraseIdx_perm hlt).symm.map Proc.key
  exact List.Perm.cons_inv (((hr.perm_first.map Prod.snd).symm.trans h.keys).trans hprocs)

/-- The workers do not bear on the timers. -/
theorem TimersMatch.workers (h : TimersMatch s) (workers : List Worker) :
    TimersMatch { s with workers } :=
  ⟨h.pos, h.mirror, h.fds, h.keys⟩

/-- A quiet step does not bear on the timers. -/
theorem TimersMatch.quiet (h : TimersMatch s) (hq : Quiet s s') : TimersMatch s' := by
  refine ⟨?_, ?_, ?_, ?_⟩
  · rw [hq.pending]
    exact h.pos
  · rw [hq.pending]
    exact h.mirror
  · rw [hq.pending]
    exact h.fds
  · rw [hq.pending, hq.procs]
    exact h.keys

/-- The answer of an outstanding procedure is taken, and stops a timer of its
kind and id. -/
theorem TimersMatch.answer (h : TimersMatch s) {k : Nat} {p : Proc} {resp : NearRic.Admission}
    (picks : Picks) (hp : s.procs[k]? = some p) (hresp : AdmitsOne p resp) :
    ∃ fd ric, s.step (.answer k resp picks) = .next (s.answered ric k p) ∧
      RemovedPair s.ric.pending fd p.key ric.pending := by
  obtain ⟨x, hx, hk⟩ := h.exists_entry (List.mem_of_getElem? hp)
  obtain ⟨fd, pending, hext⟩ := extractRight_succeeds picks lawful_cmpFd h.mirror h.fds
    ⟨x, hx, cmpPendingEventRic_eq_zero.mpr hk.symm⟩
  obtain ⟨b, hb, hr⟩ := extractRight_spec lawful_cmpFd h.mirror h.fds hext
  rw [cmpPendingEventRic_eq_zero] at hb
  subst hb
  have hpos : 0 < fd := h.pos _ (hr.perm_first.mem_iff.mpr List.mem_cons_self)
  have hstop : s.ric.stopPendingEvent p.key picks = .next (fd, { s.ric with pending }) := by
    simp [NearRic.stopPendingEvent, hext, hpos, Outcome.assert]
  have hans : s.ric.handleAnswer p.ev p.req.id resp picks = .next (fd, { s.ric with pending }) := by
    simp only [NearRic.handleAnswer]
    rw [show (⟨p.ev, p.req.id⟩ : PendingEventRic) = p.key from rfl, hstop]
    by_cases hev : p.ev = .subscriptionRequest
    · obtain ⟨hna, hadm⟩ := hresp hev
      simp [hev, NearRic.checkAdmission, hna, hadm, Outcome.assert]
    · simp [hev]
  refine ⟨fd, { s.ric with pending }, ?_, hr⟩
  simp [RicSys.step, hp, hans, Outcome.awaitSome]

/-- An answer nothing waits for finds no timer to stop. -/
theorem TimersMatch.stray_not_next (h : TimersMatch s) {ev : PendingEvent} {id : RicGenId}
    {resp : NearRic.Admission} {picks : Picks} {fd : Fd} {ric : NearRic}
    (hnot : ∀ p ∈ s.procs, p.key ≠ ⟨ev, id⟩) :
    s.ric.handleAnswer ev id resp picks ≠ .next (fd, ric) := by
  intro hs
  have hmem := (h.stopped hs).symm.perm_first.mem_iff.mpr List.mem_cons_self
  obtain ⟨p, hp, hk⟩ := h.key_mem hmem
  exact hnot p hp hk

/-- **Every step keeps the timers matched.** -/
theorem TimersMatch.step (h : TimersMatch s) (hs : s.step e = .next s') : TimersMatch s' := by
  cases step_cases hs with
  | opened req ev fd ric opens started eq => exact eq ▸ h.opened started
  | answered k resp picks p fd ric event proc stopped eq =>
    exact eq ▸ h.answered proc (h.stopped stopped)
  | stray ev id resp picks fd ric event notWaiting stopped eq =>
    exact absurd stopped (h.stray_not_next notWaiting)
  | lookedUp k x w event worker eq => exact eq ▸ h.workers _
  | notified k w event worker eq => exact eq ▸ h.workers _
  | quiet silent quiet => exact h.quiet quiet

/-- In every run the timers match the outstanding procedures. -/
theorem timersMatch (h : ricMachine.Reachable s) : TimersMatch s :=
  h.invariant TimersMatch.init fun _ _ _ _ hp hs => hp.step hs

/-- **Unsolicited answers.** An answer of an E2 node that no outstanding
procedure waits for, be it late, repeated or made up, ends the process. -/
theorem TimersMatch.stray_aborts (h : TimersMatch s) {ev : PendingEvent} {id : RicGenId}
    {resp : NearRic.Admission} {picks : Picks} (hnot : ∀ p ∈ s.procs, p.key ≠ ⟨ev, id⟩) :
    (s.step (.stray ev id resp picks)).Aborts := by
  have hall : (s.procs.all fun p => p.key != ⟨ev, id⟩) = true :=
    List.all_eq_true.mpr fun p hp => bne_iff_ne.mpr (hnot p hp)
  have habsent : ∀ x ∈ s.ric.pending.right, cmpPendingEventRic ⟨ev, id⟩ x.1 ≠ 0 := by
    intro x hx hz
    obtain ⟨p, hp, hk⟩ := h.key_mem hx
    exact hnot p hp (hk.trans (cmpPendingEventRic_eq_zero.mp hz).symm)
  have hextract :
      (extractRight cmpFd cmpPendingEventRic s.ric.pending ⟨ev, id⟩ picks).Aborts :=
    extractRight_aborts.mpr (extractFrom_aborts_of_absent habsent)
  simp only [RicSys.step, NearRic.handleAnswer, NearRic.stopPendingEvent, hall,
    Outcome.bind_aborts]
  exact .inr ⟨⟨⟩, rfl, .inl (.inl (.inl hextract))⟩

/-! ## Runs that reuse no pending key -/

/-- The key under which an event would start a timer. -/
def newKey (s : RicSys) : RicEvent → Option PendingEventRic
  | .fwdSubscription _ id _ _ => some ⟨.subscriptionRequest, id⟩
  | .fwdControl _ id _ _ =>
    some ⟨.controlRequest, { id with ricReqId := s.ric.reqId.toUInt16.toUInt32 }⟩
  | .reportService _ ranFuncId _ => some ⟨.subscriptionRequest, s.ric.reqId, 0, ranFuncId⟩
  | .rmReportService _ ranFuncId actId _ =>
    some ⟨.subscriptionDeleteRequest, actId.toUInt32, 0, ranFuncId⟩
  | .controlService _ ranFuncId _ => some ⟨.controlRequest, s.ric.reqId, 0, ranFuncId⟩
  | _ => none

/-- No outstanding procedure has the kind and id of the request to be sent. -/
def FreshKey (s : RicSys) (e : RicEvent) : Prop := ∀ p ∈ s.procs, some p.key ≠ s.newKey e

instance (s : RicSys) (e : RicEvent) : Decidable (FreshKey s e) :=
  inferInstanceAs (Decidable (∀ p ∈ s.procs, some p.key ≠ s.newKey e))

/-- A new key is not pending. -/
theorem Opens.notPending {req : Req} {ev : PendingEvent} (ho : Opens s e req ev)
    (h : TimersMatch s) (hf : FreshKey s e) :
    ∀ x ∈ s.ric.pending.right, x.1 ≠ ⟨ev, req.id⟩ := by
  have hkey : s.newKey e = some ⟨ev, req.id⟩ →
      ∀ x ∈ s.ric.pending.right, x.1 ≠ ⟨ev, req.id⟩ := by
    intro hk x hx heq
    obtain ⟨p, hp, hpx⟩ := h.key_mem hx
    exact hf p hp (by rw [hk, hpx, heq])
  cases ho with
  | subscription node id origin timer => exact hkey rfl
  | subscriptionDelete node id timer notPending =>
    rw [(targetReq_node s node id).2.1]
    exact notPending
  | control node id origin timer => exact hkey rfl
  | report node ranFuncId timer => exact hkey rfl
  | rmReport node ranFuncId actId timer =>
    exact hkey (by rw [(targetReq_node s node _).2.1]; rfl)
  | controlService node ranFuncId timer => exact hkey rfl

/-- Each outstanding procedure has one timer, its own, and each timer
belongs to an outstanding procedure. -/
structure OneTimer (s : RicSys) : Prop extends TimersMatch s where
  timers : s.ric.pending.left.Perm (s.procs.map Proc.entry)
  distinct : OrdAssoc.Distinct cmpPendingEventRic s.ric.pending.right

theorem OneTimer.init : OneTimer RicSys.init :=
  ⟨TimersMatch.init, .nil, .nil⟩

/-- The pair an answer removes is the timer of the procedure answered. -/
theorem OneTimer.stopped_own (h : OneTimer s) {k : Nat} {p : Proc}
    {fd : Fd} {pending : Bimap Fd PendingEventRic} (hp : s.procs[k]? = some p)
    (hr : RemovedPair s.ric.pending fd p.key pending) : fd = p.fd := by
  have hproc : p ∈ s.procs := List.mem_of_getElem? hp
  have hown : (p.key, p.fd) ∈ s.ric.pending.right :=
    h.mirror.mem.mp (h.timers.mem_iff.mpr (List.mem_map.mpr ⟨p, hproc, rfl⟩))
  have hfound : (p.key, fd) ∈ s.ric.pending.right :=
    hr.symm.perm_first.mem_iff.mpr List.mem_cons_self
  have := h.distinct.eq_of_mem lawful_cmpPendingEventRic hfound hown (by simp)
  exact (Prod.mk.inj this).2

/-- A request with a new key has its own timer. -/
theorem OneTimer.opened (h : OneTimer s) {req : Req} {ev : PendingEvent} {fd : Fd}
    {ric : NearRic} (hst : s.ric.Started fd ⟨ev, req.id⟩ ric)
    (hnew : ∀ x ∈ s.ric.pending.right, x.1 ≠ ⟨ev, req.id⟩) :
    OneTimer (s.opened ric req ev fd) := by
  refine ⟨h.toTimersMatch.opened hst, ?_, ?_⟩ <;>
    simp only [RicSys.opened, hst.pending, inserted]
  · refine (OrdAssoc.insert_perm _ _ _ _).trans ?_
    rw [List.map_append]
    exact (h.timers.cons _).trans (List.perm_append_singleton _ _).symm
  · refine (OrdAssoc.distinct_insert lawful_cmpPendingEventRic).mpr ⟨h.distinct, ?_⟩
    intro x hx hz
    exact hnew x hx (cmpPendingEventRic_eq_zero.mp hz).symm

/-- An answer stops the timer of its own procedure. -/
theorem OneTimer.answered (h : OneTimer s) {k : Nat} {p : Proc} {ric : NearRic}
    (hp : s.procs[k]? = some p) (hr : RemovedPair s.ric.pending p.fd p.key ric.pending) :
    OneTimer (s.answered ric k p) := by
  refine ⟨h.toTimersMatch.answered hp hr, ?_, h.distinct.sublist hr.symm.sublist_first⟩
  obtain ⟨hlt, rfl⟩ := List.getElem?_eq_some_iff.mp hp
  have hprocs := (List.getElem_cons_eraseIdx_perm hlt).symm.map Proc.entry
  exact List.Perm.cons_inv ((hr.perm_first.symm.trans h.timers).trans hprocs)

/-- **Every step with new keys keeps one timer for each procedure.** -/
theorem OneTimer.step (h : OneTimer s) (hf : FreshKey s e) (hs : s.step e = .next s') :
    OneTimer s' := by
  cases step_cases hs with
  | opened req ev fd ric opens started eq =>
    exact eq ▸ h.opened started (opens.notPending h.toTimersMatch hf)
  | answered k resp picks p fd ric event proc stopped eq =>
    have hr := h.toTimersMatch.stopped stopped
    have hfd := h.stopped_own proc hr
    exact eq ▸ h.answered proc (hfd ▸ hr)
  | stray ev id resp picks fd ric event notWaiting stopped eq =>
    exact absurd stopped (h.toTimersMatch.stray_not_next notWaiting)
  | lookedUp k x w event worker eq =>
    exact eq ▸ ⟨h.toTimersMatch.workers _, h.timers, h.distinct⟩
  | notified k w event worker eq =>
    exact eq ▸ ⟨h.toTimersMatch.workers _, h.timers, h.distinct⟩
  | quiet silent quiet =>
    refine ⟨h.toTimersMatch.quiet quiet, ?_, ?_⟩
    · rw [quiet.pending, quiet.procs]
      exact h.timers
    · rw [quiet.pending]
      exact h.distinct

/-! ## The condition on a run -/

/-- The environment's part: answers are solicited and admit what was asked
for, an expired timer is still pending when the event loop looks for it, and
the standard input is readable when the loop reads it. -/
def Orderly (s : RicSys) : RicEvent → Bool
  | .answer k resp _ => s.procs[k]?.all fun p => decide (AdmitsOne p resp)
  | .stray .. => false
  | .pendEvent k => s.ready[k]?.all fun fd => s.ric.pending.left.any fun x => x.1 == fd
  | .pendingEvent readable => !(s.loop.pendingEvent readable).reading
  | _ => true

/-- The steps on which the pending events stay exact. -/
def PendingCond (s : RicSys) (e : RicEvent) : Prop := FreshKey s e ∧ Orderly s e = true

instance (s : RicSys) (e : RicEvent) : Decidable (PendingCond s e) :=
  inferInstanceAs (Decidable (_ ∧ _))

/-- In every run under the condition each procedure has one timer. -/
theorem oneTimer (h : ricMachine.ReachedBy PendingCond s) : OneTimer s :=
  h.invariant OneTimer.init fun _ _ _ _ hp hc hs => hp.step hc.1 hs

/-- Only an expired timer makes the event loop read. -/
theorem reads_step (hs : s.step e = .next s') (h : s'.loop.reading = true) :
    s.loop.reading = true ∨
      ∃ readable, e = .pendingEvent readable ∧ s'.loop = s.loop.pendingEvent readable := by
  cases step_cases hs with
  | opened req ev fd ric opens started eq =>
    rw [eq] at h
    exact .inl h
  | answered k resp picks p fd ric event proc stopped eq =>
    rw [eq] at h
    exact .inl h
  | stray ev id resp picks fd ric event notWaiting stopped eq =>
    rw [eq] at h
    exact .inl h
  | lookedUp k x w event worker eq =>
    rw [eq] at h
    exact .inl h
  | notified k w event worker eq =>
    rw [eq] at h
    exact .inl h
  | quiet silent quiet reads => exact reads h

/-- While what it reads is readable, the event loop does not stop. -/
theorem polling_step (h : s.loop.reading = false)
    (hc : ∀ readable, e = .pendingEvent readable → Orderly s e = true)
    (hs : s.step e = .next s') : s'.loop.reading = false := by
  rw [← Bool.not_eq_true]
  intro hreads
  obtain hold | ⟨readable, rfl, heq⟩ := reads_step hs hreads
  · rw [h] at hold
    cases hold
  · rw [heq] at hreads
    simp [Orderly, hreads] at hc

/-- In such a run the loop never blocks in a read. -/
theorem polling (h : ricMachine.ReachedBy PendingCond s) : s.loop.reading = false :=
  h.invariant (P := fun s => s.loop.reading = false) rfl fun _ _ _ _ hp hc hs =>
    polling_step hp (fun _ _ => hc.2) hs

/-! ## Answers and expirations -/

/-- What the pending map is there for: one timer for each outstanding
procedure, which the answer of that procedure stops, and expirations that
leave the timers and the procedures as they are; and the event loop is there
to take what arrives. -/
structure TimersExact (s : RicSys) : Prop where
  polling : s.loop.reading = false
  timers : s.ric.pending.left.Perm (s.procs.map Proc.entry)
  keys : (s.procs.map Proc.key).Nodup
  answer : ∀ k p resp picks, s.procs[k]? = some p → AdmitsOne p resp →
    ∃ s', s.step (.answer k resp picks) = .next s' ∧
      RemovedPair s.ric.pending p.fd p.key s'.ric.pending ∧ s'.procs = s.procs.eraseIdx k
  expire : ∀ k fd, s.ready[k]? = some fd → (∃ p ∈ s.procs, p.fd = fd) →
    ∃ s', s.step (.pendEvent k) = .next s' ∧ s'.ric = s.ric ∧ s'.procs = s.procs

/-- An answer that admits one action is handled, and its timer stopped. -/
theorem OneTimer.answer (h : OneTimer s) {k : Nat} {p : Proc} {resp : NearRic.Admission}
    {picks : Picks} (hp : s.procs[k]? = some p) (hresp : AdmitsOne p resp) :
    ∃ s', s.step (.answer k resp picks) = .next s' ∧
      RemovedPair s.ric.pending p.fd p.key s'.ric.pending ∧ s'.procs = s.procs.eraseIdx k := by
  obtain ⟨fd, ric, hs, hr⟩ := h.toTimersMatch.answer picks hp hresp
  obtain rfl : fd = p.fd := h.stopped_own hp hr
  exact ⟨s.answered ric k p, hs, hr, rfl⟩

/-- An expiration is taken up without touching the table or the procedures. -/
theorem OneTimer.expire (h : OneTimer s) (hloop : s.loop.reading = false) {k : Nat} {fd : Fd}
    (hfd : s.ready[k]? = some fd) (hp : ∃ p ∈ s.procs, p.fd = fd) :
    ∃ s', s.step (.pendEvent k) = .next s' ∧ s'.ric = s.ric ∧ s'.procs = s.procs := by
  obtain ⟨p, hp, rfl⟩ := hp
  have hmem : p.entry ∈ s.ric.pending.left :=
    h.timers.mem_iff.mpr (List.mem_map.mpr ⟨p, hp, rfl⟩)
  obtain ⟨x, hx⟩ := OrdAssoc.findIf_isSome (p := eqFd p.fd) hmem (by simp [eqFd, Proc.entry])
  refine ⟨{ s with
    ready := s.ready.eraseIdx k, loop.pendingEvents := s.loop.pendingEvents + 1 }, ?_, rfl, rfl⟩
  simp [RicSys.step, hloop, hfd, NearRic.pendEvent, hx, Outcome.await, Outcome.awaitSome,
    Outcome.expect]

/-- The outstanding procedures have different kinds or ids. -/
theorem OneTimer.keys_nodup (h : OneTimer s) : (s.procs.map Proc.key).Nodup := by
  have hright : (s.ric.pending.right.map Prod.fst).Nodup :=
    List.pairwise_map.mpr (h.distinct.imp fun hne heq => hne (cmpPendingEventRic_eq_zero.mpr heq))
  have hperm : (s.ric.pending.right.map Prod.fst).Perm (s.procs.map Proc.key) := by
    have := List.Perm.map Prod.fst h.mirror
    rw [List.map_map] at this
    exact this.trans h.keys
  exact hperm.nodup_iff.mp hright

/-- **The timers are exact**: one for each procedure that is open. -/
theorem OneTimer.exact (h : OneTimer s) (hloop : s.loop.reading = false) : TimersExact s where
  polling := hloop
  timers := h.timers
  keys := h.keys_nodup
  answer _ _ _ _ hp hresp := h.answer hp hresp
  expire _ _ hfd hp := h.expire hloop hfd hp

/-- A gNB is subscribed to by the local service and answers. -/
def answeredReport : List RicEvent :=
  [.e2Setup ⟨.gnb 1, [], []⟩, .reportService (.gnb 1) 142 (some 5), .answer 0 ⟨[0], 0⟩ (0, 0)]

end RicSys

end FlexRic
