import FlexRic.Ric.System

/-!
# FlexRic.Ric.Requests

The requests of the near-RT RIC that are in use.

* `due` are the answers that have not been dealt with, each with its
  request; `due_step` says what an event does to them: it opens a procedure,
  finishes an answer, or changes nothing;
* `live` adds the subscriptions the E2 nodes hold; `live_step` says that it
  grows by opening a procedure only;
* `reqsOk`: every request in use has an id that can be encoded and a number
  that has been given out.
-/

namespace FlexRic

namespace RicSys

variable {s s' : RicSys} {e : RicEvent} {ev : PendingEvent} {r : Req}

/-- The event has opened a procedure for the request. -/
structure OpenedBy (s : RicSys) (e : RicEvent) (r : Req) (ev : PendingEvent) (s' : RicSys) :
    Prop where
  opens : Opens s e r ev
  eq : ∃ fd ric, s.ric.Started fd ⟨ev, r.id⟩ ric ∧ s' = s.opened ric r ev fd

/-- A worker notifies without an abort. -/
theorem step_notified {k : Nat} {w : Worker} (h : s.workers[k]? = some w) :
    s.step (.notified k) = .next { s with workers := s.workers.eraseIdx k } := by
  simp [step, h, Outcome.awaitSome]

/-- A worker looks the xApp up without an abort. -/
theorem step_lookedUp {k : Nat} {w : Worker} (h : s.workers[k]? = some w) (x : XappRicId) :
    s.step (.lookedUp k x) =
      .next { s with workers := s.workers.set k { w with found := some x } } := by
  simp [step, h, Outcome.awaitSome]

/-! ## Answers that are due -/

/-- The request of a procedure, and the kind of its answer. -/
def dueOf (p : Proc) : Req × PendingEvent := (p.req, p.ev)

/-- The answers that have not arrived and those whose handling is not done. -/
def due (s : RicSys) : List (Req × PendingEvent) :=
  s.procs.map dueOf ++ s.workers.map Worker.due

/-- What a worker has in hand is due. -/
theorem mem_due_of_worker {k : Nat} {w : Worker} (h : s.workers[k]? = some w) :
    (w.req, w.ev) ∈ s.due :=
  List.mem_append_right _ (List.mem_map.mpr ⟨w, List.mem_of_getElem? h, rfl⟩)

/-- What is due is that of a live request. -/
theorem mem_live_of_due (h : (r, ev) ∈ s.due) : r ∈ s.live := by
  simp only [live, List.mem_append, List.mem_map]
  obtain h | h := List.mem_append.mp h
  · obtain ⟨p, hp, heq⟩ := List.mem_map.mp h
    exact .inl (.inr ⟨p, hp, (Prod.mk.inj heq).1⟩)
  · obtain ⟨w, hw, heq⟩ := List.mem_map.mp h
    exact .inr ⟨w, hw, (Prod.mk.inj heq).1⟩

/-- A request is due once it is sent. -/
theorem due_opened (s : RicSys) (ric : NearRic) (r : Req) (ev : PendingEvent) (fd : Fd) :
    (s.opened ric r ev fd).due.Perm ((r, ev) :: s.due) := by
  simp only [due, opened, List.map_append, List.map_cons, List.map_nil, List.append_assoc,
    List.singleton_append]
  exact List.perm_middle

/-- An answer that arrives is still to be dealt with. -/
theorem due_answered {ric : NearRic} {k : Nat} {p : Proc} (h : s.procs[k]? = some p) :
    (s.answered ric k p).due.Perm s.due := by
  obtain ⟨hlt, rfl⟩ := List.getElem?_eq_some_iff.mp h
  have hprocs := (List.getElem_cons_eraseIdx_perm hlt).map dueOf
  simp only [due, answered, List.map_append, List.map_cons, List.map_nil]
  calc
    _ = ((s.procs.eraseIdx k).map dueOf ++ s.workers.map Worker.due) ++ [dueOf s.procs[k]] :=
      (List.append_assoc ..).symm
    List.Perm _ (dueOf s.procs[k] :: ((s.procs.eraseIdx k).map dueOf ++ s.workers.map Worker.due)) :=
      List.perm_append_singleton _ _
    List.Perm _ (s.procs.map dueOf ++ s.workers.map Worker.due) :=
      hprocs.append_right _

/-- A notification takes one answer off what is due. -/
theorem due_notified {k : Nat} {w : Worker} (h : s.workers[k]? = some w) :
    s.due.Perm ((w.req, w.ev) :: { s with workers := s.workers.eraseIdx k }.due) := by
  obtain ⟨hlt, rfl⟩ := List.getElem?_eq_some_iff.mp h
  have hworkers := (List.getElem_cons_eraseIdx_perm hlt).symm.map Worker.due
  exact (hworkers.append_left _).trans List.perm_middle

theorem map_set_found {ws : List Worker} {k : Nat} {w : Worker} {x : Option XappRicId}
    (h : ws[k]? = some w) :
    (ws.set k { w with found := x }).map Worker.due = ws.map Worker.due := by
  rw [List.map_set]
  apply List.ext_getElem?
  intro i
  by_cases hi : k = i
  · subst hi
    obtain ⟨hlt, hk⟩ := List.getElem?_eq_some_iff.mp h
    simp [hlt, hk, Worker.due]
  · rw [List.getElem?_set_ne hi]

/-- A lookup does not change what is due. -/
theorem due_lookedUp {k : Nat} {w : Worker} {x : Option XappRicId} (h : s.workers[k]? = some w) :
    { s with workers := s.workers.set k { w with found := x } }.due = s.due := by
  simp only [due, map_set_found h]

/-- What an event does to the answers that are due. -/
inductive DueStep (s : RicSys) (e : RicEvent) (s' : RicSys) : Prop
  | opened (r : Req) (ev : PendingEvent) (by_ : OpenedBy s e r ev s')
      (perm : s'.due.Perm ((r, ev) :: s.due))
  | notified (k : Nat) (w : Worker) (event : e = .notified k) (worker : s.workers[k]? = some w)
      (perm : s.due.Perm ((w.req, w.ev) :: s'.due))
  | same (perm : s'.due.Perm s.due)

/-- An event finishes an answer, or opens a procedure, or does neither. -/
theorem due_step (hs : s.step e = .next s') : DueStep s e s' := by
  cases step_cases hs with
  | opened req ev fd ric opens started eq =>
    exact .opened req ev ⟨opens, fd, ric, started, eq⟩ (eq ▸ due_opened s ric req ev fd)
  | answered k resp picks p fd ric event proc stopped eq => exact .same (eq ▸ due_answered proc)
  | stray ev id resp picks fd ric event notWaiting stopped eq => exact .same (eq ▸ .refl _)
  | lookedUp k x w event worker eq => exact .same (by rw [eq, due_lookedUp worker])
  | notified k w event worker eq => exact .notified k w event worker (eq ▸ due_notified worker)
  | quiet silent quiet =>
    refine .same ?_
    rw [due, quiet.procs, quiet.workers, due]

/-- An event makes an answer due only by opening its procedure. -/
theorem due_step_mem (hs : s.step e = .next s') (h : (r, ev) ∈ s'.due) :
    (r, ev) ∈ s.due ∨ OpenedBy s e r ev s' := by
  cases due_step hs with
  | opened req ev' by_ perm =>
    obtain heq | h := List.mem_cons.mp (perm.mem_iff.mp h)
    · cases heq
      exact .inr by_
    · exact .inl h
  | notified k w event worker perm => exact .inl (perm.mem_iff.mpr (List.mem_cons_of_mem _ h))
  | same perm => exact .inl (perm.mem_iff.mp h)

/-! ## Requests in use -/

theorem mem_live : r ∈ s.live ↔ r ∈ s.subs ∨ ∃ ev, (r, ev) ∈ s.due := by
  constructor
  · intro h
    simp only [live, List.mem_append, List.mem_map] at h
    obtain (h | ⟨p, hp, rfl⟩) | ⟨w, hw, rfl⟩ := h
    · exact .inl h
    · exact .inr ⟨p.ev, List.mem_append_left _ (List.mem_map.mpr ⟨p, hp, rfl⟩)⟩
    · exact .inr ⟨w.ev, List.mem_append_right _ (List.mem_map.mpr ⟨w, hw, rfl⟩)⟩
  · rintro (h | ⟨ev, h⟩)
    · exact List.mem_append_left _ (List.mem_append_left _ h)
    · exact mem_live_of_due h

/-- A subscription is held once its request has been answered. -/
theorem subs_step (hs : s.step e = .next s') (h : r ∈ s'.subs) :
    r ∈ s.subs ∨ (r, .subscriptionRequest) ∈ s.due := by
  cases step_cases hs with
  | opened req ev fd ric opens started eq =>
    subst eq
    exact .inl h
  | answered k resp picks p fd ric event proc stopped eq =>
    rw [eq] at h
    simp only [answered] at h
    split at h
    · rename_i hev
      obtain h | h := List.mem_append.mp h
      · exact .inl h
      · rw [List.mem_singleton.mp h, ← hev]
        exact .inr (List.mem_append_left _ (List.mem_map.mpr ⟨p, List.mem_of_getElem? proc, rfl⟩))
    · exact .inl (List.mem_of_mem_filter h)
    · exact .inl h
  | stray ev id resp picks fd ric event notWaiting stopped eq =>
    subst eq
    exact .inl h
  | lookedUp k x w event worker eq =>
    subst eq
    exact .inl h
  | notified k w event worker eq =>
    subst eq
    exact .inl h
  | quiet silent quiet => exact .inl (quiet.subs ▸ h)

/-- An event puts a request into use only by opening a procedure for it. -/
theorem live_step (hs : s.step e = .next s') (h : r ∈ s'.live) :
    r ∈ s.live ∨ ∃ ev, OpenedBy s e r ev s' := by
  obtain h | ⟨ev, h⟩ := mem_live.mp h
  · obtain h | h := subs_step hs h
    · exact .inl (mem_live.mpr (.inl h))
    · exact .inl (mem_live_of_due h)
  · obtain h | h := due_step_mem hs h
    · exact .inl (mem_live_of_due h)
    · exact .inr ⟨ev, h⟩

/-- What is in use fits the 16 bits of an encoded id, and its number has
been given out. -/
structure ReqsOk (s : RicSys) : Prop where
  fits : ∀ r ∈ s.live, IdFits r.id
  uid : ∀ r ∈ s.live, r.uid < s.nextUid

theorem targetReq_mem (s : RicSys) (node : GlobalE2NodeId) (id : RicGenId) :
    s.targetReq node id ∈ s.live ∨ (s.target node id = none ∧
      s.targetReq node id = ⟨s.nextUid, node, id, .subscription, none⟩) := by
  unfold targetReq
  cases h : s.target node id with
  | none => exact .inr ⟨rfl, rfl⟩
  | some r => exact .inl (List.mem_of_find?_eq_some h)

/-- A procedure is opened for a request in use or for a new one. -/
theorem Opens.uid (h : Opens s e r ev) : r ∈ s.live ∨ r.uid = s.nextUid := by
  cases h with
  | subscriptionDelete node id timer notPending =>
    obtain hm | ⟨-, hm⟩ := targetReq_mem s node id
    · exact .inl hm
    · exact .inr (by rw [hm])
  | rmReport node ranFuncId actId timer =>
    obtain hm | ⟨-, hm⟩ := targetReq_mem s node ⟨actId.toUInt32, 0, ranFuncId⟩
    · exact .inl hm
    · exact .inr (by rw [hm])
  | _ => exact .inr rfl

theorem nextUid_le (hs : s.step e = .next s') : s.nextUid ≤ s'.nextUid := by
  cases step_cases hs with
  | opened req ev' fd ric opens started eq =>
    subst eq
    exact Nat.le_succ _
  | answered k resp picks p fd ric event proc stopped eq =>
    subst eq
    exact Nat.le_refl _
  | stray ev' id resp picks fd ric event notWaiting stopped eq =>
    subst eq
    exact Nat.le_refl _
  | lookedUp k x w event worker eq =>
    subst eq
    exact Nat.le_refl _
  | notified k w event worker eq =>
    subst eq
    exact Nat.le_refl _
  | quiet silent quiet => exact Nat.le_of_eq quiet.nextUid.symm

theorem ReqsOk.init : ReqsOk RicSys.init where
  fits _ h := absurd h List.not_mem_nil
  uid _ h := absurd h List.not_mem_nil

theorem ReqsOk.step (h : ReqsOk s) (hs : s.step e = .next s') : ReqsOk s' := by
  refine ⟨fun r hr => ?_, fun r hr => ?_⟩ <;> obtain hr | ⟨ev, ho, fd, ric, hst, heq⟩ := live_step hs hr
  · exact h.fits r hr
  · exact hst.fits
  · exact Nat.lt_of_lt_of_le (h.uid r hr) (nextUid_le hs)
  · rw [heq]
    obtain hm | hu := ho.uid
    · exact Nat.lt_succ_of_lt (h.uid r hm)
    · rw [hu]
      exact Nat.lt_succ_self _

theorem reqsOk (h : ricMachine.Reachable s) : ReqsOk s :=
  h.invariant ReqsOk.init fun _ _ _ _ hp hs => hp.step hs

end RicSys

end FlexRic
