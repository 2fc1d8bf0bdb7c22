import FlexRic.XApp.Steps
import Mathlib.Data.List.Nodup

/-!
# FlexRic.XApp.Invariants

What every run of an xApp keeps.

* `TablesOk`: `pending` holds the timers of `timers`, each once, and an
  answer is taken up for an id that can be looked up;
* `Numbered`: each request has a number of its own, is out once, and has one
  timer at most; it is out and has a timer no sooner than its call has come
  that far;
* `Heard`: what is signalled has been received.

From the first follow the two steps of the receiving thread that can fail:
`recv` and `stopTimer` succeed, and when they do not, they end the process.
-/

namespace FlexRic

namespace XSys

variable {s s' : XSys} {e : XEvent} {c c' : XCall} {r : XReq} {i k : Nat} {phase : Phase}
  {ev : PendingEventXapp}

/-! ## Calls -/

/-- A call moves to its next phase. -/
theorem mem_setPhase (h : c' ∈ (s.setPhase i c phase).calls) :
    c' ∈ s.calls ∨ c' = { c with phase } :=
  List.mem_or_eq_of_mem_set h

/-- The requests of the calls are as before. -/
theorem setPhase_req (hc : s.calls[i]? = some c) (h : c' ∈ (s.setPhase i c phase).calls) :
    ∃ c₀ ∈ s.calls, c'.req = c₀.req := by
  obtain h | rfl := mem_setPhase h
  · exact ⟨c', h, rfl⟩
  · exact ⟨c, List.mem_of_getElem? hc, rfl⟩

/-- The requests, with the call that has moved on told from the others. -/
theorem setPhase_perm (hc : s.calls[i]? = some c) (phase : Phase) :
    (s.setPhase i c phase).calls.Perm ({ c with phase } :: s.calls.eraseIdx i) ∧
      s.calls.Perm (c :: s.calls.eraseIdx i) := by
  obtain ⟨hlt, rfl⟩ := List.getElem?_eq_some_iff.mp hc
  refine ⟨?_, (List.getElem_cons_eraseIdx_perm hlt).symm⟩
  have hset := List.getElem_cons_eraseIdx_perm (l := s.calls.set i { s.calls[i] with phase })
    (n := i) (by simpa using hlt)
  rw [List.getElem_set_self, List.eraseIdx_set_eq] at hset
  exact hset.symm

/-- The numbers of the calls. -/
def callUids (s : XSys) : List Nat := s.calls.map (·.req.uid)

/-- A call keeps its number when its phase changes. -/
theorem callUids_setPhase (hc : s.calls[i]? = some c) (phase : Phase) :
    (s.setPhase i c phase).callUids = s.callUids := by
  obtain ⟨hlt, rfl⟩ := List.getElem?_eq_some_iff.mp hc
  simp only [callUids, setPhase, List.map_set]
  rw [← List.getElem_map (f := fun c : XCall => c.req.uid) (h := by simpa using hlt)]
  exact List.set_getElem_self _

theorem mem_callUids (h : c ∈ s.calls) : c.req.uid ∈ s.callUids :=
  List.mem_map.mpr ⟨c, h, rfl⟩

/-- A call that is told from the one that has moved on by its number. -/
theorem mem_setPhase_iff (hn : s.callUids.Nodup) (hc : s.calls[i]? = some c) :
    c' ∈ (s.setPhase i c phase).calls ↔
      c' = { c with phase } ∨ c' ∈ s.calls ∧ c'.req.uid ≠ c.req.uid := by
  obtain ⟨hset, hcalls⟩ := setPhase_perm hc phase
  have hne : ∀ c' ∈ s.calls.eraseIdx i, c'.req.uid ≠ c.req.uid := by
    have hnodup := (hcalls.map fun c : XCall => c.req.uid).nodup_iff.mp hn
    intro c' hc' heq
    exact (List.nodup_cons.mp hnodup).1 (List.mem_map.mpr ⟨c', hc', heq⟩)
  rw [hset.mem_iff, List.mem_cons, hcalls.mem_iff, List.mem_cons]
  constructor
  · rintro (h | h)
    · exact .inl h
    · exact .inr ⟨.inr h, hne c' h⟩
  · rintro (h | ⟨rfl | h, huid⟩)
    · exact .inl h
    · exact absurd rfl huid
    · exact .inr h

/-- **No two calls have one number.** -/
theorem call_unique (hn : s.callUids.Nodup) (h : c ∈ s.calls) (h' : c' ∈ s.calls)
    (huid : c.req.uid = c'.req.uid) : c = c' :=
  List.inj_on_of_nodup_map hn h h' huid

/-! ## The tables -/

/-- Not the reserved key, and one that reads back from 16 bits. -/
def IdOk (id : RicGenId) : Prop := 0 < id.ricReqId ∧ id.ricReqId < 65536

/-- The key of a request is its number. -/
theorem IdOk.key (h : IdOk r.id) : r.key.toUInt32 = r.id.ricReqId := toUInt32_toUInt16 h.2

/-- The entry in `pending` of a timer. -/
def entry (t : Fd × XReq) : Fd × PendingEventXapp := (t.1, t.2.timer)

structure TablesOk (s : XSys) : Prop where
  actProc : ActProc.Ok s.actProc
  pending : PendingEventXappDs.Ok s.pending
  timers : s.pending.left.Perm (s.timers.map entry)
  rx : ∀ r ev, s.rx = .found r ev → ev.ev = r.call.pendingEvent
  calls : ∀ c ∈ s.calls, IdOk c.req.id
  due : ∀ r ∈ s.due, IdOk r.id

/-- A timer is in the table of pending events. -/
theorem TablesOk.mem_timers (h : TablesOk s) {fd : Fd} (ht : (fd, r) ∈ s.timers) :
    (fd, r.timer) ∈ s.pending.left :=
  h.timers.mem_iff.mpr (List.mem_map.mpr ⟨_, ht, rfl⟩)

/-- An entry of the table of pending events is a timer. -/
theorem TablesOk.timer_of_mem (h : TablesOk s) {t : Fd × PendingEventXapp}
    (ht : t ∈ s.pending.left) : ∃ r, (t.1, r) ∈ s.timers ∧ t.2 = r.timer := by
  obtain ⟨⟨fd, r⟩, hr, rfl⟩ := List.mem_map.mp (h.timers.mem_iff.mp ht)
  exact ⟨r, hr, rfl⟩

theorem TablesOk.fds_left (h : TablesOk s) : (s.pending.left.map Prod.fst).Nodup :=
  List.pairwise_map.mpr (h.pending.fds.imp fun hne heq => hne (cmpFd_eq_zero.mpr heq))

/-- No two timers have one descriptor. -/
theorem TablesOk.fds (h : TablesOk s) : (s.timers.map Prod.fst).Nodup := by
  have hperm := h.timers.map Prod.fst
  rw [List.map_map] at hperm
  exact hperm.nodup_iff.mp h.fds_left

/-- A descriptor belongs to one timer. -/
theorem TablesOk.timer_unique (h : TablesOk s) {fd : Fd} {r₁ r₂ : XReq}
    (h₁ : (fd, r₁) ∈ s.timers) (h₂ : (fd, r₂) ∈ s.timers) : r₁ = r₂ :=
  (Prod.mk.inj (List.inj_on_of_nodup_map h.fds h₁ h₂ rfl)).2

/-- **At the start** the tables are empty. -/
theorem TablesOk.init : TablesOk XSys.init where
  actProc := .init
  pending := .empty
  timers := .nil
  rx _ _ h := by cases h
  calls _ h := absurd h List.not_mem_nil
  due _ h := absurd h List.not_mem_nil

/-- The timer that leaves `pending` leaves `timers`. -/
theorem TablesOk.timers_removed (h : TablesOk s) {fd : Fd} {p' : PendingEventXappDs}
    (hr : Bimap.RemovedPair s.pending fd ev p') :
    p'.left.Perm ((s.timers.filter fun t => t.1 != fd).map entry) := by
  have hkeep : s.pending.left.filter (fun t => t.1 != fd) = p'.left := by
    obtain ⟨l₁, l₂, hl, hl'⟩ := hr.first
    have hne : ∀ t ∈ l₁ ++ l₂, t.1 ≠ fd := by
      intro t ht hfd
      have hd : (fd :: p'.left.map Prod.fst).Nodup := (hr.perm_first.map Prod.fst).nodup_iff.mp h.fds_left
      exact (List.nodup_cons.mp hd).1 (List.mem_map.mpr ⟨t, hl' ▸ ht, hfd⟩)
    rw [hl, hl', List.filter_append, List.filter_cons_of_neg (by simp), ← List.filter_append]
    exact List.filter_eq_self.mpr fun t ht => bne_iff_ne.mpr (hne t ht)
  have hperm := h.timers.filter fun t => t.1 != fd
  rw [hkeep, List.filter_map] at hperm
  exact hperm

/-- Every step keeps the tables. -/
theorem TablesOk.step (h : TablesOk s) (hs : s.step e = .next s') : TablesOk s' := by
  have hset : ∀ {i c phase}, s.calls[i]? = some c →
      ∀ c' ∈ (s.setPhase i c phase).calls, IdOk c'.req.id := fun hc c' hc' => by
    obtain ⟨c₀, h₀, heq⟩ := setPhase_req hc hc'
    exact heq ▸ h.calls c₀ h₀
  cases step_cases hs with
  | opened call id actProc event active ext eq =>
    subst eq
    have hok := h.actProc.extends ext
    refine ⟨hok, h.pending, h.timers, h.rx, fun c hc => ?_, h.due⟩
    obtain hc | hc := List.mem_append.mp hc
    · exact h.calls c hc
    · rw [List.mem_singleton.mp hc]
      exact hok.keys _ active
  | registered i timer c phase fd event call next pos notOpen eq =>
    subst eq
    refine ⟨h.actProc, h.pending.inserted pos notOpen, ?_, h.rx, hset call, h.due⟩
    refine (OrdAssoc.insert_perm _ _ _ _).trans ?_
    simp only [withTimer, List.map_append]
    exact (h.timers.cons _).trans (List.perm_append_singleton _ _).symm
  | sent i c phase event call next eq =>
    subst eq
    refine ⟨h.actProc, h.pending, h.timers, h.rx, hset call, fun r hr => ?_⟩
    obtain hr | hr := List.mem_append.mp hr
    · exact h.due r hr
    · rw [List.mem_singleton.mp hr]
      exact h.calls c (List.mem_of_getElem? call)
  | waits i c event call ready eq =>
    subst eq
    exact ⟨h.actProc, h.pending, h.timers, h.rx, hset call, h.due⟩
  | timedOut i c event call waiting eq =>
    subst eq
    exact ⟨h.actProc, h.pending, h.timers, h.rx, hset call, h.due⟩
  | spurious i c event call waiting eq =>
    subst eq
    exact ⟨h.actProc, h.pending, h.timers, h.rx, hset call, h.due⟩
  | returned i c cause received actProc event call woken done eq =>
    subst eq
    obtain ⟨hid, hkeys⟩ := finish_eq_next done
    exact ⟨h.actProc.mono hkeys hid, h.pending, h.timers, h.rx,
      fun c hc => h.calls c (List.mem_of_mem_eraseIdx hc), h.due⟩
  | taken k r ev actProc event idle due found eq =>
    subst eq
    obtain ⟨hev, hkeys, hid, -⟩ := findAnswered_eq_next found
    refine ⟨h.actProc.mono (hkeys ▸ List.Subset.refl _) hid, h.pending, h.timers, ?_, h.calls,
      fun r hr => h.due r (List.mem_of_mem_eraseIdx hr)⟩
    intro r' ev' hrx
    cases hrx
    exact hev
  | stopped picks r ev fd pending event rx removed eq =>
    subst eq
    obtain ⟨ev', -, hr⟩ := PendingEventXappDs.rmPendingEventEv_spec h.pending removed
    exact ⟨h.actProc, h.pending.removed hr, h.timers_removed hr, fun _ _ hrx => (by cases hrx),
      h.calls, h.due⟩
  | woke i r c event rx call waiting eq =>
    subst eq
    exact ⟨h.actProc, h.pending, h.timers, fun _ _ hrx => (by cases hrx), hset call, h.due⟩
  | lost i r event rx none eq =>
    subst eq
    exact ⟨h.actProc, h.pending, h.timers, fun _ _ hrx => (by cases hrx), h.calls, h.due⟩
  | expired fd retryCount event eq =>
    subst eq
    exact ⟨h.actProc, h.pending, h.timers, h.rx, h.calls, h.due⟩

/-- **and every run.** -/
theorem tablesOk (h : xappMachine.Reachable s) : TablesOk s :=
  h.invariant TablesOk.init fun _ _ _ _ hp hs => hp.step hs

/-! ## The receiving thread -/

/-- The answer of `r` finds its procedure active. -/
def Active (s : XSys) (r : XReq) : Prop := r.key.toUInt32 ∈ s.actProc.keys

instance (s : XSys) (r : XReq) : Decidable (s.Active r) := inferInstanceAs (Decidable (_ ∈ _))

/-- Some timer is pending for a request of that kind. -/
def TimerPending (s : XSys) (call : SyncCall) : Prop :=
  ∃ t ∈ s.pending.left, t.2.ev = call.pendingEvent

instance (s : XSys) (call : SyncCall) : Decidable (s.TimerPending call) :=
  inferInstanceAs (Decidable (∃ t ∈ s.pending.left, t.2.ev = call.pendingEvent))

/-- An answer that is due is taken up when its procedure is active. -/
theorem TablesOk.recv (h : TablesOk s) (hidle : s.rx = .idle) (hr : s.due[k]? = some r)
    (ha : s.Active r) : ∃ ev actProc, s.step (.recv k) = .next (s.taken k r ev actProc) := by
  have hid := h.due r (List.mem_of_getElem? hr)
  obtain ⟨ev, p, hfound⟩ := findAnswered_of_mem (by rw [hid.key]; exact hid.1) ha
  exact ⟨ev, p, by simp [XSys.step, hidle, hr, hfound, Outcome.await, Outcome.awaitSome, taken]⟩

/-- An answer ends the process when its procedure is not active. -/
theorem TablesOk.recv_aborts (h : TablesOk s) (hidle : s.rx = .idle) (hr : s.due[k]? = some r)
    (ha : ¬ s.Active r) : (s.step (.recv k)).Aborts := by
  have hid := h.due r (List.mem_of_getElem? hr)
  have hab := findAnswered_aborts (by rw [hid.key]; exact hid.1) ha
  simp only [XSys.step, hidle, hr, Outcome.bind_aborts]
  exact .inr ⟨⟨⟩, rfl, .inr ⟨r, rfl, .inl hab⟩⟩

/-- The step that stops a timer ends the process when none of the kind is
pending. -/
theorem TablesOk.stopTimer_aborts (h : TablesOk s) (hrx : s.rx = .found r ev) (picks : Picks)
    (hnone : ¬ s.TimerPending r.call) : (s.step (.stopTimer picks)).Aborts := by
  have hab : (s.pending.rmPendingEventEv ev picks).Aborts :=
    PendingEventXappDs.rmPendingEventEv_aborts fun t ht heq =>
      hnone ⟨(t.2, t.1), h.pending.mirror.mem.mpr ht, heq.trans (h.rx r ev hrx)⟩
  simp only [XSys.step, hrx, Outcome.bind_aborts]
  exact .inl hab

/-- A timer that is pending is found and stopped. -/
theorem TablesOk.stopTimer (h : TablesOk s) (hrx : s.rx = .found r ev) (picks : Picks)
    (hp : s.TimerPending r.call) :
    ∃ fd p', s.pending.rmPendingEventEv ev picks = .next (fd, p') ∧
      s.step (.stopTimer picks) = .next (s.withoutTimer r fd p') := by
  obtain ⟨t, ht, heq⟩ := hp
  obtain ⟨fd, p', hrm⟩ := PendingEventXappDs.rmPendingEventEv_succeeds h.pending picks
    ⟨t, ht, heq.trans (h.rx r ev hrx).symm⟩
  exact ⟨fd, p', hrm, by simp [XSys.step, hrx, hrm, withoutTimer]⟩

/-! ## The numbers of the requests -/

/-- The requests that are out and whose timer has not been stopped. -/
def out (s : XSys) : List Nat := (s.due ++ s.rx.answering).map (·.uid)

/-- The requests a timer is pending for. -/
def timed (s : XSys) : List Nat := s.timers.map (·.2.uid)

structure Numbered (s : XSys) : Prop where
  calls : s.callUids.Nodup
  out : s.out.Nodup
  timed : s.timed.Nodup
  unsent : ∀ c ∈ s.calls, c.phase = .started ∨ c.phase = .registered → c.req.uid ∉ s.out
  unregistered : ∀ c ∈ s.calls, c.phase = .started ∨ c.phase = .sent → c.req.uid ∉ s.timed
  callsLt : ∀ u ∈ s.callUids, u < s.nextUid
  outLt : ∀ u ∈ s.out, u < s.nextUid
  timedLt : ∀ u ∈ s.timed, u < s.nextUid

/-- A call is registered before it is sent, or after. -/
theorem afterRegister_eq_some (h : c.afterRegister = some phase) :
    c.phase = .started ∧ phase = .registered ∨ c.phase = .sent ∧ phase = .ready := by
  rw [XCall.afterRegister] at h
  split at h
  · rename_i hp
    split at h
    · exact .inl ⟨hp, (Option.some.inj h).symm⟩
    · cases h
  · rename_i hp
    exact .inr ⟨hp, (Option.some.inj h).symm⟩
  · cases h

/-- A call is ready when it is registered and sent. -/
theorem afterSend_eq_some (h : c.afterSend = some phase) :
    c.phase = .started ∧ phase = .sent ∨ c.phase = .registered ∧ phase = .ready := by
  rw [XCall.afterSend] at h
  split at h
  · rename_i hp
    split at h
    · cases h
    · exact .inl ⟨hp, (Option.some.inj h).symm⟩
  · rename_i hp
    exact .inr ⟨hp, (Option.some.inj h).symm⟩
  · cases h

namespace Numbered

theorem init : Numbered XSys.init where
  calls := .nil
  out := .nil
  timed := .nil
  unsent _ h := absurd h List.not_mem_nil
  unregistered _ h := absurd h List.not_mem_nil
  callsLt _ h := absurd h List.not_mem_nil
  outLt _ h := absurd h List.not_mem_nil
  timedLt _ h := absurd h List.not_mem_nil

/-- Nothing becomes a request, goes out or gets a timer. -/
theorem mono (h : Numbered s) (hcalls : s'.callUids.Sublist s.callUids)
    (hout : s'.out.Nodup) (houtSub : s'.out ⊆ s.out) (htimed : s'.timed.Sublist s.timed)
    (hphase : ∀ c ∈ s'.calls, c ∈ s.calls ∨
      c.phase ≠ .started ∧ c.phase ≠ .registered ∧ c.phase ≠ .sent)
    (hnext : s'.nextUid = s.nextUid) : Numbered s' where
  calls := h.calls.sublist hcalls
  out := hout
  timed := h.timed.sublist htimed
  unsent c hc hp hmem := by
    obtain hc | ⟨hs, hr, -⟩ := hphase c hc
    · exact h.unsent c hc hp (houtSub hmem)
    · exact hp.elim hs hr
  unregistered c hc hp hmem := by
    obtain hc | ⟨hs, -, hr⟩ := hphase c hc
    · exact h.unregistered c hc hp (htimed.subset hmem)
    · exact hp.elim hs hr
  callsLt u hu := hnext ▸ h.callsLt u (hcalls.subset hu)
  outLt u hu := hnext ▸ h.outLt u (houtSub hu)
  timedLt u hu := hnext ▸ h.timedLt u (htimed.subset hu)

/-- A call that has sent and registered moves on. -/
theorem moved (h : Numbered s) (hc : s.calls[i]? = some c)
    (hp : phase ≠ .started ∧ phase ≠ .registered ∧ phase ≠ .sent)
    (hcalls : s'.calls = (s.setPhase i c phase).calls) (hout : s'.out = s.out)
    (htimed : s'.timed = s.timed) (hnext : s'.nextUid = s.nextUid) : Numbered s' := by
  have huids : s'.callUids = s.callUids := by
    rw [← callUids_setPhase hc phase, callUids, hcalls, callUids]
  refine h.mono (huids ▸ .refl _) (hout ▸ h.out) (hout ▸ List.Subset.refl _) (htimed ▸ .refl _) ?_ hnext
  intro c' hc'
  rw [hcalls] at hc'
  obtain hc' | rfl := mem_setPhase hc'
  · exact .inl hc'
  · exact .inr hp

theorem opened (h : Numbered s) (actProc : ActProc) (call : SyncCall) (id : RicGenId) :
    Numbered (s.opened actProc call id) := by
  have hcalls : (s.opened actProc call id).callUids = s.callUids ++ [s.nextUid] :=
    List.map_append
  have hlt : ∀ u, u < s.nextUid → u < (s.opened actProc call id).nextUid := fun u hu =>
    Nat.lt_succ_of_lt hu
  refine ⟨?_, h.out, h.timed, fun c hc hp hmem => ?_, fun c hc hp hmem => ?_, fun u hu => ?_,
    fun u hu => hlt u (h.outLt u hu), fun u hu => hlt u (h.timedLt u hu)⟩
  · rw [hcalls]
    refine (List.perm_append_singleton _ _).nodup_iff.mpr (List.nodup_cons.mpr ⟨fun hmem => ?_, h.calls⟩)
    exact Nat.lt_irrefl _ (h.callsLt _ hmem)
  · obtain hc | hc := List.mem_append.mp hc
    · exact h.unsent c hc hp hmem
    · rw [List.mem_singleton.mp hc] at hmem
      exact Nat.lt_irrefl _ (h.outLt _ hmem)
  · obtain hc | hc := List.mem_append.mp hc
    · exact h.unregistered c hc hp hmem
    · rw [List.mem_singleton.mp hc] at hmem
      exact Nat.lt_irrefl _ (h.timedLt _ hmem)
  · rw [hcalls] at hu
    obtain hu | hu := List.mem_append.mp hu
    · exact hlt u (h.callsLt u hu)
    · rw [List.mem_singleton.mp hu]
      exact Nat.lt_succ_self _

/-- A call registers one timer. -/
theorem untimed (h : Numbered s) (hc : s.calls[i]? = some c)
    (hnext : c.afterRegister = some phase) : c.req.uid ∉ s.timed := by
  have hmem : c ∈ s.calls := List.mem_of_getElem? hc
  obtain ⟨hp, -⟩ | ⟨hp, -⟩ := afterRegister_eq_some hnext
  · exact h.unregistered c hmem (.inl hp)
  · exact h.unregistered c hmem (.inr hp)

theorem registered (h : Numbered s) (hc : s.calls[i]? = some c)
    (hnext : c.afterRegister = some phase) (fd : Fd) (pending : PendingEventXappDs) :
    Numbered (s.withTimer i c phase fd pending) := by
  have hmem : c ∈ s.calls := List.mem_of_getElem? hc
  have hcalls : (s.withTimer i c phase fd pending).callUids = s.callUids := callUids_setPhase hc phase
  have htimed : (s.withTimer i c phase fd pending).timed.Perm (c.req.uid :: s.timed) := by
    simp only [XSys.timed, withTimer, List.map_append]
    exact List.perm_append_singleton _ _
  have hnew := h.untimed hc hnext
  refine ⟨hcalls ▸ h.calls, h.out, ?_, fun c' hc' hp => ?_, fun c' hc' hp hu => ?_,
    hcalls ▸ h.callsLt, h.outLt, fun u hu => ?_⟩
  · exact htimed.nodup_iff.mpr (List.nodup_cons.mpr ⟨hnew, h.timed⟩)
  · obtain rfl | ⟨hc', -⟩ := (mem_setPhase_iff h.calls hc).mp hc'
    · obtain ⟨hs, -⟩ | ⟨-, hr⟩ := afterRegister_eq_some hnext
      · exact h.unsent c hmem (.inl hs)
      · subst hr
        exact absurd hp (by simp)
    · exact h.unsent c' hc' hp
  · obtain rfl | ⟨hc', hne⟩ := (mem_setPhase_iff h.calls hc).mp hc'
    · obtain ⟨-, hr⟩ | ⟨-, hr⟩ := afterRegister_eq_some hnext <;> subst hr <;>
        exact absurd hp (by simp)
    · obtain hu | hu := List.mem_cons.mp (htimed.mem_iff.mp hu)
      · exact hne hu
      · exact h.unregistered c' hc' hp hu
  · obtain rfl | hu := List.mem_cons.mp (htimed.mem_iff.mp hu)
    · exact h.callsLt _ (mem_callUids hmem)
    · exact h.timedLt u hu

theorem sent (h : Numbered s) (hc : s.calls[i]? = some c) (hnext : c.afterSend = some phase) :
    Numbered (s.withDue i c phase) := by
  have hmem : c ∈ s.calls := List.mem_of_getElem? hc
  have hcalls : (s.withDue i c phase).callUids = s.callUids := callUids_setPhase hc phase
  have hout : (s.withDue i c phase).out.Perm (c.req.uid :: s.out) := by
    simp only [XSys.out, withDue, setPhase, List.append_assoc, List.singleton_append]
    exact List.perm_middle.map _
  have hnew : c.req.uid ∉ s.out := by
    obtain ⟨hp, -⟩ | ⟨hp, -⟩ := afterSend_eq_some hnext
    · exact h.unsent c hmem (.inl hp)
    · exact h.unsent c hmem (.inr hp)
  refine ⟨hcalls ▸ h.calls, ?_, h.timed, fun c' hc' hp hu => ?_, fun c' hc' hp => ?_,
    hcalls ▸ h.callsLt, fun u hu => ?_, h.timedLt⟩
  · exact hout.nodup_iff.mpr (List.nodup_cons.mpr ⟨hnew, h.out⟩)
  · obtain rfl | ⟨hc', hne⟩ := (mem_setPhase_iff h.calls hc).mp hc'
    · obtain ⟨-, hr⟩ | ⟨-, hr⟩ := afterSend_eq_some hnext <;> subst hr <;>
        exact absurd hp (by simp)
    · obtain hu | hu := List.mem_cons.mp (hout.mem_iff.mp hu)
      · exact hne hu
      · exact h.unsent c' hc' hp hu
  · obtain rfl | ⟨hc', -⟩ := (mem_setPhase_iff h.calls hc).mp hc'
    · obtain ⟨hs, -⟩ | ⟨-, hr⟩ := afterSend_eq_some hnext
      · exact h.unregistered c hmem (.inl hs)
      · subst hr
        exact absurd hp (by simp)
    · exact h.unregistered c' hc' hp
  · obtain rfl | hu := List.mem_cons.mp (hout.mem_iff.mp hu)
    · exact h.callsLt _ (mem_callUids hmem)
    · exact h.outLt u hu

theorem taken (h : Numbered s) (hidle : s.rx = .idle) (hr : s.due[k]? = some r)
    (ev : PendingEventXapp) (actProc : ActProc) : Numbered (s.taken k r ev actProc) := by
  obtain ⟨hlt, rfl⟩ := List.getElem?_eq_some_iff.mp hr
  have hout : (s.taken k s.due[k] ev actProc).out.Perm s.out := by
    simp only [XSys.out, XSys.taken, hidle, Rx.answering, List.append_nil]
    exact ((List.perm_append_singleton _ _).trans (List.getElem_cons_eraseIdx_perm hlt)).map _
  exact h.mono (.refl _) (hout.nodup_iff.mpr h.out) hout.subset (.refl _) (fun c hc => .inl hc) rfl

theorem step (h : Numbered s) (hs : s.step e = .next s') : Numbered s' := by
  cases step_cases hs with
  | opened call id actProc event active ext eq => exact eq ▸ h.opened actProc call id
  | registered i timer c phase fd event call next pos notOpen eq =>
    exact eq ▸ h.registered call next fd _
  | sent i c phase event call next eq => exact eq ▸ h.sent call next
  | waits i c event call ready eq =>
    subst eq
    exact h.moved call (by simp) rfl rfl rfl rfl
  | timedOut i c event call waiting eq =>
    subst eq
    exact h.moved call (by simp) rfl rfl rfl rfl
  | spurious i c event call waiting eq =>
    subst eq
    exact h.moved call (by simp) rfl rfl rfl rfl
  | returned i c cause received actProc event call woken done eq =>
    subst eq
    exact h.mono ((List.eraseIdx_sublist _ _).map _) h.out (List.Subset.refl _) (.refl _)
      (fun c hc => .inl (List.mem_of_mem_eraseIdx hc)) rfl
  | taken k r ev actProc event idle due found eq => exact eq ▸ h.taken idle due ev actProc
  | stopped picks r ev fd pending event rx removed eq =>
    subst eq
    have hsub : (s.withoutTimer r fd pending).out.Sublist s.out := by
      simp only [XSys.out, withoutTimer, Rx.answering, List.append_nil]
      exact (List.sublist_append_left _ _).map _
    exact h.mono (.refl _) (h.out.sublist hsub) hsub.subset (List.filter_sublist.map _)
      (fun c hc => .inl hc) rfl
  | woke i r c event rx call waiting eq =>
    subst eq
    exact h.moved call (by simp) rfl (by simp [XSys.out, wake, setPhase, signalDone, rx, Rx.answering])
      rfl rfl
  | lost i r event rx none eq =>
    subst eq
    have hout : (s.signalDone r).out = s.out := by simp [XSys.out, signalDone, rx, Rx.answering]
    exact h.mono (.refl _) (hout ▸ h.out) (hout ▸ List.Subset.refl _) (.refl _)
      (fun c hc => .inl hc) rfl
  | expired fd retryCount event eq =>
    subst eq
    exact h.mono (.refl _) h.out (List.Subset.refl _) (.refl _) (fun c hc => .inl hc) rfl

end Numbered

/-- **In every run the requests are numbered apart.** -/
theorem numbered (h : xappMachine.Reachable s) : Numbered s :=
  h.invariant Numbered.init fun _ _ _ _ hp hs => hp.step hs

/-! ## What has been received -/

structure Heard (s : XSys) : Prop where
  received : ∀ u ∈ s.received, u < s.nextUid
  signalled : s.signalled ⊆ s.received
  handling : ∀ r ∈ s.rx.handling, r.uid ∈ s.received

namespace Heard

theorem init : Heard XSys.init where
  received _ h := absurd h List.not_mem_nil
  signalled _ h := absurd h List.not_mem_nil
  handling _ h := absurd h List.not_mem_nil

theorem signalDone (h : Heard s) (hrx : s.rx = .stopped r) : Heard (s.signalDone r) where
  received := h.received
  signalled u hu := by
    obtain hu | hu := List.mem_append.mp hu
    · exact h.signalled hu
    · rw [List.mem_singleton.mp hu]
      exact h.handling r (by rw [hrx]; exact List.mem_cons_self)
  handling _ hr := absurd hr List.not_mem_nil

theorem step (h : Heard s) (hn : Numbered s) (hs : s.step e = .next s') : Heard s' := by
  cases step_cases hs with
  | opened call id actProc event active ext eq =>
    subst eq
    exact ⟨fun u hu => Nat.lt_succ_of_lt (h.received u hu), h.signalled, h.handling⟩
  | taken k r ev actProc event idle due found eq =>
    subst eq
    have hlt : r.uid < s.nextUid := hn.outLt _ (List.mem_map.mpr
      ⟨r, List.mem_append_left _ (List.mem_of_getElem? due), rfl⟩)
    refine ⟨fun u hu => ?_, fun u hu => List.mem_append_left _ (h.signalled hu), fun r' hr' => ?_⟩
    · obtain hu | hu := List.mem_append.mp hu
      · exact h.received u hu
      · rw [List.mem_singleton.mp hu]
        exact hlt
    · rw [List.mem_singleton.mp hr']
      exact List.mem_append_right _ List.mem_cons_self
  | stopped picks r ev fd pending event rx removed eq =>
    subst eq
    exact ⟨h.received, h.signalled, fun r' hr' => h.handling r' (by rw [rx]; exact hr')⟩
  | woke i r c event rx call waiting eq =>
    subst eq
    exact ⟨(h.signalDone rx).received, (h.signalDone rx).signalled, (h.signalDone rx).handling⟩
  | lost i r event rx none eq => exact eq ▸ h.signalDone rx
  | registered i timer c phase fd event call next pos notOpen eq =>
    subst eq
    exact ⟨h.received, h.signalled, h.handling⟩
  | sent i c phase event call next eq =>
    subst eq
    exact ⟨h.received, h.signalled, h.handling⟩
  | waits i c event call ready eq =>
    subst eq
    exact ⟨h.received, h.signalled, h.handling⟩
  | timedOut i c event call waiting eq =>
    subst eq
    exact ⟨h.received, h.signalled, h.handling⟩
  | spurious i c event call waiting eq =>
    subst eq
    exact ⟨h.received, h.signalled, h.handling⟩
  | returned i c cause received actProc event call woken done eq =>
    subst eq
    exact ⟨h.received, h.signalled, h.handling⟩
  | expired fd retryCount event eq =>
    subst eq
    exact ⟨h.received, h.signalled, h.handling⟩

end Heard

/-- **In every run what was signalled had been received.** -/
theorem heard (h : xappMachine.Reachable s) : Heard s :=
  h.invariant Heard.init fun _ _ _ hr hp hs => hp.step (numbered hr) hs

end XSys

end FlexRic
