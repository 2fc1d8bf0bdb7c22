import FlexRic.Agent.AperiodicEvents
import FlexRic.Agent.Invariants

/-!
# FlexRic.Agent.LiveIndications

The indications of the agent, against the subscriptions that are live when they
are sent.

* An aperiodic event carries a copy of the subscription's ids, from the search of
  `e2_async_event_agent` until the loop serves it; `send_ho_completion_indication`
  makes such an event without looking for a subscription (`HoSys`).
* `LiveOk`: the events that wait are of live subscriptions.  It is kept by every
  step but a deletion under a waiting event and a handover nobody subscribed to.
* `live_indications`: in runs without these, what is sent is of a live
  subscription.
-/

namespace FlexRic

open Bimap

/-! ## The handover completion -/

/-- The agent, and whether `send_ho_completion_indication`, which holds `agents_mutex`, has pushed
its event and not written to the pipe. -/
structure HoSys where
  sys : AgentSys
  writing : Bool
  deriving DecidableEq

namespace HoSys

inductive HoEvent where
  | agent (e : AgentSys.AgentEvent)
  /-- `send_ho_completion_indication` by a RAN thread, up to `push_tsq` -/
  | hoPush (thread : Nat)
  /-- its `write` to the pipe -/
  | hoWrite
  deriving DecidableEq

/-- `SM_GTP_ID`. -/
def smGtpId : UInt16 := 148

/-- `sizeof(async_event_t)`. -/
def asyncEventLen : Nat := 80

/-- The event that is pushed: only the RAN function id is filled. -/
def hoEvent : AindEvent where
  ricId := { ricReqId := 0, ricInstId := 0, ranFuncId := smGtpId }
  sm := smGtpId
  actionId := 0
  indData := some 0

def step (s : HoSys) : HoEvent → Outcome HoSys
  | .agent e => do
    let sys ← s.sys.step e
    return { s with sys }
  | .hoPush thread => do
    .await (!s.sys.loop.hasExited && !s.writing)
    match s.sys.loop with
    | .returned _ => return s
    | _ => do
      let _ ← s.sys.ag.smPlugin smGtpId
      return {
        sys :=
          { s.sys with
            ag.aind := s.sys.ag.aind ++ [hoEvent]
            pushed := s.sys.pushed ++ [(thread, hoEvent)] }
        writing := true }
  | .hoWrite => do
    .await (!s.sys.loop.hasExited && s.writing)
    .await (decide (s.sys.pipe.sum + asyncEventLen ≤ AgentSys.pipeCapacity))
    return {
      sys := { s.sys with pipe := s.sys.pipe ++ [asyncEventLen], edge := true }
      writing := false }

end HoSys

/-- The agent, with handovers. -/
def hoMachine (cfg : AgentConfig) : Machine HoSys HoSys.HoEvent :=
  ⟨⟨AgentSys.init cfg, false⟩, HoSys.step⟩

/-- The event of a call that has found a subscription. -/
def Call.event (c : Call) : Option AindEvent :=
  match c.phase with
  | .found ev => some ev
  | _ => none

namespace AgentSys

variable {s s' : AgentSys} {e : AgentEvent}

/-- The aperiodic events that are not served: in the queue, in the loop's hands, or found by a
call. -/
def awaiting (s : AgentSys) : List AindEvent :=
  s.ag.aind ++ s.loop.inHand ++ s.calls.filterMap Call.event

/-- A subscription with these ids is live. -/
def LiveIds (s : AgentSys) (id : RicGenId) (actionId : UInt8) : Prop :=
  ∃ p ∈ s.subs, p.2.ricId = id ∧ p.2.actionId = actionId

instance (s : AgentSys) (id : RicGenId) (actionId : UInt8) : Decidable (s.LiveIds id actionId) :=
  inferInstanceAs (Decidable (∃ p ∈ s.subs, _))

/-- What a step sends. -/
def sentBy (s s' : AgentSys) : List RicIndication :=
  s'.sentInd.drop s.sentInd.length ++ s'.sentAind.drop s.sentAind.length

/-- A deletion names one subscription at most, and none whose event waits; and
no call searches the table then. -/
def DeleteCond (s : AgentSys) : AgentEvent → Prop
  | .subscriptionDelete id _ =>
    (s.subs.filter fun p => p.2.ricId == id).length ≤ 1 ∧ (∀ ev ∈ s.awaiting, ev.ricId ≠ id) ∧
      s.searching = false
  | _ => True

instance (s : AgentSys) (e : AgentEvent) : Decidable (DeleteCond s e) := by
  unfold DeleteCond
  split <;> infer_instance

/-- The trees hold the live subscriptions, and so do the events that wait. -/
structure LiveOk (s : AgentSys) : Prop where
  entries : s.ag.indEvent.left.Perm s.subs
  mirror : Mirror s.ag.indEvent.left s.ag.indEvent.right
  live : ∀ ev ∈ s.awaiting, s.LiveIds ev.ricId ev.actionId

/-! ## The tables -/

/-- Of one element at most no two differ. -/
theorem eq_of_length_le_one {α : Type} {l : List α} {a b : α} (h : l.length ≤ 1) (ha : a ∈ l)
    (hb : b ∈ l) : a = b := by
  match l, h with
  | [x], _ => rw [List.mem_singleton.mp ha, List.mem_singleton.mp hb]

/-- A deletion that names one subscription takes it out of both trees. -/
theorem stopped_tables {ag : E2Agent} {id : RicGenId} {picks : Picks} {key : Fd}
    (hentries : s.ag.indEvent.left.Perm s.subs)
    (hmirror : Mirror s.ag.indEvent.left s.ag.indEvent.right)
    (hone : (s.subs.filter fun p => p.2.ricId == id).length ≤ 1)
    (hst : s.ag.Stopped id picks key ag) :
    ag.indEvent.left.Perm (s.subs.filter fun p => p.2.ricId != id) ∧
      Mirror ag.indEvent.left ag.indEvent.right := by
  obtain ⟨evl, evr, hidl, hidr, hl, hr⟩ := Stopped.removed hst
  have hnamed := hentries.filter fun p => p.2.ricId == id
  rw [← hnamed.length_eq] at hone
  have hevl : (key, evl) ∈ s.ag.indEvent.left.filter fun p => p.2.ricId == id :=
    List.mem_filter.mpr ⟨hl.mem_iff.mpr List.mem_cons_self, by simp [hidl]⟩
  have hevr : (key, evr) ∈ s.ag.indEvent.left.filter fun p => p.2.ricId == id :=
    List.mem_filter.mpr ⟨hmirror.mem.mpr (hr.mem_iff.mpr List.mem_cons_self), by simp [hidr]⟩
  have heq : (key, evr) = (key, evl) := eq_of_length_le_one hone hevr hevl
  rw [Prod.mk.injEq] at heq
  rw [heq.2] at hr
  refine ⟨?_, List.Perm.cons_inv ((hr.symm.trans hmirror).trans (hl.map Prod.swap))⟩
  have hrest : ag.indEvent.left.filter (fun p => p.2.ricId == id) = [] := by
    have hlen := (hl.filter fun p => p.2.ricId == id).length_eq
    rw [List.filter_cons_of_pos (by simp [hidl]), List.length_cons] at hlen
    exact List.length_eq_zero_iff.mp (by omega)
  have hkeep : ∀ p ∈ ag.indEvent.left, (p.2.ricId != id) = true := by
    intro p hp
    have hnot := List.filter_eq_nil_iff.mp hrest p hp
    simpa using hnot
  have hothers := (hl.symm.trans hentries).filter fun p => p.2.ricId != id
  rwa [List.filter_cons_of_neg (by simp [hidl]), List.filter_eq_self.mpr hkeep] at hothers

/-- **Both trees hold the live subscriptions** after every step. -/
theorem LiveOk.tables (h : LiveOk s) (hc : DeleteCond s e) (hs : s.step e = .next s') :
    s'.ag.indEvent.left.Perm s'.subs ∧ Mirror s'.ag.indEvent.left s'.ag.indEvent.right ∧
      ∀ ev ∈ s.awaiting, s'.LiveIds ev.ricId ev.actionId := by
  cases table_cases hs with
  | registered sr ans fd key ev ag event registered id eq =>
    subst eq
    have hind : ag.indEvent = inserted cmpFd cmpIndEvent s.ag.indEvent key ev := by
      rw [registered.rest]
    refine ⟨?_, ?_, fun ev' hev' => ?_⟩
    · simp only [hind, inserted]
      exact (OrdAssoc.insert_perm _ _ _ _).trans (h.entries.cons _)
    · simp only [hind, inserted]
      exact h.mirror.insert
    · obtain ⟨p, hp, hids⟩ := h.live ev' hev'
      exact ⟨p, List.mem_cons_of_mem _ hp, hids⟩
  | notFound id picks event absent eq =>
    subst event eq
    have hkeep : ∀ p ∈ s.subs, (p.2.ricId != id) = true := fun p hp =>
      bne_iff_ne.mpr (absent _ (h.mirror.mem.mp (h.entries.mem_iff.mpr hp)))
    have hsubs : (s.subs.filter fun p => p.2.ricId != id) = s.subs := List.filter_eq_self.mpr hkeep
    refine ⟨?_, h.mirror, fun ev hev => ?_⟩
    · show s.ag.indEvent.left.Perm (s.subs.filter _)
      rw [hsubs]
      exact h.entries
    · show ∃ p ∈ s.subs.filter _, _
      rw [hsubs]
      exact h.live ev hev
  | stopped id picks key ag event stopped eq =>
    subst event eq
    obtain ⟨hentries, hmirror⟩ := stopped_tables h.entries h.mirror hc.1 stopped
    refine ⟨hentries, hmirror, fun ev hev => ?_⟩
    obtain ⟨p, hp, hid, haction⟩ := h.live ev hev
    have hne := hc.2.1 ev hev
    exact ⟨p, List.mem_filter.mpr ⟨hp, by simpa [hid] using hne⟩, hid, haction⟩
  | expired fd value newTimer encodes ag event isOpen notInd pend handled eq =>
    subst eq
    have hind : ag.indEvent = s.ag.indEvent := ((E2Agent.close_sameEvents fd).trans
      (E2Agent.handlePendingEvent_sameEvents handled)).indEvent
    simp only [hind]
    exact ⟨h.entries, h.mirror, h.live⟩
  | setUp picks ag event handled eq =>
    subst eq
    have hind : ag.indEvent = s.ag.indEvent :=
      (E2Agent.handleSetupResponse_sameEvents handled).indEvent
    simp only [hind]
    exact ⟨h.entries, h.mirror, h.live⟩
  | shutDown fdTimer ag event handled eq =>
    subst eq
    obtain ⟨-, -, rfl⟩ := E2Agent.handleConnectionShutdown_eq_next handled
    exact ⟨h.entries, h.mirror, h.live⟩
  | quiet same =>
    unfold LiveIds
    rw [same.indEvent, same.subs]
    exact ⟨h.entries, h.mirror, h.live⟩

/-! ## The events that wait -/

/-- An event waits in the queue, in the loop's hands or in a call's. -/
theorem mem_awaiting {ev : AindEvent} :
    ev ∈ s.awaiting ↔ ev ∈ s.ag.aind ∨ ev ∈ s.loop.inHand ∨ ∃ c ∈ s.calls, c.event = some ev := by
  unfold awaiting
  rw [List.mem_append, List.mem_append, List.mem_filterMap, or_assoc]

/-- What the search of a call finds is in the table, with the id that was searched. -/
theorem mem_of_findRicReqId {ag : E2Agent} {ricReqId : UInt32} {indEv : IndEvent}
    (h : ag.findRicReqId ricReqId = some indEv) :
    (∃ x ∈ ag.indEvent.right, x.1 = indEv) ∧ indEv.ricId.ricReqId = ricReqId := by
  obtain ⟨x, hx, rfl⟩ := Option.map_eq_some_iff.mp h
  have heq := OrdAssoc.findIf_key hx
  exact ⟨⟨x, OrdAssoc.mem_of_findIf hx, rfl⟩, (beq_iff_eq.mp heq).symm⟩

/-- A search that goes on, or ends with the event of what it found. -/
theorem look_phase {k tries : Nat} {stale : Bool} {c : Call}
    (h : s.look k c tries stale = .next s') :
    ∃ phase, s' = { s with calls := s.calls.set k { c with phase } } ∧
      ∀ ev, phase = .found ev → ∃ indEv, s.ag.findRicReqId c.ricReqId = some indEv ∧
        ev = ⟨indEv.ricId, indEv.sm, indEv.actionId, c.indData⟩ := by
  obtain ⟨-, ⟨indEv, hfind, rfl⟩ | ⟨-, -, rfl⟩⟩ := look_eq_next h
  · refine ⟨_, rfl, fun ev hev => ?_⟩
    cases hev
    exact ⟨indEv, hfind, rfl⟩
  · exact ⟨_, rfl, fun ev hev => by cases hev⟩

/-- A search goes on where it stands. -/
theorem step_look {k : Nat} (hs : s.step (.look k) = .next s') :
    ∃ c tries stale, s.calls[k]? = some c ∧ c.phase = .searching tries stale ∧
      s.look k c tries stale = .next s' := by
  simp only [AgentSys.step, Outcome.bind_eq_next] at hs
  obtain ⟨⟨⟩, -, hs⟩ := hs
  split at hs
  · rename_i tries stale hc
    exact ⟨_, tries, stale, hc, rfl, hs⟩
  · cases hs

@[simp] theorem event_disturbed (c : Call) : c.disturbed.event = c.event := by
  obtain ⟨thread, ricReqId, indData, phase⟩ := c
  cases phase <;> rfl

/-- Only a search makes an event wait that did not wait before. -/
theorem awaiting_subset (hs : s.step e = .next s') (hlook : ∀ k, e ≠ .look k) {ev : AindEvent}
    (hev : ev ∈ s'.awaiting) : ev ∈ s.awaiting := by
  rw [mem_awaiting] at hev ⊢
  cases queue_cases hs with
  | called thread ricReqId indData event eq =>
    subst eq
    refine hev.imp id (Or.imp id ?_)
    rintro ⟨c, hc, hce⟩
    obtain hc | hc := List.mem_append.mp hc
    · exact ⟨c, hc, hce⟩
    · rw [List.mem_singleton.mp hc] at hce
      cases hce
  | locked k c tries event call was eq =>
    subst eq
    refine hev.imp id (Or.imp id ?_)
    rintro ⟨c', hc', hce⟩
    obtain hc' | rfl := List.mem_or_eq_of_mem_set hc'
    · exact ⟨c', hc', hce⟩
    · cases hce
  | looked k c tries phase event call was new eq => exact absurd event (hlook k)
  | pushed k c ev' event call was eq =>
    subst eq
    have hfound : c.event = some ev' := by
      unfold Call.event
      rw [was]
    obtain hq | hl | ⟨c', hc', hce⟩ := hev
    · obtain hq | hq := List.mem_append.mp hq
      · exact .inl hq
      · rw [List.mem_singleton.mp hq]
        exact .inr (.inr ⟨c, List.mem_of_getElem? call, hfound⟩)
    · exact .inr (.inl hl)
    · obtain hc' | rfl := List.mem_or_eq_of_mem_set hc'
      · exact .inr (.inr ⟨c', hc', hce⟩)
      · cases hce
  | written k c event call was eq =>
    subst eq
    refine hev.imp id (Or.imp id ?_)
    rintro ⟨c', hc', hce⟩
    exact ⟨c', List.mem_of_mem_eraseIdx hc', hce⟩
  | woken event was edge readable nonempty eq =>
    subst eq
    obtain hq | hl | hc := hev
    · cases hq
    · rw [Loop.inHand_next] at hl
      exact .inl hl
    · exact .inr (.inr hc)
  | served ev' rest value event was eq =>
    subst eq
    rw [was, Loop.inHand_serving]
    unfold serve at hev
    split at hev
    · exact hev
    · exact hev.imp id (Or.imp (List.mem_cons_of_mem _) id)
  | consumed rest sent event was readable eq =>
    subst eq
    rw [was, Loop.inHand_consuming]
    cases sent with
    | false =>
      rw [if_neg Bool.false_ne_true, Loop.inHand_next] at hev
      exact hev
    | true => exact hev
  | disturbed ricId picks event same =>
    rw [same.aind, same.loop, same.calls] at hev
    refine hev.imp id (Or.imp id ?_)
    rintro ⟨c', hc', hce⟩
    obtain ⟨c, hc, rfl⟩ := List.mem_map.mp hc'
    exact ⟨c, hc, by rwa [event_disturbed] at hce⟩
  | quiet same =>
    rw [same.aind, same.loop, same.calls] at hev
    exact hev

/-- An event that waits after a search waited before it, or was found in the table by it. -/
theorem awaiting_looked {k : Nat} (hs : s.step (.look k) = .next s') {ev : AindEvent}
    (hev : ev ∈ s'.awaiting) : ev ∈ s.awaiting ∨ ∃ c indEv, s.calls[k]? = some c ∧
      s.ag.findRicReqId c.ricReqId = some indEv ∧
        ev = ⟨indEv.ricId, indEv.sm, indEv.actionId, c.indData⟩ := by
  rw [mem_awaiting] at hev ⊢
  obtain ⟨c, tries, stale, hc, -, hl⟩ := step_look hs
  obtain ⟨phase, rfl, hfound⟩ := look_phase hl
  obtain hq | hl | ⟨c', hc', hce⟩ := hev
  · exact .inl (.inl hq)
  · exact .inl (.inr (.inl hl))
  · obtain hc' | rfl := List.mem_or_eq_of_mem_set hc'
    · exact .inl (.inr (.inr ⟨c', hc', hce⟩))
    · unfold Call.event at hce
      split at hce
      · rename_i ev' hphase
        cases hce
        obtain ⟨indEv, hfind, rfl⟩ := hfound ev hphase
        exact .inr ⟨c, indEv, hc, hfind, rfl⟩
      · cases hce

/-- An event that waits after a step waited before it, or was just found in the table. -/
theorem awaiting_cases (hs : s.step e = .next s') {ev : AindEvent} (hev : ev ∈ s'.awaiting) :
    ev ∈ s.awaiting ∨ (s'.ag = s.ag ∧ s'.subs = s.subs ∧
      ∃ x ∈ s.ag.indEvent.right, x.1.ricId = ev.ricId ∧ x.1.actionId = ev.actionId) := by
  by_cases hlook : ∃ k, e = .look k
  · obtain ⟨k, rfl⟩ := hlook
    obtain ⟨c', tries, stale, -, -, hl⟩ := step_look hs
    obtain hold | ⟨c, indEv, -, hfind, rfl⟩ := awaiting_looked hs hev
    · exact .inl hold
    · obtain ⟨phase, rfl, -⟩ := look_phase hl
      obtain ⟨⟨x, hx, rfl⟩, -⟩ := mem_of_findRicReqId hfind
      exact .inr ⟨rfl, rfl, x, hx, rfl, rfl⟩
  · exact .inl (awaiting_subset hs (fun k hk => hlook ⟨k, hk⟩) hev)

/-- **An id that waits is that of a live subscription**, under the condition on deletions. -/
theorem LiveOk.step (h : LiveOk s) (hc : DeleteCond s e) (hs : s.step e = .next s') :
    LiveOk s' := by
  obtain ⟨hentries, hmirror, hkept⟩ := h.tables hc hs
  refine ⟨hentries, hmirror, fun ev hev => ?_⟩
  obtain hold | ⟨hag, hsubs, x, hx, hid, haction⟩ := awaiting_cases hs hev
  · exact hkept ev hold
  · rw [← hag] at hx
    exact ⟨_, hentries.mem_iff.mp (hmirror.mem.mpr hx), hid, haction⟩

/-! ## What is sent -/

/-- **What a step sends**: the indication of the subscription whose timer expired, or of the event
the loop serves. -/
theorem sent_cases (hs : s.step e = .next s') {ind : RicIndication} (hind : ind ∈ s.sentBy s') :
    (∃ fd ev, s.ag.indEventOf fd = some ev ∧ ind = generateIndication ev) ∨
      ∃ ev rest, s.loop = .serving ev rest ∧ ind = generateAindication ev := by
  have hnothing (hsent : s'.sentInd = s.sentInd) (hsentA : s'.sentAind = s.sentAind) : False := by
    unfold sentBy at hind
    rw [hsent, hsentA, List.drop_length, List.drop_length] at hind
    cases hind
  cases e with
  | subscription sr ans fd =>
    simp only [AgentSys.step, Outcome.bind_eq_next, Outcome.pure_eq, Outcome.next_inj] at hs
    obtain ⟨⟨⟩, -, ⟨resp, ⟨key, ev⟩, ag⟩, -, rfl⟩ := hs
    exact (hnothing rfl rfl).elim
  | subscriptionDelete id picks =>
    simp only [AgentSys.step, Outcome.bind_eq_next, Outcome.pure_eq, Outcome.next_inj] at hs
    obtain ⟨⟨⟩, -, ⟨resp, ag⟩, -, rfl⟩ := hs
    exact (hnothing rfl rfl).elim
  | timer fd value newTimer encodes =>
    simp only [AgentSys.step, timerExpired, Outcome.bind_eq_next] at hs
    obtain ⟨⟨⟩, -, hs⟩ := hs
    split at hs
    · rename_i ev hev
      cases hs
      cases value with
      | false => exact (hnothing rfl rfl).elim
      | true =>
        unfold sentBy at hind
        simp only [if_true, List.drop_left, List.drop_length, List.append_nil,
          List.mem_singleton] at hind
        exact .inl ⟨fd, ev, hev, hind⟩
    · simp only [Outcome.bind_eq_next, Outcome.pure_eq, Outcome.next_inj] at hs
      obtain ⟨⟨⟩, -, ag, -, rfl⟩ := hs
      exact (hnothing rfl rfl).elim
  | setupResponse picks =>
    simp only [AgentSys.step, Outcome.bind_eq_next, Outcome.pure_eq, Outcome.next_inj] at hs
    obtain ⟨⟨⟩, -, ag, -, rfl⟩ := hs
    exact (hnothing rfl rfl).elim
  | shutdown fdTimer =>
    simp only [AgentSys.step, Outcome.bind_eq_next, Outcome.pure_eq, Outcome.next_inj] at hs
    obtain ⟨⟨⟩, -, ag, -, rfl⟩ := hs
    exact (hnothing rfl rfl).elim
  | call thread ricReqId indData =>
    simp only [AgentSys.step, Outcome.bind_eq_next, Outcome.pure_eq, Outcome.next_inj] at hs
    obtain ⟨⟨⟩, -, rfl⟩ := hs
    exact (hnothing rfl rfl).elim
  | lock k =>
    simp only [AgentSys.step, Outcome.bind_eq_next] at hs
    obtain ⟨⟨⟩, -, hs⟩ := hs
    split at hs
    · cases hs
      exact (hnothing rfl rfl).elim
    · cases hs
  | look k =>
    simp only [AgentSys.step, Outcome.bind_eq_next] at hs
    obtain ⟨⟨⟩, -, hs⟩ := hs
    split at hs
    · obtain ⟨phase, rfl, -⟩ := look_phase hs
      exact (hnothing rfl rfl).elim
    · cases hs
  | push k =>
    simp only [AgentSys.step, Outcome.bind_eq_next] at hs
    obtain ⟨⟨⟩, -, hs⟩ := hs
    split at hs
    · cases hs
      exact (hnothing rfl rfl).elim
    · cases hs
  | write k =>
    simp only [AgentSys.step, Outcome.bind_eq_next] at hs
    obtain ⟨⟨⟩, -, hs⟩ := hs
    split at hs
    · simp only [Outcome.bind_eq_next, Outcome.pure_eq, Outcome.next_inj] at hs
      obtain ⟨⟨⟩, -, rfl⟩ := hs
      exact (hnothing rfl rfl).elim
    · cases hs
  | wake =>
    simp only [AgentSys.step, Outcome.bind_eq_next, Outcome.pure_eq, Outcome.next_inj] at hs
    obtain ⟨⟨⟩, -, ⟨⟩, -, rfl⟩ := hs
    exact (hnothing rfl rfl).elim
  | serve value =>
    simp only [AgentSys.step] at hs
    split at hs
    · rename_i ev rest hloop
      cases hs
      unfold serve at hind hnothing
      split at hind
      · rename_i hnull
        rw [if_pos hnull] at hnothing
        exact (hnothing rfl rfl).elim
      · rename_i hnull
        rw [if_neg hnull] at hnothing
        cases value with
        | false => exact (hnothing rfl rfl).elim
        | true =>
          unfold sentBy at hind
          simp only [if_true, List.drop_left, List.drop_length, List.nil_append,
            List.mem_singleton] at hind
          exact .inr ⟨ev, rest, hloop, hind⟩
    · cases hs
  | consume =>
    simp only [AgentSys.step] at hs
    split at hs
    · obtain ⟨-, -, rfl⟩ := consume_eq_next hs
      exact (hnothing rfl rfl).elim
    · cases hs

/-- What is sent is of a live subscription. -/
def SendsLive (s s' : AgentSys) : Prop :=
  ∀ ind ∈ s.sentBy s', s.LiveIds ind.ricId ind.actionId

/-- Under the invariant what is sent is sent for a live subscription. -/
theorem LiveOk.sendsLive (h : LiveOk s) (hs : s.step e = .next s') : s.SendsLive s' := by
  intro ind hind
  obtain ⟨fd, ev, hev, rfl⟩ | ⟨ev, rest, hloop, rfl⟩ := sent_cases hs hind
  · obtain ⟨x, hx, rfl⟩ := Option.map_eq_some_iff.mp hev
    exact ⟨x, h.entries.mem_iff.mp (OrdAssoc.mem_of_findIf hx), rfl, rfl⟩
  · refine h.live ev (mem_awaiting.mpr (.inr (.inl ?_)))
    rw [hloop]
    exact List.mem_cons_self

end AgentSys

/-! ## All runs -/

namespace HoSys

variable {cfg : AgentConfig} {s s' : HoSys} {e : HoEvent}

/-- Deletions as in `DeleteCond`, and handovers only under a subscription with the ids that their
events have. -/
def LiveCond (s : HoSys) : HoEvent → Prop
  | .agent e => s.sys.DeleteCond e
  | .hoPush _ => s.sys.LiveIds hoEvent.ricId hoEvent.actionId
  | .hoWrite => True

instance (s : HoSys) (e : HoEvent) : Decidable (LiveCond s e) := by
  unfold LiveCond
  split <;> infer_instance

/-- Each step from here sends indications of live subscriptions only. -/
def OnlyLive (s : HoSys) : Prop := ∀ e s', s.step e = .next s' → s.sys.SendsLive s'.sys

theorem liveOk_step (h : s.sys.LiveOk) (hc : LiveCond s e) (hs : s.step e = .next s') :
    s'.sys.LiveOk := by
  cases e with
  | agent e =>
    simp only [step, Outcome.bind_eq_next, Outcome.pure_eq, Outcome.next_inj] at hs
    obtain ⟨sys, hsys, rfl⟩ := hs
    exact h.step hc hsys
  | hoPush thread =>
    simp only [step, Outcome.bind_eq_next] at hs
    obtain ⟨⟨⟩, -, hs⟩ := hs
    split at hs
    · cases hs
      exact h
    · simp only [Outcome.bind_eq_next, Outcome.pure_eq, Outcome.next_inj] at hs
      obtain ⟨sm, -, rfl⟩ := hs
      refine ⟨h.entries, h.mirror, fun ev hev => ?_⟩
      rw [AgentSys.mem_awaiting] at hev
      obtain hq | hrest := hev
      · obtain hq | hq := List.mem_append.mp hq
        · exact h.live ev (AgentSys.mem_awaiting.mpr (.inl hq))
        · rw [List.mem_singleton.mp hq]
          exact hc
      · exact h.live ev (AgentSys.mem_awaiting.mpr (.inr hrest))
  | hoWrite =>
    simp only [step, Outcome.bind_eq_next, Outcome.pure_eq, Outcome.next_inj] at hs
    obtain ⟨⟨⟩, -, ⟨⟩, -, rfl⟩ := hs
    exact ⟨h.entries, h.mirror, h.live⟩

/-- The invariant holds in every run under the condition. -/
theorem liveOk (h : (hoMachine cfg).ReachedBy LiveCond s) : s.sys.LiveOk :=
  h.invariant ⟨.nil, .nil, fun _ hev => by cases hev⟩ fun _ _ _ _ hp hc hs => liveOk_step hp hc hs

/-- Under the invariant the next step sends for live subscriptions only. -/
theorem onlyLive_of_liveOk (h : s.sys.LiveOk) : OnlyLive s := by
  intro e s' hs ind hind
  cases e with
  | agent e =>
    simp only [step, Outcome.bind_eq_next, Outcome.pure_eq, Outcome.next_inj] at hs
    obtain ⟨sys, hsys, rfl⟩ := hs
    exact h.sendsLive hsys ind hind
  | hoPush thread =>
    simp only [step, Outcome.bind_eq_next] at hs
    obtain ⟨⟨⟩, -, hs⟩ := hs
    unfold AgentSys.sentBy at hind
    split at hs
    · cases hs
      rw [List.drop_length, List.drop_length] at hind
      cases hind
    · simp only [Outcome.bind_eq_next, Outcome.pure_eq, Outcome.next_inj] at hs
      obtain ⟨sm, -, rfl⟩ := hs
      rw [List.drop_length, List.drop_length] at hind
      cases hind
  | hoWrite =>
    simp only [step, Outcome.bind_eq_next, Outcome.pure_eq, Outcome.next_inj] at hs
    obtain ⟨⟨⟩, -, ⟨⟩, -, rfl⟩ := hs
    unfold AgentSys.sentBy at hind
    rw [List.drop_length, List.drop_length] at hind
    cases hind

/-- **Indications of live subscriptions.** In every run in which a deletion names at most one live
subscription and none whose aperiodic event waits, and comes while no call searches the table, and
a handover completes only under a subscription with the ids of its event, each step sends indications of subscriptions only that are
live then. -/
theorem live_indications (cfg : AgentConfig) (s : HoSys)
    (h : (hoMachine cfg).ReachedBy LiveCond s) : OnlyLive s :=
  onlyLive_of_liveOk (liveOk h)

/-- An event is raised for the subscription 1021, which is deleted before the loop looks at the
queue. -/
def deletedFirst : List HoEvent :=
  [.agent (.subscription ⟨⟨1021, 0, 3⟩, [⟨0, .report⟩]⟩ .aperiodic 0),
    .agent (.call 1 1021 (some 0)), .agent (.lock 0), .agent (.look 0), .agent (.push 0),
    .agent (.write 0), .agent (.subscriptionDelete ⟨1021, 0, 3⟩ (0, 0)), .agent .wake]

/-- The indication of a deleted subscription is sent nevertheless. -/
theorem sends_after_delete : ¬ ∀ cfg s, (hoMachine cfg).Reachable s → OnlyLive s := by
  intro hclaim
  obtain ⟨s, hr, hs⟩ := Machine.Reachable.exists_of_run (M := hoMachine .local) deletedFirst
    (fun s => s.sys.subs.isEmpty &&
      (s.step (.agent (.serve true))).toOption.any fun s' => !(s.sys.sentBy s'.sys).isEmpty)
    (by decide)
  rw [Bool.and_eq_true, Option.any_eq_true] at hs
  obtain ⟨hsubs, s', hstep, hsent⟩ := hs
  obtain ⟨ind, hind⟩ := List.exists_mem_of_ne_nil (s.sys.sentBy s'.sys) (by simpa using hsent)
  obtain ⟨p, hp, -⟩ := hclaim _ s hr _ s' (Outcome.toOption_eq_some.mp hstep) ind hind
  rw [List.isEmpty_iff.mp hsubs] at hp
  cases hp

/-- The event is served before the deletion. -/
theorem live_indications_served :
    ∃ s, s.sys.sentAind = [⟨⟨1021, 0, 3⟩, 0⟩] ∧ OnlyLive s := by
  obtain ⟨s, hr, hs⟩ := Machine.ReachedBy.exists_of_run (M := hoMachine .local) (C := LiveCond)
    [.agent (.subscription ⟨⟨1021, 0, 3⟩, [⟨0, .report⟩]⟩ .aperiodic 0),
      .agent (.call 1 1021 (some 0)), .agent (.lock 0), .agent (.look 0), .agent (.push 0),
      .agent (.write 0), .agent .wake, .agent (.serve true)]
    (fun s => s.sys.sentAind == [⟨⟨1021, 0, 3⟩, 0⟩]) (by decide)
  exact ⟨s, beq_iff_eq.mp hs, live_indications .local s hr⟩

end HoSys

end FlexRic
