import FlexRic.Agent.Invariants
import Mathlib.Data.List.Nodup

/-!
# FlexRic.Agent.Subscriptions

The agent's table of subscriptions against the subscriptions that are live.

* `TableExact`: while no live id is requested again, the two trees mirror
  each other and hold one entry for each live subscription;
* `own_iff`: the left tree finds a subscription's own entry under its key,
  whatever the shape of the tree, when the subscription is periodic or the
  only aperiodic one;
* `subscription_table`: a deletion removes exactly the subscription it names
  if and only if the left tree finds its own entry, and ends the process
  otherwise.

All aperiodic subscriptions have the key `0`, so what the left tree finds
first under it can be any of them.
-/

namespace FlexRic

open Bimap

namespace AgentSys

variable {cfg : AgentConfig} {s s' : AgentSys} {e : AgentEvent} {p : Fd × IndEvent} {picks : Picks}

/-- A request does not reuse the id of a live subscription. -/
def FreshId (s : AgentSys) : AgentEvent → Prop
  | .subscription sr _ _ => ∀ p ∈ s.subs, p.2.ricId ≠ sr.ricId
  | _ => True

instance (s : AgentSys) (e : AgentEvent) : Decidable (FreshId s e) := by
  unfold FreshId
  split <;> infer_instance

/-- One entry for each live subscription in either tree, under distinct ids. -/
structure TableOk (s : AgentSys) : Prop where
  entries : s.ag.indEvent.left.Perm s.subs
  mirror : Mirror s.ag.indEvent.left s.ag.indEvent.right
  ids : OrdAssoc.Distinct cmpIndEvent s.ag.indEvent.right
  keys : ∀ p ∈ s.subs, p.2.type = .aperiodic ↔ p.1 = 0

/-- One entry for each live subscription, and an open timer of its own for each periodic one. -/
structure TableExact (s : AgentSys) : Prop extends TableOk s where
  timers : ∀ p ∈ s.subs, p.2.type = .periodic → p.1 ∈ s.ag.timers
  apart : ∀ p ∈ s.subs, ∀ q ∈ s.subs, p.2.type = .periodic → q.1 = p.1 → q = p

/-- A live subscription is in the right tree. -/
theorem TableOk.mem_right (h : TableOk s) (hp : p ∈ s.subs) :
    (p.2, p.1) ∈ s.ag.indEvent.right :=
  h.mirror.mem.mp (h.entries.mem_iff.mpr hp)

/-- An entry of the right tree is a live subscription. -/
theorem TableOk.mem_subs (h : TableOk s) {x : IndEvent × Fd} (hx : x ∈ s.ag.indEvent.right) :
    (x.2, x.1) ∈ s.subs :=
  h.entries.mem_iff.mp (h.mirror.mem.mpr hx)

/-- A live subscription is known by its id. -/
theorem TableOk.eq_of_id (h : TableOk s) {q : Fd × IndEvent} (hp : p ∈ s.subs) (hq : q ∈ s.subs)
    (hid : q.2.ricId = p.2.ricId) : q = p := by
  have := h.ids.eq_of_mem lawful_cmpIndEvent (h.mem_right hq) (h.mem_right hp)
    (cmpIndEvent_eq_zero.mpr hid)
  rw [Prod.mk.injEq] at this
  exact Prod.ext this.2 this.1

/-- A new id makes a new entry in both trees. -/
theorem TableOk.registered (h : TableOk s) {fd key : Fd} {ev : IndEvent} {ag : E2Agent}
    (hr : s.ag.Registered fd key ev ag) (hnew : ∀ p ∈ s.subs, p.2.ricId ≠ ev.ricId) :
    TableOk { s with ag, subs := (key, ev) :: s.subs } := by
  have hind : ag.indEvent = inserted cmpFd cmpIndEvent s.ag.indEvent key ev := by rw [hr.rest]
  refine ⟨?_, ?_, ?_, ?_⟩
  · simp only [hind, inserted]
    exact (OrdAssoc.insert_perm _ _ _ _).trans (h.entries.cons _)
  · simp only [hind, inserted]
    exact h.mirror.insert
  · simp only [hind, inserted]
    refine (OrdAssoc.distinct_insert lawful_cmpIndEvent).mpr ⟨h.ids, fun x hx hz => ?_⟩
    exact hnew _ (h.mem_subs hx) (cmpIndEvent_eq_zero.mp hz).symm
  · intro p hp
    obtain rfl | hp := List.mem_cons.mp hp
    · obtain ⟨htype, rfl, hpos, -⟩ | ⟨htype, rfl, -⟩ := hr.timer
      · simp [htype, Nat.ne_of_gt hpos]
      · simp [htype]
    · exact h.keys p hp

/-- With distinct ids the two entries a deletion takes out are one pair. -/
theorem TableOk.stopped_pair (h : TableOk s) {ag : E2Agent} {id : RicGenId} {key : Fd}
    (hst : s.ag.Stopped id picks key ag) :
    ∃ ev, ev.ricId = id ∧ s.ag.indEvent.left.Perm ((key, ev) :: ag.indEvent.left) ∧
      s.ag.indEvent.right.Perm ((ev, key) :: ag.indEvent.right) := by
  obtain ⟨evl, evr, hidl, hidr, hl, hr⟩ := Stopped.removed hst
  have hmemr : (evr, key) ∈ s.ag.indEvent.right := hr.mem_iff.mpr List.mem_cons_self
  have hmeml : (evl, key) ∈ s.ag.indEvent.right :=
    h.mirror.mem.mp (hl.mem_iff.mpr List.mem_cons_self)
  have heq := h.ids.eq_of_mem lawful_cmpIndEvent hmeml hmemr
    (cmpIndEvent_eq_zero.mpr (hidl.trans hidr.symm))
  rw [Prod.mk.injEq] at heq
  exact ⟨evr, hidr, heq.1 ▸ hl, hr⟩

/-- A deletion takes its entry out of both trees. -/
theorem TableOk.stopped (h : TableOk s) {ag : E2Agent} {id : RicGenId} {key : Fd}
    (hst : s.ag.Stopped id picks key ag) :
    TableOk
      { s with
        ag
        calls := s.calls.map Call.disturbed
        subs := s.subs.filter fun p => p.2.ricId != id } := by
  obtain ⟨ev, hid, hl, hr⟩ := h.stopped_pair hst
  have hmirror : Mirror ag.indEvent.left ag.indEvent.right :=
    List.Perm.cons_inv ((hr.symm.trans h.mirror).trans (hl.map Prod.swap))
  have hids := h.ids.perm hr fun hab hba => hab (lawful_cmpIndEvent.symm hba)
  obtain ⟨hother, hids'⟩ := List.pairwise_cons.mp hids
  have hkeep : ∀ x ∈ ag.indEvent.left, (x.2.ricId != id) = true := by
    intro x hx
    have hne := hother (x.2, x.1) (hmirror.mem.mp hx)
    exact bne_iff_ne.mpr fun heq => hne (cmpIndEvent_eq_zero.mpr (hid.trans heq.symm))
  refine ⟨?_, hmirror, hids', fun p hp => h.keys p (List.mem_of_mem_filter hp)⟩
  have hfilter := (hl.symm.trans h.entries).filter fun p => p.2.ricId != id
  rw [List.filter_cons_of_neg (by simp [hid]), List.filter_eq_self.mpr hkeep] at hfilter
  exact hfilter

theorem TableOk.of_eq (h : TableOk s) (hind : s'.ag.indEvent = s.ag.indEvent)
    (hsubs : s'.subs = s.subs) : TableOk s' := by
  obtain ⟨entries, mirror, ids, keys⟩ := h
  refine ⟨?_, ?_, ?_, ?_⟩
  · rwa [hind, hsubs]
  · rwa [hind]
  · rwa [hind]
  · rwa [hsubs]

/-- **Every step with new ids keeps the table.** -/
theorem TableOk.step (h : TableOk s) (ht : TimersOk s) (hf : FreshId s e)
    (hs : s.step e = .next s') : TableOk s' := by
  cases table_cases hs with
  | registered sr ans fd key ev ag event registered id eq =>
    subst event
    exact eq ▸ h.registered registered fun p hp => id ▸ hf p hp
  | notFound id picks event absent eq =>
    have hkeep : ∀ p ∈ s.subs, (p.2.ricId != id) = true := fun p hp =>
      bne_iff_ne.mpr (absent _ (h.mem_right hp))
    exact h.of_eq (by rw [eq]) (by rw [eq]; exact List.filter_eq_self.mpr hkeep)
  | stopped id picks key ag event stopped eq => exact eq ▸ h.stopped stopped
  | expired fd value newTimer encodes ag event isOpen notInd pend handled eq =>
    exact h.of_eq (by rw [eq]; exact (ht.expired_eq isOpen pend handled).indEvent) (by rw [eq])
  | setUp picks ag event handled eq =>
    obtain ⟨-, fd, -, -, rfl⟩ := ht.setUp_eq handled
    exact h.of_eq (by rw [eq]) (by rw [eq])
  | shutDown fdTimer ag event handled eq =>
    obtain ⟨-, -, rfl⟩ := E2Agent.handleConnectionShutdown_eq_next handled
    exact h.of_eq (by rw [eq]) (by rw [eq])
  | quiet same => exact h.of_eq same.indEvent same.subs

/-- The table of a new agent is empty. -/
theorem TableOk.init (cfg : AgentConfig) : TableOk (.init cfg) :=
  ⟨.nil, .nil, .nil, fun _ h => absurd h List.not_mem_nil⟩

/-- The table is kept in every run with new ids. -/
theorem tableOk (h : (agentMachine cfg).ReachedBy FreshId s) : TableOk s :=
  h.invariant (.init cfg) fun _ _ _ hr hp hf hs => hp.step (timersOk hr.reachable) hf hs

/-- Subscriptions under one timer are one. -/
theorem TableOk.eq_of_key (h : TableOk s) (ht : TimersOk s) {q : Fd × IndEvent} (hp : p ∈ s.subs)
    (hq : q ∈ s.subs) (hne : p.1 ≠ 0) (hkey : q.1 = p.1) : q = p := by
  have hnodup : ((s.subs.filter fun p => p.1 ≠ 0).map Prod.fst).Nodup := by
    have := ((h.entries.map Prod.fst).filter (· ≠ 0)).nodup_iff.mp ht.periodic
    rwa [List.filter_map] at this
  have hmem : ∀ x ∈ s.subs, x.1 ≠ 0 → x ∈ s.subs.filter fun p => p.1 ≠ 0 := fun x hx hx0 =>
    List.mem_filter.mpr ⟨hx, by simpa using hx0⟩
  exact List.inj_on_of_nodup_map hnodup (hmem q hq (hkey ▸ hne)) (hmem p hp hne) hkey

/-- The table is exact, and so are the timers. -/
theorem TableOk.exact (h : TableOk s) (ht : TimersOk s) : TableExact s := by
  have hne : ∀ p ∈ s.subs, p.2.type = .periodic → p.1 ≠ 0 := by
    intro p hp htype hz
    rw [(h.keys p hp).mpr hz] at htype
    contradiction
  refine ⟨h, fun p hp htype => ?_, fun p hp q hq htype hkey => ?_⟩
  · have hmem : p.1 ∈ s.ag.indEvent.left.map Prod.fst :=
      List.mem_map_of_mem (h.entries.mem_iff.mpr hp)
    exact (ht.isOpen p.1 hmem (hne p hp htype)).1
  · exact h.eq_of_key ht hp hq (hne p hp htype) hkey

/-! ## Deleting a live subscription -/

/-- The search of the left tree for the subscription's key arrives at the
subscription's own entry. -/
def OwnEntry (s : AgentSys) (p : Fd × IndEvent) (picks : Picks) : Prop :=
  (OrdAssoc.extract cmpFd p.1 picks.2 s.ag.indEvent.left).map Prod.fst = some p

instance (s : AgentSys) (p : Fd × IndEvent) (picks : Picks) : Decidable (OwnEntry s p picks) :=
  inferInstanceAs (Decidable (_ = _))

/-- The state without the subscription `p`, whose timer is closed or whose
registration at the service model is freed; a search of the table that is
under way has lost its place. -/
def deleted (s : AgentSys) (p : Fd × IndEvent) (indEvent : Bimap Fd IndEvent) : AgentSys :=
  { s with
    ag :=
      { s.ag with
        indEvent
        timers := if p.1 = 0 then s.ag.timers else s.ag.timers.erase p.1
        freedAper :=
          if p.2.type = .aperiodic then (p.2.sm, p.2.ricId.ricReqId) :: s.ag.freedAper
          else s.ag.freedAper }
    calls := s.calls.map Call.disturbed
    subs := s.subs.filter fun q => q.2.ricId != p.2.ricId }

/-- The subscription's pair left both trees, and nothing else changed. -/
def Deleted (s : AgentSys) (p : Fd × IndEvent) (s' : AgentSys) : Prop :=
  ∃ m, RemovedPair s.ag.indEvent p.1 p.2 m ∧ s' = s.deleted p m

/-- The right tree finds a live subscription by its id. -/
theorem TableOk.extract_right (h : TableOk s) (hp : p ∈ s.subs) (pick : Nat) :
    ∃ r, OrdAssoc.extract cmpIndEvent ⟨p.2.ricId, 0, 0, .periodic⟩ pick s.ag.indEvent.right =
      some ((p.2, p.1), r) := by
  have hkey : cmpIndEvent ⟨p.2.ricId, 0, 0, .periodic⟩ p.2 = 0 := by simp
  obtain ⟨x, r, hx⟩ := OrdAssoc.extract_isSome pick (h.mem_right hp) hkey
  rw [OrdAssoc.extract_unique lawful_cmpIndEvent h.ids (h.mem_right hp) hkey hx] at hx
  exact ⟨r, hx⟩

/-- The left tree finds some entry under the key of a live subscription. -/
theorem TableOk.extract_left (h : TableOk s) (hp : p ∈ s.subs) (pick : Nat) :
    ∃ x l, OrdAssoc.extract cmpFd p.1 pick s.ag.indEvent.left = some (x, l) ∧ x ∈ s.subs ∧
      x.1 = p.1 := by
  obtain ⟨x, l, hx⟩ := OrdAssoc.extract_isSome (c := cmpFd) (k := p.1) pick
    (h.entries.mem_iff.mpr hp) (lawful_cmpFd.refl _)
  refine ⟨x, l, hx, ?_, (cmpFd_eq_zero.mp (OrdAssoc.extract_eq_some hx).1).symm⟩
  exact h.entries.mem_iff.mp ((OrdAssoc.extract_perm hx).mem_iff.mpr List.mem_cons_self)

/-- A live subscription is found by its id. -/
theorem TableOk.findIf_right (h : TableOk s) (hp : p ∈ s.subs) :
    OrdAssoc.findIf (eqIndEvent p.2.ricId) s.ag.indEvent.right = some (p.2, p.1) := by
  obtain ⟨x, hx⟩ := OrdAssoc.findIf_isSome (p := eqIndEvent p.2.ricId) (h.mem_right hp)
    (by simp [eqIndEvent])
  have hkey : eqIndEvent p.2.ricId x.1 = true := OrdAssoc.findIf_key hx
  have hid : x.1.ricId = p.2.ricId := (eqRicGenId_iff.mp hkey).symm
  have heq := h.eq_of_id hp (h.mem_subs (OrdAssoc.mem_of_findIf hx)) hid
  rw [hx, ← heq]

/-- The extraction of a live subscription, when the left tree finds its own
entry. -/
theorem TableOk.extract_own (h : TableOk s) (hp : p ∈ s.subs) (ho : OwnEntry s p picks) :
    ∃ m, extractRight cmpFd cmpIndEvent s.ag.indEvent ⟨p.2.ricId, 0, 0, .periodic⟩ picks =
      .next (p.1, m) ∧ RemovedPair s.ag.indEvent p.1 p.2 m := by
  obtain ⟨r, hr⟩ := h.extract_right hp picks.1
  obtain ⟨⟨x, l⟩, hl, rfl⟩ := Option.map_eq_some_iff.mp ho
  have hlen : r.length = l.length := by
    have h₁ := (OrdAssoc.extract_perm hr).length_eq
    have h₂ := (OrdAssoc.extract_perm hl).length_eq
    have h₃ := h.mirror.length_eq
    simp only [List.length_cons] at h₁ h₂
    omega
  refine ⟨⟨l, r⟩, ?_, (OrdAssoc.extract_eq_some hl).2, (OrdAssoc.extract_eq_some hr).2⟩
  simp [extractRight, extractFrom, hr, hl, hlen, Outcome.expect, Outcome.assert]

/-- **and deleted with its own timer.** -/
theorem TableOk.delete_own (h : TableOk s) (ht : TimersOk s) (hloop : s.loop = .waiting)
    (hp : p ∈ s.subs) (ho : OwnEntry s p picks) :
    ∃ s', s.step (.subscriptionDelete p.2.ricId picks) = .next s' ∧ Deleted s p s' := by
  obtain ⟨m, hm, hrem⟩ := h.extract_own hp ho
  have hopen : p.1 ≠ 0 → p.1 ∈ s.ag.timers := fun hne =>
    (ht.isOpen p.1 (List.mem_map_of_mem (h.entries.mem_iff.mpr hp)) hne).1
  have hcalls : s.callsDuring p.2.ricId = s.calls.map Call.disturbed :=
    if_pos (E2Agent.hasIndEvent_iff.mpr ⟨(p.2, p.1), h.mem_right hp, rfl⟩)
  refine ⟨s.deleted p m, ?_, m, hrem, rfl⟩
  simp only [AgentSys.step, hloop, E2Agent.handleSubscriptionDeleteRequest, E2Agent.stopIndEvent,
    h.findIf_right hp, hm, beq_self_eq_true, Outcome.await, if_true, Outcome.next_bind, hcalls]
  rw [E2Agent.rmIndTimer_eq (by exact hopen)]
  simp only [Outcome.next_bind, Outcome.pure_eq, deleted, hloop]

/-- Found another entry first, the deletion fails its assertion. -/
theorem TableOk.delete_other (h : TableOk s) (hloop : s.loop = .waiting) (hp : p ∈ s.subs)
    (ho : ¬ OwnEntry s p picks) : (s.step (.subscriptionDelete p.2.ricId picks)).Aborts := by
  obtain ⟨r, hr⟩ := h.extract_right hp picks.1
  obtain ⟨x, l, hl, hx, -⟩ := h.extract_left hp picks.2
  have hother : p.2.ricId ≠ x.2.ricId := by
    intro hid
    have heq := h.eq_of_id hp hx hid.symm
    exact ho (by rw [OwnEntry, hl, Option.map_some, heq])
  have hextract : (extractRight cmpFd cmpIndEvent s.ag.indEvent ⟨p.2.ricId, 0, 0, .periodic⟩
      picks).Aborts := by
    rw [extractRight_aborts]
    simp [extractFrom, hr, hl, Outcome.expect, Outcome.assert, hother]
  simp only [AgentSys.step, hloop, E2Agent.handleSubscriptionDeleteRequest, E2Agent.stopIndEvent,
    h.findIf_right hp, Outcome.bind_aborts]
  exact .inr ⟨⟨⟩, rfl, .inl (.inl (.inl hextract))⟩

/-- **The delete request of a live subscription.** -/
theorem TableOk.delete_iff (h : TableOk s) (ht : TimersOk s) (hloop : s.loop = .waiting)
    (hp : p ∈ s.subs) :
    (s.step (.subscriptionDelete p.2.ricId picks)).Meets (Deleted s p) ↔ OwnEntry s p picks := by
  constructor
  · intro hm
    by_contra ho
    exact hm.not_aborts (h.delete_other hloop hp ho)
  · intro ho
    obtain ⟨s', hs, hd⟩ := h.delete_own ht hloop hp ho
    exact (Outcome.Meets.of_next hs).mpr hd

/-- **Whatever the shape of the tree**, a subscription's own entry is found
when it is periodic or no other aperiodic one is live, and only then. -/
theorem TableExact.own_iff (h : TableExact s) (hp : p ∈ s.subs) :
    (∀ picks, OwnEntry s p picks) ↔
      p.2.type = .periodic ∨ ∀ q ∈ s.subs, q.2.type = .aperiodic → q = p := by
  constructor
  · intro hall
    by_cases htype : p.2.type = .periodic
    · exact .inl htype
    have haper : p.2.type = .aperiodic := by
      cases hty : p.2.type with
      | periodic => exact absurd hty htype
      | aperiodic => rfl
    refine .inr fun q hq hqtype => ?_
    -- the key of both is 0, so some shape of the tree has `q` first
    have hkey : cmpFd p.1 q.1 = 0 := by
      rw [cmpFd_eq_zero, (h.keys p hp).mp haper, (h.keys q hq).mp hqtype]
    obtain ⟨pick, l, hl⟩ := OrdAssoc.extract_picks (h.entries.mem_iff.mpr hq) hkey
    have ho := hall (0, pick)
    rw [OwnEntry, hl] at ho
    exact Option.some.inj ho
  · intro hone picks
    obtain ⟨x, l, hl, hx, hkey⟩ := h.extract_left hp picks.2
    have hxp : x = p := by
      obtain htype | hsole := hone
      · exact h.apart p hp x hx htype hkey
      · by_cases htype : p.2.type = .periodic
        · exact h.apart p hp x hx htype hkey
        · refine hsole x hx ((h.keys x hx).mpr ?_)
          rw [hkey]
          refine (h.keys p hp).mp ?_
          cases hty : p.2.type with
          | periodic => exact absurd hty htype
          | aperiodic => rfl
    rw [OwnEntry, hl, Option.map_some, hxp]

/-- **The subscription table of the agent.** In every run that reuses no
live id, the table holds exactly one entry for each live subscription in
either of its two trees, and the delete request of a live subscription
removes exactly that one if and only if the left tree finds its own entry
under its key. -/
theorem subscription_table (cfg : AgentConfig) (s : AgentSys)
    (h : (agentMachine cfg).ReachedBy FreshId s) :
    TableExact s ∧ ∀ p ∈ s.subs, s.loop = .waiting →
      (∀ picks, (s.step (.subscriptionDelete p.2.ricId picks)).Meets (Deleted s p) ↔
        OwnEntry s p picks) ∧
      ((∀ picks, OwnEntry s p picks) ↔
        p.2.type = .periodic ∨ ∀ q ∈ s.subs, q.2.type = .aperiodic → q = p) := by
  have hok := tableOk h
  have ht := timersOk h.reachable
  exact ⟨hok.exact ht, fun p hp hloop =>
    ⟨fun picks => hok.delete_iff ht hloop hp, (hok.exact ht).own_iff hp⟩⟩

/-- A subscription to the service model `sm` under the request id `ricReqId`. -/
def reportRequest (ricReqId : UInt32) (sm : UInt16) : RicSubscriptionRequest :=
  ⟨⟨ricReqId, 0, sm⟩, [⟨0, .report⟩]⟩

/-- Two aperiodic subscriptions to RC. -/
def twoAperiodic : List AgentEvent :=
  [.subscription (reportRequest 1 3) .aperiodic 0, .subscription (reportRequest 2 3) .aperiodic 0]

/-- With two aperiodic subscriptions live, deleting the second one ends the
process: the left tree has the first one at its root. -/
theorem second_aperiodic_not_deleted :
    ¬ ∀ cfg s, (agentMachine cfg).ReachedBy FreshId s → ∀ p ∈ s.subs, s.loop = .waiting →
      ∀ picks, (s.step (.subscriptionDelete p.2.ricId picks)).Meets (Deleted s p) := by
  intro hclaim
  obtain ⟨s, hr, hs⟩ := Machine.ReachedBy.exists_of_run (M := agentMachine .local) (C := FreshId)
    twoAperiodic
    (fun s => decide ((0, ⟨⟨2, 0, 3⟩, 3, 0, .aperiodic⟩) ∈ s.subs) && s.loop == .waiting &&
      (s.step (.subscriptionDelete ⟨2, 0, 3⟩ (0, 0))).aborted)
    (by decide)
  simp only [Bool.and_eq_true, decide_eq_true_eq, beq_iff_eq] at hs
  obtain ⟨⟨hmem, hloop⟩, habort⟩ := hs
  exact (hclaim _ s hr _ hmem hloop (0, 0)).not_aborts (Outcome.aborts_of_aborted habort)

/-- A periodic and an aperiodic subscription are live; each of them is
deleted, whatever the shape of the trees. -/
theorem subscription_table_two_types :
    ∃ s, s.subs.length = 2 ∧ TableExact s ∧ ∀ p ∈ s.subs, ∀ picks,
      (s.step (.subscriptionDelete p.2.ricId picks)).Meets (Deleted s p) := by
  obtain ⟨s, hr, hs⟩ := Machine.ReachedBy.exists_of_run (M := agentMachine .local) (C := FreshId)
    [.subscription (reportRequest 1 142) (.periodic 10) 9,
      .subscription (reportRequest 2 3) .aperiodic 0]
    (fun s => s.subs.length == 2 && s.loop == .waiting && decide (∀ p ∈ s.subs,
      p.2.type = .periodic ∨ ∀ q ∈ s.subs, q.2.type = .aperiodic → q = p))
    (by decide)
  simp only [Bool.and_eq_true, decide_eq_true_eq, beq_iff_eq] at hs
  obtain ⟨⟨hlen, hloop⟩, hone⟩ := hs
  obtain ⟨hexact, hdel⟩ := subscription_table .local s hr
  refine ⟨s, hlen, hexact, fun p hp picks => ?_⟩
  obtain ⟨hiff, hown⟩ := hdel p hp hloop
  exact (hiff picks).mpr (hown.mpr (hone p hp) picks)

end AgentSys

end FlexRic
