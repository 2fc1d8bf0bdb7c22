import FlexRic.IApp.Bijection
import FlexRic.Ric.RequestIds

/-!
# FlexRic.IApp.RequestIds

The request ids on the E2 interface with the iApp on top: its thread and the
RIC's local service send requests in any order.

The condition of `Ric.RequestIds` carries over to the RIC events that the
iApp's events come with (`ricEvent`); with a subscription never sent under
the id of a mapping, no key of `map_ric_id` is inserted twice either
(`request_ids_unique`).
-/

namespace FlexRic

namespace Sys

open RicSys (RicEvent)

variable {relock : Relock} {s s' : Sys} {e : Event}

/-- The event of the RIC by which an event may send something. -/
def ricEvent (s : Sys) : Event → Option RicEvent
  | .ric d => some d
  | .e42Subscribe m timer => some (.fwdSubscription m.id m.ricId (some ⟨m.ricId, m.xappId⟩) timer)
  | .fwdDelete timer =>
    match s.pc with
    | .deleting _ ((node, id) :: _) => some (.fwdSubscriptionDelete node id timer)
    | _ => none
  | .e42Control m timer => some (.fwdControl m.id m.ricId (some ⟨m.ricId, m.xappId⟩) timer)
  | _ => none

/-- A subscription is not sent under the request id of a mapping. -/
def FreshMapping (s : Sys) : Event → Prop
  | .e42Subscribe m _ => ∀ n ∈ s.iapp.map.left, n.1.ricId.ricReqId ≠ m.ricId.ricReqId
  | _ => True

instance (s : Sys) : (e : Event) → Decidable (FreshMapping s e)
  | .e42Subscribe .. => inferInstanceAs (Decidable (∀ n ∈ s.iapp.map.left, _))
  | .ric _ | .e42Setup .. | .iappRegister _ | .iappInsert | .e42Delete .. | .fwdDelete _
    | .e42Control .. | .iappAdd _ | .xappDisconnect _ | .notify _ | .remove ..
    | .indication .. => isTrue trivial

/-- Every request is sent under an id of its own. -/
def OwnIds (s : Sys) (e : Event) : Prop :=
  (∀ d ∈ s.ricEvent e, s.ricSys.UniqueCond d) ∧ FreshMapping s e

instance (s : Sys) (e : Event) : Decidable (OwnIds s e) :=
  inferInstanceAs (Decidable ((∀ d ∈ s.ricEvent e, _) ∧ _))

theorem Induces.uniqueCond {d : RicEvent} (h : Induces s e d) (hc : OwnIds s e) :
    s.ricSys.UniqueCond d := by
  have hsilent : s.ricSys.sentFor d = none → s.ricSys.newKey d = none → s.ricSys.UniqueCond d := by
    intro hfor hkey
    refine ⟨fun r hr => ?_, fun p _ => ?_⟩
    · rw [hfor] at hr
      cases hr
    · rw [hkey]
      exact Option.some_ne_none _
  cases h with
  | delete timer xappId node id todo at_ => exact hc.1 _ (by rw [ricEvent, at_]; rfl)
  | answered k => exact hsilent rfl rfl
  | forwarded k x => exact hsilent rfl rfl
  | removed k picks => exact hsilent rfl rfl
  | _ => exact hc.1 _ rfl

/-- The request being handled goes by an id that no mapping has. -/
def HandlingFresh (s : Sys) : Prop :=
  ∀ m newId req, s.pc.subscribing = some (m, newId, req) →
    ∀ n ∈ s.iapp.map.left, n.1.ricId.ricReqId ≠ m.ricId.ricReqId

theorem HandlingFresh.step (h : HandlingFresh s) (hok : Ok s) (hc : FreshMapping s e)
    (hs : step relock s e = .next s') : HandlingFresh s' := by
  intro m newId req hp
  cases step_cases hs with
  | subscribed m' timer newId' req' ricSys info idle address port forwarded =>
    dsimp only at hp
    split at hp
    · cases hp
    · cases hp
      exact hc
  | registered reallocOk m' newId' req' registry at_ added =>
    cases hp
    exact h m newId req (by rw [at_]; rfl)
  | removed k picks w x map ricSys worker found unlocked rm done =>
    exact fun n hn => h m newId req hp n ((MapRicId.rmMapRicId_sublist rm).1.subset hn)
  | indicated node ind sentTo parts iapp sent =>
    obtain ⟨rfl, rfl⟩ := hok.forwardAll_eq_next sent
    exact h m newId req hp
  | deleteForwarded | disconnected =>
    rw [Pc.subscribing_deletingOrIdle] at hp
    cases hp
  | notRegistered | inserted | deleteFound | controlForwarded | controlAdded => cases hp
  | ric | setup | ignored | answered | forwarded => exact h m newId req hp

/-- A request without an id in use has its mapping entered under a new key. -/
theorem HandlingFresh.freshInsert (h : HandlingFresh s) (hok : Ok s) : s.FreshInsert e = true := by
  cases e with
  | iappInsert =>
    simp only [FreshInsert]
    split
    · rename_i m newId req hpc
      have hp : s.pc.subscribing = some (m, newId, req) := by rw [hpc]; rfl
      rw [List.all_eq_true]
      intro n hn
      rw [bne_iff_ne, (hok.processing m newId req hp).newId]
      exact h m newId req hp n hn
    · rfl
  | _ => rfl

/-- **Request-id uniqueness.** In every run that sends each request under an
id of its own, the requests outstanding at a time have distinct request ids,
and no key of `pending` or of `map_ric_id` is there twice.  From every state
of the RIC with unique ids a step leads to unique ids exactly when it sends
nothing under the id of another outstanding request. -/
theorem request_ids_unique (relock : Relock) (s : Sys) :
    ((iappMachine relock).ReachedBy OwnIds s →
      s.ricSys.UniqueIds ∧ OrdAssoc.Distinct cmpPendingEventRic s.ricSys.ric.pending.right ∧
        OrdAssoc.Distinct cmpE2NodeRicReq s.iapp.map.left) ∧
    ∀ (t t' : RicSys) (d : RicEvent), t.UniqueIds → t.step d = .next t' →
      (t'.UniqueIds ↔ t.FreshId d) := by
  constructor
  · intro h
    have hric : ricMachine.ReachedBy RicSys.UniqueCond s.ricSys := by
      have hinit : ricMachine.ReachedBy RicSys.UniqueCond (iappMachine relock).init.ricSys := .init
      refine Machine.ReachedBy.simulation (f := Sys.ricSys) hinit (fun s e s' _ hc hs => ?_) h
      obtain heq | ⟨d, hind, hd⟩ := step_ric hs
      · exact .inl heq
      · exact .inr ⟨d, hind.uniqueCond hc, hd⟩
    have hmap : s.MapBijective ∧ HandlingFresh s := by
      refine h.invariant (P := fun s => s.MapBijective ∧ HandlingFresh s)
        ⟨Bimap.bijective_empty, fun _ _ _ hp => by cases hp⟩ ?_
      intro s e s' hr hp hc hs
      have hok := ok hr.reachable
      exact ⟨(bijective_step hok hp.1 hs).mpr (hp.2.freshInsert hok), hp.2.step hok hc.2 hs⟩
    obtain ⟨hids, hpending⟩ := RicSys.uniqueIds hric
    exact ⟨hids, hpending, hmap.1.left⟩
  · intro t t' d hu hs
    exact RicSys.uniqueIds_step hu hs

/-- A control request gets the id of a subscription that is alive, since the
subscription has set the counter to its own id. -/
theorem request_id_reused :
    ¬ ∀ s, (iappMachine .edeadlk).Reachable s → s.ricSys.UniqueIds := by
  intro hclaim
  obtain ⟨s, hr, hs⟩ := Machine.Reachable.exists_of_run (M := iappMachine .edeadlk)
    (setUp ++ subscribe ⟨7, .gnb 1, ⟨1, 0, 142⟩⟩ 5 ++ [answer 0, .notify 0,
      .e42Control ⟨7, .gnb 1, ⟨2, 0, 142⟩⟩ (some 6)])
    (fun s => s.ricSys.outstanding.any fun r => r.type == .subscription && r.id.ricReqId == 1 &&
      s.ricSys.outstanding.any fun q => q.type == .control && q.id.ricReqId == 1)
    (by decide)
  simp only [List.any_eq_true, Bool.and_eq_true, beq_iff_eq] at hs
  obtain ⟨r, hr', ⟨htr, hir⟩, q, hq, htq, hiq⟩ := hs
  have heq := hclaim s hr r hr' q hq (hir.trans hiq.symm)
  rw [heq, htq] at htr
  cases htr

/-- Two subscriptions and a control request with ids of their own. -/
theorem request_ids_unique_three :
    ∃ s : Sys, s.ricSys.outstanding.length = 3 ∧ s.ricSys.UniqueIds ∧
      OrdAssoc.Distinct cmpE2NodeRicReq s.iapp.map.left ∧
      ∀ t' d, s.ricSys.step d = .next t' → (t'.UniqueIds ↔ s.ricSys.FreshId d) := by
  obtain ⟨s, hr, hs⟩ := Machine.ReachedBy.exists_of_run (M := iappMachine .edeadlk) (C := OwnIds)
    (setUp ++ [.e42Control ⟨7, .gnb 1, ⟨1, 0, 142⟩⟩ (some 4), .iappAdd (0, 0)] ++
      subscribe ⟨7, .gnb 1, ⟨2, 0, 142⟩⟩ 5 ++ subscribe ⟨8, .gnb 2, ⟨3, 0, 142⟩⟩ 6)
    (fun s => s.ricSys.outstanding.length == 3) (by decide)
  obtain ⟨hu, -, hmap⟩ := (request_ids_unique .edeadlk s).1 hr
  exact ⟨s, beq_iff_eq.mp hs, hu, hmap, fun t' d =>
    (request_ids_unique .edeadlk s).2 s.ricSys t' d hu⟩

end Sys

end FlexRic
