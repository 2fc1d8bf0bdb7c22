import FlexRic.Rc.ActionTransfer
import FlexRic.Rc.EventTriggerTransfer

/-!
# FlexRic.Rc.Subscription

What a subscription carries to a node, and what the node makes of it.

* `RcSubscription.RoundTrips`: a value is not encoded, or the decoder hands it over again.
* `RcSubscription.Kept`: nothing is left out on the way, and nothing is refused at its end.
-/

namespace FlexRic

namespace Rc

open Outcome

/-- The runtime, for the two structures of a subscription. -/
structure SubscriptionRuntime (Buf : Type) where
  eventTrigger : Asn1c EventTriggerAsn Buf
  actionDef : Asn1c ActionDefinitionAsn Buf

/-- The runtime encodes what is within the constraints, and decodes it back. -/
structure SubscriptionRuntime.Exact {Buf : Type} (rt : SubscriptionRuntime Buf) : Prop where
  eventTrigger : rt.eventTrigger.Exact EventTriggerAsn.satisfies id
  actionDef : rt.actionDef.Exact ActionDefinitionAsn.satisfies id

/-- An event trigger, or an action definition. -/
inductive RcSubscription where
  | trigger (m : EventTrigger)
  | action (m : ActionDef)

/-! ## What is kept -/

theorem e2NodeInfoChng_sent (m : E2NodeInfoChng) : m.sent = m ↔ m.bare = true := by
  obtain ⟨cond, chng, cell, logOr⟩ := m
  rw [E2NodeInfoChng.sent, E2NodeInfoChng.mk.injEq]
  simp only [true_and, E2NodeInfoChng.bare, Bool.and_eq_true, Option.isNone_iff_eq_none]
  exact and_congr eq_comm eq_comm

namespace RcSubscription

/-- What the encoder and the constraints want. -/
def Sendable : RcSubscription → Prop
  | trigger m => m.Sendable
  | action m => m.format.Sendable

/-- The encoding fits 512 KiB. -/
def Fits {Buf : Type} (rt : SubscriptionRuntime Buf) : RcSubscription → Prop
  | trigger m => FitsInto (512 * 1024) rt.eventTrigger (eventTriggerPdu m)
  | action m => FitsInto (512 * 1024) rt.actionDef (actionDefPdu m)

/-- No change of the node has cells or a disjunction, and no policy action 65535 parameters. -/
def Kept : RcSubscription → Prop
  | trigger (.frmt3 f) => ∀ c ∈ f.e2NodeInfoChng, c.bare = true
  | trigger _ => True
  | action m => m.format.Decodable

/-- The encoder rejects it, or the decoder returns it. -/
def RoundTrips {Buf : Type} (rt : SubscriptionRuntime Buf) : RcSubscription → Prop
  | trigger m => ∀ b, rcEncEventTriggerAsn rt.eventTrigger m = next b →
      rcDecEventTriggerAsn rt.eventTrigger b = next m
  | action m => ∀ b, rcEncActionDefAsn rt.actionDef m = next b →
      rcDecActionDefAsn rt.actionDef b = next m

end RcSubscription

theorem eventTrigger_sent (m : EventTrigger) : m.sent = m ↔ (RcSubscription.trigger m).Kept := by
  cases m with
  | frmt3 f =>
    obtain ⟨cs⟩ := f
    have hmap : cs.map E2NodeInfoChng.sent = cs ↔ ∀ c ∈ cs, c.sent = c := by
      simpa using List.map_eq_map_iff (f := E2NodeInfoChng.sent) (g := id) (l := cs)
    rw [EventTrigger.sent, EvTrgFrmt3.sent, EventTrigger.frmt3.injEq, EvTrgFrmt3.mk.injEq, hmap]
    exact forall₂_congr fun c _ => e2NodeInfoChng_sent c
  | _ => exact iff_of_true rfl trivial

/-- **A subscription is rejected or comes back** exactly when all of it is kept, if it is sent. -/
theorem rcSubscription_roundTrip {Buf : Type} (rt : SubscriptionRuntime Buf) (hrt : rt.Exact)
    (m : RcSubscription) : m.RoundTrips rt ↔ (m.Sendable → m.Fits rt → m.Kept) := by
  cases m with
  | trigger m =>
    rw [← eventTrigger_sent]
    refine (comesBack_iff hrt.eventTrigger (conveys_eventTrigger m) m).trans ?_
    rw [true_and]
    rfl
  | action m =>
    refine (comesBack_iff hrt.actionDef (conveys_actionDef m) m).trans ?_
    rw [eq_self, and_true]
    rfl

/-! ### Worked subscriptions -/

/-- A runtime whose encodings are the structures. -/
def plainSubscriptions : SubscriptionRuntime (EventTriggerAsn ⊕ ActionDefinitionAsn) where
  eventTrigger := plainRuntime EventTriggerAsn.satisfies .inl Sum.getLeft?
  actionDef := plainRuntime ActionDefinitionAsn.satisfies .inr Sum.getRight?

theorem plainSubscriptions_exact : plainSubscriptions.Exact where
  eventTrigger := plainRuntime_exact fun _ => rfl
  actionDef := plainRuntime_exact fun _ => rfl

/-- A change of the node, and maybe a disjunction with the next one. -/
def changedNode (logOr : Option LogicalOr) : EventTrigger := .frmt3 ⟨[⟨1, 1, none, logOr⟩]⟩

theorem rcSubscription_roundTrip_changed :
    (RcSubscription.trigger (changedNode none)).RoundTrips plainSubscriptions := by
  refine (rcSubscription_roundTrip plainSubscriptions plainSubscriptions_exact
    (.trigger (changedNode none))).mpr fun _ _ c hc => ?_
  obtain rfl := List.mem_singleton.mp hc
  rfl

/-- The disjunction of a change is lost. -/
theorem rcSubscription_not_roundTrip :
    ¬ ∀ (Buf : Type) (rt : SubscriptionRuntime Buf), rt.Exact →
      ∀ m : RcSubscription, m.RoundTrips rt := by
  intro h
  have hback := h _ plainSubscriptions plainSubscriptions_exact
    (.trigger (changedNode (some .trueLogicalOr))) _ rfl
  have hlost : next (changedNode none) = next (changedNode (some .trueLogicalOr)) := hback
  cases hlost

end Rc

end FlexRic
