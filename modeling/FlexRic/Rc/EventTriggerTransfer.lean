import FlexRic.Rc.EventTriggerCodec
import FlexRic.Rc.EventTriggerCopies
import FlexRic.Rc.ParamTransfer

/-!
# FlexRic.Rc.EventTriggerTransfer

Which event triggers are encoded within their constraints, and what arrives of them.

* `Sendable`: what the encoder and the constraints want, format by format.
* `EventTrigger.sent`: what arrives.  It is the trigger, but for the changes of format 3, which lose
  their cells and disjunctions.
-/

namespace FlexRic

namespace Rc

open Outcome Codec

/-! ## Enumerations -/

/-- Every RRC type is conveyed. -/
theorem conveys_rrcType (t : RrcType) :
    Conveys (next (encRrcType t)) RrcTypeAsn.satisfies decRrcType t True True := by
  refine conveys_next ?_ ?_
  · obtain c | c := t <;> cases c <;> rfl
  · obtain c | c := t <;> cases c <;> rfl

/-- Every interface type is conveyed. -/
theorem conveys_interfaceType (t : NetworkInterfaceType) :
    Conveys (next t.code) (isEnumerated 7)
      (decEnum [.ng, .xn, .f1, .e1, .s1, .x2, .w1] NetworkInterfaceType.code) t True True := by
  refine conveys_next ?_ ?_
  · cases t <;> rfl
  · cases t <;> rfl

/-- Every RRC state is conveyed. -/
theorem conveys_rrcStateType (t : RrcStateE2smRc) :
    Conveys (next t.code) (isEnumerated 4)
      (decEnum [.connected, .inactive, .idle, .any] RrcStateE2smRc.code) t True True := by
  refine conveys_next ?_ ?_
  · cases t <;> rfl
  · cases t <;> rfl

/-! ## Messages and call processes -/

/-- An interface's message is conveyed if nothing else is given. -/
theorem conveys_msgTypeNi (m : NetworkInterfaceE2rc) :
    Conveys (cpMsgTypeNi m) (isEnumerated 7 ·.niType) decMsgTypeNi m (m.bare = true) True := by
  refine Conveys.always (conveys_three (conveys_interfaceType m.niType) (conveys_absent m.niId)
    (conveys_absent m.niMsgId) (by rfl) (fun _ _ _ => by rw [Bool.and_self, Bool.and_true])
    (fun _ _ _ => rfl) rfl) ?_ ⟨trivial, trivial, trivial⟩
  rw [true_and, NetworkInterfaceE2rc.bare, Bool.and_eq_true, Option.isNone_iff_eq_none,
    Option.isNone_iff_eq_none]

/-- An RRC message always is. -/
theorem conveys_msgTypeRrc (m : RrcMsgId) :
    Conveys (next (cpMsgTypeRrc m)) (·.rrcType.satisfies) decMsgTypeRrc m True True := by
  have hdec (y : RrcTypeAsn) : decMsgTypeRrc ⟨y, m.rrcMsgId.toInt64⟩ =
      decRrcType y >>= fun z => next ⟨z, m.rrcMsgId⟩ := by
    rw [decMsgTypeRrc, UInt64.toUInt64_toInt64]
    rfl
  exact conveys_one (conveys_rrcType m.type) (by rfl) (fun _ => rfl) hdec rfl

theorem conveys_msgType (m : MsgTypeEvTrg) :
    Conveys (encMsgType m) MessageTypeChoiceAsn.satisfies decMsgType m m.Bare True := by
  cases m with
  | networkInterface net =>
    exact conveys_one (conveys_msgTypeNi net) rfl (fun _ => rfl) (fun _ => rfl) rfl
  | rrcMsg msg =>
    exact conveys_one (conveys_msgTypeRrc msg) (by rfl) (fun _ => rfl) (fun _ => rfl) rfl

/-- **A message arrives as it is**, where the copy would take it. -/
theorem conveys_msgEvTrg (m : MsgEvTrg) :
    Conveys (cpRcEvTriggerFormat1It m) (·.messageType.satisfies) decRcEvTriggerFormat1It m
      m.Copyable True := by
  refine Conveys.always (conveys_five (conveys_id m.evTriggerCondId) (conveys_msgType m.msgType)
    (conveys_absent m.msgDir) (conveys_absent m.assocUeInfo) (conveys_absent m.logOr) rfl
    (fun _ _ _ _ _ => by simp) (fun _ _ _ _ _ => rfl) rfl) ?_
    ⟨trivial, trivial, trivial, trivial, trivial⟩
  simp only [MsgEvTrg.Copyable, MsgEvTrg.Comparable, MsgEvTrg.bare, Bool.and_eq_true,
    Option.isNone_iff_eq_none, and_assoc]

/-- **Format 1 is conveyed where it is copied.** -/
theorem conveys_evTrgFrmt1 (f : EvTrgFrmt1) :
    Conveys (cpRcEvTriggerFormat1 f) EvTrgFormat1Asn.satisfies decRcEvTriggerFormat1 f f.Copyable
      True := by
  refine Conveys.always (conveys_two (conveys_sized_sized fun m _ => conveys_msgEvTrg m)
    (conveys_absent f.globalAssocUeInfo) rfl (fun _ _ => (Bool.and_true _).symm) (fun _ _ => rfl)
    rfl) ?_ ⟨fun _ _ => trivial, trivial⟩
  rw [EvTrgFrmt1.Copyable, and_assoc]

/-- **Format 2 is conveyed where it is copied.** -/
theorem conveys_evTrgFrmt2 (f : EvTrgFrmt2) :
    Conveys (cpRcEvTriggerFormat2 f) (fun _ => true) decRcEvTriggerFormat2 f f.Copyable True := by
  refine Conveys.always (conveys_four (conveys_id f.callProcTypeId) (conveys_id f.callBreakId)
    (conveys_absent f.assocE2NodeInfo) (conveys_absent f.assocUeInfo) rfl
    (fun _ _ _ _ => rfl) (fun _ _ _ _ => rfl) rfl) ?_ ⟨trivial, trivial, trivial, trivial⟩
  rw [EvTrgFrmt2.Copyable, EvTrgFrmt2.bare, Bool.and_eq_true, Option.isNone_iff_eq_none,
    Option.isNone_iff_eq_none]

/-! ## Changes of the node -/

/-- What arrives of a change. -/
def E2NodeInfoChng.sent (m : E2NodeInfoChng) : E2NodeInfoChng :=
  ⟨m.evTriggerCondId, m.e2NodeInfoChngId, none, none⟩

/-- An id of a change goes through where it is 1 to 512. -/
theorem conveys_changeId (id : UInt16) :
    Conveys (encChangeId id) (fun _ => true) decChangeId id (0 < id ∧ id < 513) True := by
  refine (conveys_asserted (fun _ => rfl) fun h => ?_).iff decide_eq_true_iff Iff.rfl
  obtain ⟨hpos, hlt⟩ := of_decide_eq_true h
  have hlt' : (id.toNat : Int) < 513 := by
    rw [UInt16.lt_iff_toNat_lt] at hlt
    exact_mod_cast hlt
  rw [decChangeId, assert_of (decide_eq_true ⟨pos_toNat16.mpr hpos, hlt'⟩), longToU16_back]
  rfl

/-- **A change arrives without its optional fields.** -/
theorem conveys_e2NodeInfoChng (m : E2NodeInfoChng) :
    Conveys (cpRcEvTriggerFormat3It m) (fun _ => true) decE2NodeInfoChng m.sent (m.inRange = true)
      True := by
  refine Conveys.always (conveys_four (conveys_id m.evTriggerCondId)
    (conveys_changeId m.e2NodeInfoChngId) (conveys_absent none) (conveys_absent none) rfl
    (fun _ _ _ _ => rfl) (fun _ _ _ _ => rfl) rfl) ?_ ⟨trivial, trivial, trivial, trivial⟩
  simp [E2NodeInfoChng.inRange]

/-- Changes that 16 bits can count, with ids in their ranges. -/
def EvTrgFrmt3.Sendable (f : EvTrgFrmt3) : Prop :=
  sized 65536 f.e2NodeInfoChng = true ∧ ∀ c ∈ f.e2NodeInfoChng, c.inRange = true

def EvTrgFrmt3.sent (f : EvTrgFrmt3) : EvTrgFrmt3 := ⟨f.e2NodeInfoChng.map E2NodeInfoChng.sent⟩

/-- **Format 3** arrives as what of it is sent. -/
theorem conveys_evTrgFrmt3 (f : EvTrgFrmt3) :
    Conveys (cpRcEvTriggerFormat3 f) (isSequence 65535 fun _ => true) decRcEvTriggerFormat3 f.sent
      f.Sendable True := by
  have hwalk := conveys_walk_map fun c (_ : c ∈ f.e2NodeInfoChng) => conveys_e2NodeInfoChng c
  exact Conveys.always (conveys_one (conveys_sequence_sized hwalk fun _ => walk_length)
    (bind_next _).symm (fun _ => rfl) (fun _ => rfl) rfl) Iff.rfl fun _ _ => trivial

/-! ## Changes of UEs -/

/-- An RRC state without a logical or. -/
theorem conveys_rrcState (s : RrcState) :
    Conveys (encRrcState s) RrcStateItemAsn.satisfies decRrcState s (s.logOr = none) True := by
  refine Conveys.always (conveys_two (conveys_rrcStateType s.stateChngdTo) (conveys_absent s.logOr)
    (by rfl) (fun _ _ => (Bool.and_true _).symm) (fun _ _ => rfl) rfl) (and_iff_right trivial)
    ⟨trivial, trivial⟩

namespace UeInfoChngTrigger

/-- Up to 8 states without disjunctions, any id, up to 255 tests. -/
def Sendable : UeInfoChngTrigger → Prop
  | rrcState s => sized 9 s = true ∧ ∀ r ∈ s, r.logOr = none
  | ueIdChng _ => True
  | l2State ts => sized 256 ts = true ∧ ∀ t ∈ ts, t.Sendable

end UeInfoChngTrigger

/-- **A trigger is conveyed** by its type. -/
theorem conveys_triggerType (t : UeInfoChngTrigger) :
    Conveys (encTriggerType t) TriggerTypeAsn.satisfies decTriggerType t t.Sendable True := by
  cases t with
  | rrcState s =>
    exact Conveys.always (conveys_one (conveys_sized_sized fun r _ => conveys_rrcState r) rfl
      (fun _ => rfl) (fun _ => rfl) rfl) Iff.rfl fun _ _ => trivial
  | ueIdChng id =>
    refine conveys_next rfl ?_
    rw [decTriggerType, longToU16_back]
    rfl
  | l2State ts =>
    exact Conveys.always (conveys_one (conveys_sized_sized fun t _ => conveys_ranParamTest t) rfl
      (fun _ => rfl) (fun _ => rfl) rfl) Iff.rfl fun _ _ => trivial

def UeInfoChng.Sendable (m : UeInfoChng) : Prop :=
  0 < m.evTrigCondId ∧ m.trigger.Sendable ∧ m.bare = true

/-- A change of a UE. -/
theorem conveys_ueInfoChng (m : UeInfoChng) :
    Conveys (cpRcEvTriggerFormat4It m) (·.triggerType.satisfies) decUeInfoChng m m.Sendable
      True := by
  refine Conveys.always (conveys_four (conveys_id m.evTrigCondId) (conveys_triggerType m.trigger)
    (conveys_absent m.assocUeInfo) (conveys_absent m.logOr) rfl (fun _ _ _ _ => by simp)
    (fun _ _ _ _ => rfl) rfl) ?_ ⟨trivial, trivial, trivial, trivial⟩
  rw [UeInfoChng.Sendable, UeInfoChng.bare, Bool.and_eq_true, Option.isNone_iff_eq_none,
    Option.isNone_iff_eq_none]

def EvTrgFrmt4.Sendable (f : EvTrgFrmt4) : Prop :=
  sized 65536 f.ueInfoChng = true ∧ ∀ c ∈ f.ueInfoChng, c.Sendable

/-- **Format 4**: 1 to 65535 changes. -/
theorem conveys_evTrgFrmt4 (f : EvTrgFrmt4) :
    Conveys (cpRcEvTriggerFormat4 f) (isSequence 65535 (·.triggerType.satisfies))
      decRcEvTriggerFormat4 f f.Sendable True :=
  Conveys.always (conveys_one (conveys_sized_sized fun c _ => conveys_ueInfoChng c)
    (bind_next _).symm (fun _ => rfl) (fun _ => rfl) rfl) Iff.rfl fun _ _ => trivial

/-- **Format 5** has one value on the wire. -/
theorem conveys_evTrgFrmt5 (f : EvTrgFrmt5) :
    Conveys (cpRcEvTriggerFormat5 f) (isEnumerated 1 ·.onDemand) decRcEvTriggerFormat5 f
      (f.bare = true) True := by
  refine Conveys.always (conveys_two (conveys_absent f.assocUeInfo) (conveys_absent f.assocCellInfo)
    rfl (fun _ _ => rfl) (fun _ _ => rfl) rfl) ?_ ⟨trivial, trivial⟩
  rw [EvTrgFrmt5.bare, Bool.and_eq_true, Option.isNone_iff_eq_none, Option.isNone_iff_eq_none]

/-! ## Event triggers -/

namespace EventTrigger

/-- What the encoder and the constraints want. -/
def Sendable : EventTrigger → Prop
  | frmt1 f => f.Copyable
  | frmt2 f => f.Copyable
  | frmt3 f => f.Sendable
  | frmt4 f => f.Sendable
  | frmt5 f => f.bare = true

/-- What arrives. -/
def sent : EventTrigger → EventTrigger
  | frmt3 f => frmt3 f.sent
  | m => m

end EventTrigger

/-- **What arrives of an event trigger.** -/
theorem conveys_eventTrigger (m : EventTrigger) :
    Conveys (eventTriggerPdu m) EventTriggerAsn.satisfies eventTriggerOfPdu m.sent m.Sendable
      True := by
  cases m with
  | frmt1 f => exact conveys_one (conveys_evTrgFrmt1 f) rfl (fun _ => rfl) (fun _ => rfl) rfl
  | frmt2 f => exact conveys_one (conveys_evTrgFrmt2 f) rfl (fun _ => rfl) (fun _ => rfl) rfl
  | frmt3 f => exact conveys_one (conveys_evTrgFrmt3 f) rfl (fun _ => rfl) (fun _ => rfl) rfl
  | frmt4 f => exact conveys_one (conveys_evTrgFrmt4 f) rfl (fun _ => rfl) (fun _ => rfl) rfl
  | frmt5 f => exact conveys_one (conveys_evTrgFrmt5 f) rfl (fun _ => rfl) (fun _ => rfl) rfl

end Rc

end FlexRic
