import FlexRic.Codec.SetupDec

/-!
# FlexRic.Codec.SetupItems

What the decoder makes of the parts of the setup messages the encoder built:
each RAN function, node component and id, on its own.

An element that satisfies its constraints comes back as it was, but for these:
a node component comes back under its interface type, and a global node id
comes back exactly when it `Survives`, as `GlobalE2NodeId.canon`.
-/

namespace FlexRic

open Outcome

/-! ## Octets and numbers -/

theorem copyBaToOstring_eq_next {ba b : Bytes} :
    copyBaToOstring ba = next b ↔ 0 < ba.length ∧ ba = b := by
  simp [copyBaToOstring]

theorem copyOstringToBa_of_pos {b : Bytes} (h : 0 < b.length) : copyOstringToBa b = next b := by
  simp [copyOstringToBa, assert, h]

@[simp] theorem asnInteger_back (v : UInt64) : asnInteger2Ulong (asnUint642Integer v) = v := by
  rw [asnInteger2Ulong, asnUint642Integer, if_pos v.toNat_lt]
  exact UInt64.ofNat_toNat

@[simp] theorem longToU16_back (v : UInt16) : longToU16 v.toNat = v := by
  have := v.toNat_lt
  rw [longToU16, toUInt16_eq_iff (by omega)]
  omega

@[simp] theorem longToU8_back (v : UInt8) : longToU8 v.toNat = v := by
  have := v.toNat_lt
  rw [longToU8, toUInt8_eq_iff (by omega)]
  omega

theorem decTransId_back (v : UInt8) : decTransId v.toNat = next v := by
  have := v.toNat_lt
  simp [decTransId, assert, show (v.toNat : Int) < 256 by omega]

theorem Ie.read_mk {V : Type} (id : ProtocolIeId) (c : Criticality) (v : V) :
    (Ie.mk id c (some v)).read id c = next v := by
  simp [Ie.read, assert, expect]

/-! ## Causes -/

/-- A cause within the first limits is within limits that are not lower. -/
theorem Cause.copy_of_le {l m : CauseLimits} {c c' : Cause} (h : c.copy l = next c')
    (hric : l.ricRequest ≤ m.ricRequest) (hservice : l.ricService ≤ m.ricService)
    (hnode : l.e2Node ≤ m.e2Node) (htransport : l.transport ≤ m.transport)
    (hprotocol : l.protocol ≤ m.protocol) (hmisc : l.misc ≤ m.misc) :
    c'.copy m = next c := by
  obtain rfl := Cause.copy_eq h
  cases c' <;> simp [Cause.copy] at h ⊢ <;> omega

theorem copyFailureCause_back {c c' : Option Cause}
    (h : copyFailureCause encCauseLimits c = next c') :
    copyFailureCause decCauseLimits c' = next c := by
  cases c with
  | none =>
    cases next_inj.mp h
    rfl
  | some c =>
    simp only [copyFailureCause, bind_eq_next, pure_eq, next_inj] at h
    obtain ⟨c₁, hc, rfl⟩ := h
    have hback := Cause.copy_of_le (m := decCauseLimits) hc (by decide) (by decide) (by decide)
      (by decide) (by decide) (by decide)
    simp [copyFailureCause, hback]

/-! ## Node components -/

theorem decInterfaceType_back (t : NodeCompInterfaceType) : decInterfaceType t.code = next t := by
  simp [decInterfaceType, assert, expect, t.code_le]

/-- The id of a node component, taken apart by the interface type it was
encoded under. -/
theorem e2apEncNodeComponentId_cases {t : NodeCompInterfaceType} {id : NodeCompId}
    {cid : E2NodeComponentId} (h : e2apEncNodeComponentId t id = next cid) :
    (∃ name, id.name? = some name ∧ 0 < name.length ∧
      (t = .ng ∧ cid = .ng name ∨ t = .s1 ∧ cid = .s1 name)) ∨
    (∃ v, id.id? = some v ∧
      (t = .e1 ∧ cid = .e1 v.toNat ∨ t = .f1 ∧ cid = .f1 v.toNat ∨ t = .w1 ∧ cid = .w1 v.toNat)) := by
  cases t <;> simp only [e2apEncNodeComponentId, bind_eq_next, expect_eq_next, pure_eq, next_inj,
    copyBaToOstring_eq_next, reduceCtorEq] at h
  case ng =>
    obtain ⟨name, hname, amfName, ⟨hpos, rfl⟩, rfl⟩ := h
    exact .inl ⟨name, hname, hpos, .inl ⟨rfl, rfl⟩⟩
  case s1 =>
    obtain ⟨name, hname, mmeName, ⟨hpos, rfl⟩, rfl⟩ := h
    exact .inl ⟨name, hname, hpos, .inr ⟨rfl, rfl⟩⟩
  case e1 =>
    obtain ⟨v, hv, rfl⟩ := h
    exact .inr ⟨v, hv, .inl ⟨rfl, rfl⟩⟩
  case f1 =>
    obtain ⟨v, hv, rfl⟩ := h
    exact .inr ⟨v, hv, .inr (.inl ⟨rfl, rfl⟩)⟩
  case w1 =>
    obtain ⟨v, hv, rfl⟩ := h
    exact .inr ⟨v, hv, .inr (.inr ⟨rfl, rfl⟩)⟩

/-- The id of a node component comes back under the interface type of the
component. -/
theorem nodeComponentId_back {t : NodeCompInterfaceType} {id : NodeCompId}
    {cid : E2NodeComponentId} (h : e2apEncNodeComponentId t id = next cid) :
    e2apDecNodeComponentId t cid = next id ↔ id.type = t := by
  rcases e2apEncNodeComponentId_cases h with ⟨name, hname, hpos, hcid⟩ | ⟨v, hv, hcid⟩
  · have hdec := copyOstringToBa_of_pos hpos
    rcases hcid with ⟨rfl, rfl⟩ | ⟨rfl, rfl⟩ <;>
      cases id <;> simp_all [e2apDecNodeComponentId, NodeCompId.name?, NodeCompId.type]
  · have hdec := asnInteger_back v
    rw [asnUint642Integer] at hdec
    rcases hcid with ⟨rfl, rfl⟩ | ⟨rfl, rfl⟩ | ⟨rfl, rfl⟩ <;>
      cases id <;> simp_all [e2apDecNodeComponentId, NodeCompId.id?, NodeCompId.type]

/-- **A node component comes back** exactly when its id is of its interface
type. -/
theorem configAddition_back {src : NodeComponentConfigAdd} {ie : Ie ConfigAdditionItem}
    (h : e2apEncNodeComponentConfAddition src = next ie) :
    e2apDecNodeComponentConfAddition ie = next src ↔ src.id.type = src.interfaceType := by
  obtain ⟨t, id, request, response⟩ := src
  simp only [e2apEncNodeComponentConfAddition, bind_eq_next, copyBaToOstring_eq_next, pure_eq,
    next_inj] at h
  obtain ⟨cid, hcid, _, ⟨hrequest, rfl⟩, _, ⟨hresponse, rfl⟩, rfl⟩ := h
  rw [← nodeComponentId_back hcid]
  simp [e2apDecNodeComponentConfAddition, Ie.read_mk, decInterfaceType_back,
    copyOstringToBa_of_pos hrequest, copyOstringToBa_of_pos hresponse]

/-- **The acknowledgement of a node component comes back** exactly when its id
is of its interface type. -/
theorem configAdditionAck_back {src : NodeCompConfigAddAck} {ie : Ie ConfigAdditionAckItem}
    (h : e2apEncNodeComponentConfAdditionAck src = next ie) :
    e2apDecNodeComponentConfAdditionAck ie = next src ↔ src.id.type = src.interfaceType := by
  obtain ⟨t, id, outcome, cause⟩ := src
  simp only [e2apEncNodeComponentConfAdditionAck, bind_eq_next, pure_eq, next_inj] at h
  obtain ⟨cid, hcid, c, hc, rfl⟩ := h
  rw [← nodeComponentId_back hcid]
  simp [e2apDecNodeComponentConfAdditionAck, Ie.read_mk, decInterfaceType_back,
    copyFailureCause_back hc, outcome.code_le]

/-! ## RAN functions -/

theorem isRanFunctionId_iff {v : Int} : isRanFunctionId v = true ↔ 0 ≤ v ∧ v ≤ 4095 := by
  simp [isRanFunctionId]

/-- **A RAN function comes back.** -/
theorem ranFunctionItem_back {src : RanFunction} {ie : Ie RanFunctionItem}
    (h : encRanFunctionItem src = next ie) (hsat : ie.satisfies RanFunctionItem.satisfies = true) :
    decRanFunctionItem ie = next src := by
  obtain ⟨defn, id, rev, oid⟩ := src
  simp only [encRanFunctionItem, bind_eq_next, copyBaToOstring_eq_next, pure_eq, next_inj] at h
  obtain ⟨_, ⟨hdefn, rfl⟩, _, ⟨hoid, rfl⟩, rfl⟩ := h
  simp only [Ie.satisfies, Option.any_some, RanFunctionItem.satisfies, Bool.and_eq_true,
    isRanFunctionId_iff, decide_eq_true_eq] at hsat
  obtain ⟨hid, hrev⟩ := hsat
  have hid' : (id.toNat : Int) ≤ maxRanFuncId := by
    unfold maxRanFuncId
    omega
  have hrev' : -1 < (rev.toNat : Int) ∧ (rev.toNat : Int) ≤ maxRanFuncRev := by
    unfold maxRanFuncRev
    omega
  simp [decRanFunctionItem, expect, assert, hid', hrev', copyOstringToBa_of_pos hdefn,
    copyOstringToBa_of_pos hoid]

/-- **An accepted RAN function comes back.** -/
theorem acceptedItem_back {id : UInt16} {ie : Ie Int} (h : encAcceptedItem id = next ie)
    (hsat : ie.satisfies isRanFunctionId = true) : decAcceptedItem ie = next id := by
  obtain rfl := next_inj.mp h
  simp only [Ie.satisfies, Option.any_some, isRanFunctionId_iff] at hsat
  have hid : (id.toNat : Int) < maxRanFuncId := by
    unfold maxRanFuncId
    omega
  rw [decAcceptedItem, Ie.read_mk, next_bind, assert_of (decide_eq_true hid), next_bind,
    longToU16_back, pure_eq]

/-- A rejected RAN function, as it was built, comes back. -/
theorem rejectedItem_back {src : RejectedRanFunction} {ie : Ie RanFunctionIdCauseItem}
    (h : encRejectedItem src = next ie)
    (hsat : ie.satisfies RanFunctionIdCauseItem.satisfies = true) :
    decRejectedItem ie = next src := by
  obtain ⟨id, cause⟩ := src
  simp only [encRejectedItem, bind_eq_next, pure_eq, next_inj] at h
  obtain ⟨c, hc, rfl⟩ := h
  simp only [Ie.satisfies, Option.any_some, RanFunctionIdCauseItem.satisfies, Bool.and_eq_true,
    isRanFunctionId_iff] at hsat
  have hid : (id.toNat : Int) < maxRanFuncId := by
    unfold maxRanFuncId
    omega
  have hcause := Cause.copy_of_le (m := decRejectedCauseLimits) hc (by decide) (by decide)
    (by decide) (by decide) (by decide) (by decide)
  rw [decRejectedItem, Ie.read_mk, next_bind, assert_of (decide_eq_true hid), next_bind, hcause,
    next_bind, longToU16_back, pure_eq]

/-- **A rejected RAN function that was decoded has nothing to read**: its id is
not the one of its table. -/
theorem rejectedItem_lost {src : RejectedRanFunction} {ie : Ie RanFunctionIdCauseItem}
    (h : encRejectedItem src = next ie) (r : RejectedRanFunction) :
    decRejectedItem (ie.opened .ranFunctionIeCauseItem) ≠ next r := by
  simp only [encRejectedItem, bind_eq_next, pure_eq, next_inj] at h
  obtain ⟨c, -, rfl⟩ := h
  simp [decRejectedItem, Ie.opened, Ie.read, expect]

/-! ## Node ids -/

/-- The type a node has on the wire: a CU and a CU-CP are gNBs. -/
def NgranNode.canon : NgranNode → NgranNode
  | gNBCU | gNBCUCP => gNB
  | t => t

theorem NgranNode.canon_needs (t : NgranNode) :
    (t.canon.isCuup || t.canon.isDu) = (t.isCuup || t.isDu) := by
  cases t <;> rfl

/-- The id of a node as it is on the wire, with the `cu_du_id` that
`eq_global_e2_node_id` looks at. -/
def GlobalE2NodeId.canon (id : GlobalE2NodeId) : GlobalE2NodeId where
  type := id.type.canon
  plmn := id.plmn
  nbId := id.nbId
  cuDuId := if id.type.isCuup || id.type.isDu then id.cuDuId else none
  hasCuDuId := fun h => by
    rw [NgranNode.canon_needs] at h
    rw [if_pos h]
    exact id.hasCuDuId h

/-- The id fits the wire: its PLMN, and of an eNB the id of twenty bits. -/
def GlobalE2NodeId.Survives (id : GlobalE2NodeId) : Prop :=
  PlmnFits id.plmn ∧ (id.type = .eNB → id.nbId.nbId.toNat < 2 ^ 20 ∧ id.nbId.unused = 0)

instance (id : GlobalE2NodeId) : Decidable id.Survives := inferInstanceAs (Decidable (_ ∧ _))

theorem GlobalE2NodeId.ext_iff {a b : GlobalE2NodeId} :
    a = b ↔ a.type = b.type ∧ a.plmn = b.plmn ∧ a.nbId = b.nbId ∧ a.cuDuId = b.cuDuId := by
  cases a
  cases b
  simp

/-- **A node id comes back**, in the form it has on the wire, exactly when it
fits. -/
theorem globalE2NodeId_back {id : GlobalE2NodeId} {v : GlobalE2NodeIdIe}
    (htype : isSetupNode id.type = true) (h : encGlobalE2NodeId id = next v) :
    decGlobalE2NodeId v = next id.canon ↔ id.Survives := by
  obtain ⟨t, plmn, nbId, cuDuId, hhas⟩ := id
  by_cases henb : t = .eNB
  · -- the twenty bits of the eNB id
    subst henb
    obtain rfl := next_inj.mp h
    obtain ⟨nb, unused⟩ := nbId
    rw [GlobalE2NodeId.Survives, ← macroEnbId_roundTrip, ← plmn_roundTrip]
    simp [decGlobalE2NodeId, GlobalE2NodeId.ext_iff, GlobalE2NodeId.canon, NgranNode.canon,
      NgranNode.isCuup, NgranNode.isDu, eq_comm (a := (0 : UInt32)), and_left_comm]
  · -- the encoder has checked the gNB id
    rw [encGlobalE2NodeId, if_neg henb] at h
    simp only [bind_eq_next, pure_eq, next_inj] at h
    obtain ⟨b, hb, rfl⟩ := h
    have hnb := gnbId_roundTrip hb
    rw [GlobalE2NodeId.Survives, ← plmn_roundTrip]
    have hsome : (t.isCuup || t.isDu) = true → ∃ c, cuDuId = some c :=
      fun hneeds => Option.isSome_iff_exists.mp (hhas hneeds)
    cases t <;> simp [isSetupNode] at htype henb
    case gNBCUUP | gNBDU =>
      obtain ⟨c, rfl⟩ := hsome rfl
      simp [decGlobalE2NodeId, hnb, GlobalE2NodeId.ext_iff, GlobalE2NodeId.canon, NgranNode.canon,
        NgranNode.isCuup, NgranNode.isDu]
    all_goals
      simp [decGlobalE2NodeId, hnb, GlobalE2NodeId.ext_iff, GlobalE2NodeId.canon, NgranNode.canon,
        NgranNode.isCuup, NgranNode.isDu]

/-- `GlobalRIC_ID`: a RIC id comes back exactly when its PLMN and its twenty
bits fit. -/
def GlobalRicId.Survives (id : GlobalRicId) : Prop :=
  PlmnFits id.plmn ∧ id.doubleWord.toNat < 2 ^ 20

instance (id : GlobalRicId) : Decidable id.Survives := inferInstanceAs (Decidable (_ ∧ _))

end FlexRic
