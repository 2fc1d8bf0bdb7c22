import FlexRic.Lib.Compare
import FlexRic.Ue.UeIdTypes

/-!
# FlexRic.Ue.UeIdValues

The copies and comparisons of UE identities (`lib/3gpp/ie`, `lib/sm/ie/ue_id.c`).

A copy asserts nothing on a well-typed identity, and neither does a release
(`free_ue_id_e2sm`).  A comparison can fail on an identity that lacks an optional
field: `eqGnbDuUeIdE2sm` reads a RAN UE id that may be NULL, and `eqGlobalEnbId`
asserts that its arguments are not.  `eqUeIdE2sm_self` says when comparing an
identity with itself comes back.
-/

namespace FlexRic

namespace Ue

open Outcome

/-! ## Copies -/

/-- `cp_e2sm_plmn`. -/
def cpE2smPlmn (src : E2apPlmn) : E2apPlmn := ⟨src.mcc, src.mnc, src.mncDigitLen⟩

/-- `cp_guami`. -/
def cpGuami (src : Guami) : Guami :=
  ⟨cpE2smPlmn src.plmnId, src.amfRegionId, src.amfSetId, src.amfPtr⟩

/-- `cp_e2sm_gummei`. -/
def cpE2smGummei (src : Gummei) : Gummei := ⟨cpE2smPlmn src.plmnId, src.mmeGroupId, src.mmeCode⟩

/-- `cp_global_gnb_id`. -/
def cpGlobalGnbId (src : GlobalGnbId) : GlobalGnbId := ⟨cpE2smPlmn src.plmnId, src.gnbId⟩

/-- `cp_global_enb_ue_id_e2sm`. -/
def cpGlobalEnbUeIdE2sm (src : GlobalEnbId) : GlobalEnbId := ⟨cpE2smPlmn src.plmnId, src.enbId⟩

/-- `cp_global_ng_enb_id`. -/
def cpGlobalNgEnbId (src : GlobalNgEnbId) : GlobalNgEnbId :=
  ⟨cpE2smPlmn src.plmnId, src.ngEnbId⟩

/-- `cp_global_ng_ran_node_id`. -/
def cpGlobalNgRanNodeId : GlobalNgRanNodeId → GlobalNgRanNodeId
  | .gnb id => .gnb (cpGlobalGnbId id)
  | .ngEnb id => .ngEnb (cpGlobalNgEnbId id)

/-- An array of ids is copied where it is not empty. -/
def cpIdLst (src : Option (List UInt32)) : Option (List UInt32) :=
  src.filter fun ids => 0 < ids.length

/-- `cp_gnb_ue_id_e2sm`. -/
def cpGnbUeIdE2sm (src : Gnb) : Gnb where
  amfUeNgapId := src.amfUeNgapId
  guami := cpGuami src.guami
  gnbCuUeF1apLst := cpIdLst src.gnbCuUeF1apLst
  gnbCuCpUeE1apLst := cpIdLst src.gnbCuCpUeE1apLst
  ranUeId := src.ranUeId
  ngRanNodeUeXnapId := src.ngRanNodeUeXnapId
  globalGnbId := src.globalGnbId.map cpGlobalGnbId
  globalNgRanNodeId := src.globalNgRanNodeId.map cpGlobalNgRanNodeId

/-- `cp_gnb_du_ue_id_e2sm`. -/
def cpGnbDuUeIdE2sm (src : GnbDu) : GnbDu := ⟨src.gnbCuUeF1ap, src.ranUeId⟩

/-- `cp_gnb_cu_up_id_e2sm`. -/
def cpGnbCuUpIdE2sm (src : GnbCuUp) : GnbCuUp := ⟨src.gnbCuCpUeE1ap, src.ranUeId⟩

/-- `cp_ng_enb_ue_id_e2sm`. -/
def cpNgEnbUeIdE2sm (src : NgEnb) : NgEnb where
  amfUeNgapId := src.amfUeNgapId
  guami := cpGuami src.guami
  ngEnbCuUeW1apId := src.ngEnbCuUeW1apId
  ngRanNodeUeXnapId := src.ngRanNodeUeXnapId
  globalNgEnbId := src.globalNgEnbId.map cpGlobalNgEnbId
  globalNgRanNodeId := src.globalNgRanNodeId.map cpGlobalNgRanNodeId

/-- `cp_ng_enb_du_ue_id_e2sm`. -/
def cpNgEnbDuUeIdE2sm (src : NgEnbDu) : NgEnbDu := ⟨src.ngEnbCuUeW1apId⟩

/-- `cp_en_gnb_ue_id_e2sm`; an empty array stays there. -/
def cpEnGnbUeIdE2sm (src : EnGnb) : EnGnb where
  enbUeX2apId := src.enbUeX2apId
  enbUeX2apIdExtension := src.enbUeX2apIdExtension
  globalEnbId := cpGlobalEnbUeIdE2sm src.globalEnbId
  gnbCuUeF1apLst := src.gnbCuUeF1apLst
  gnbCuCpUeE1apLst := src.gnbCuCpUeE1apLst
  ranUeId := src.ranUeId

/-- `cp_enb_ue_id_e2sm`. -/
def cpEnbUeIdE2sm (src : Enb) : Enb where
  mmeUeS1apId := src.mmeUeS1apId
  gummei := cpE2smGummei src.gummei
  enbUeX2apId := src.enbUeX2apId
  enbUeX2apIdExtension := src.enbUeX2apIdExtension
  globalEnbId := src.globalEnbId.map cpGlobalEnbUeIdE2sm

/-- `cp_ue_id_e2sm`. -/
def cpUeIdE2sm : UeId → UeId
  | .gnb ue => .gnb (cpGnbUeIdE2sm ue)
  | .gnbDu ue => .gnbDu (cpGnbDuUeIdE2sm ue)
  | .gnbCuUp ue => .gnbCuUp (cpGnbCuUpIdE2sm ue)
  | .ngEnb ue => .ngEnb (cpNgEnbUeIdE2sm ue)
  | .ngEnbDu ue => .ngEnbDu (cpNgEnbDuUeIdE2sm ue)
  | .enGnb ue => .enGnb (cpEnGnbUeIdE2sm ue)
  | .enb ue => .enb (cpEnbUeIdE2sm ue)

/-! ## Comparisons -/

/-- `eq_e2sm_plmn`, of two that are there. -/
def eqE2smPlmn (m0 m1 : E2apPlmn) : Bool :=
  m0.mcc == m1.mcc && m0.mnc == m1.mnc && m0.mncDigitLen == m1.mncDigitLen

/-- `eq_guami`. -/
def eqGuami (m0 m1 : Guami) : Bool :=
  eqE2smPlmn m0.plmnId m1.plmnId && m0.amfRegionId == m1.amfRegionId &&
    m0.amfSetId == m1.amfSetId && m0.amfPtr == m1.amfPtr

/-- `eq_e2sm_gummei`. -/
def eqE2smGummei (m0 m1 : Gummei) : Bool :=
  eqE2smPlmn m0.plmnId m1.plmnId && m0.mmeGroupId == m1.mmeGroupId && m0.mmeCode == m1.mmeCode

/-- `eq_global_gnb_id`. -/
def eqGlobalGnbId (m0 m1 : GlobalGnbId) : Bool :=
  eqE2smPlmn m0.plmnId m1.plmnId && m0.gnbId.nbId == m1.gnbId.nbId &&
    m0.gnbId.unused == m1.gnbId.unused

/-- `eq_global_enb_id`, whose arguments are pointers. -/
def eqGlobalEnbId (m0 m1 : Option GlobalEnbId) : Outcome Bool := do
  let m0 ← expect m0 "m0 != NULL"
  let m1 ← expect m1 "m1 != NULL"
  return eqE2smPlmn m0.plmnId m1.plmnId && m0.enbId == m1.enbId

/-- `eq_global_ng_enb_id`. -/
def eqGlobalNgEnbId (m0 m1 : GlobalNgEnbId) : Bool :=
  eqE2smPlmn m0.plmnId m1.plmnId && m0.ngEnbId == m1.ngEnbId

/-- `eq_global_ng_ran_node_id`. -/
def eqGlobalNgRanNodeId : GlobalNgRanNodeId → GlobalNgRanNodeId → Bool
  | .gnb m0, .gnb m1 => eqGlobalGnbId m0 m1
  | .ngEnb m0, .ngEnb m1 => eqGlobalNgEnbId m0 m1
  | _, _ => false

/-- Two optional fields differ only where both are there. -/
def eqIfBoth {α : Type} (eq : α → α → Bool) : Option α → Option α → Bool
  | some a, some b => eq a b
  | _, _ => true

/-- The arrays of ids, where a NULL one has no entries. -/
def eqIdLst (m0 m1 : Option (List UInt32)) : Bool := m0.getD [] == m1.getD []

/-- `eq_gnb_ue_id_e2sm`, with the last comparison as it is: of `m0` and `m0`. -/
def eqGnbUeIdE2sm (m0 m1 : Gnb) : Bool :=
  m0.amfUeNgapId == m1.amfUeNgapId && eqGuami m0.guami m1.guami &&
    eqIdLst m0.gnbCuUeF1apLst m1.gnbCuUeF1apLst &&
    eqIdLst m0.gnbCuCpUeE1apLst m1.gnbCuCpUeE1apLst &&
    eqIfBoth (· == ·) m0.ranUeId m1.ranUeId &&
    eqIfBoth (· == ·) m0.ngRanNodeUeXnapId m1.ngRanNodeUeXnapId &&
    eqIfBoth eqGlobalGnbId m0.globalGnbId m1.globalGnbId &&
    eqIfBoth (fun m0 _ => eqGlobalNgRanNodeId m0 m0) m0.globalNgRanNodeId m1.globalNgRanNodeId

/-- `eq_gnb_du_ue_id_e2sm`: both RAN UE ids are read, whether they are there or
not. -/
def eqGnbDuUeIdE2sm (m0 m1 : GnbDu) : Outcome Bool :=
  both (.next (m0.gnbCuUeF1ap == m1.gnbCuUeF1ap)) do
    let id0 ← expect m0.ranUeId "*m0->ran_ue_id"
    let id1 ← expect m1.ranUeId "*m1->ran_ue_id"
    return id0 == id1

/-- `eq_gnb_cu_up_ue_id_e2sm`. -/
def eqGnbCuUpUeIdE2sm (m0 m1 : GnbCuUp) : Bool :=
  m0.gnbCuCpUeE1ap == m1.gnbCuCpUeE1ap && eqIfBoth (· == ·) m0.ranUeId m1.ranUeId

/-- `eq_ng_enb_ue_id_e2sm`. -/
def eqNgEnbUeIdE2sm (m0 m1 : NgEnb) : Bool :=
  m0.amfUeNgapId == m1.amfUeNgapId && eqGuami m0.guami m1.guami &&
    eqIfBoth (· == ·) m0.ngEnbCuUeW1apId m1.ngEnbCuUeW1apId &&
    eqIfBoth (· == ·) m0.ngRanNodeUeXnapId m1.ngRanNodeUeXnapId &&
    eqIfBoth eqGlobalNgEnbId m0.globalNgEnbId m1.globalNgEnbId &&
    eqIfBoth eqGlobalNgRanNodeId m0.globalNgRanNodeId m1.globalNgRanNodeId

/-- `eq_ng_enb_du_ue_id_e2sm`. -/
def eqNgEnbDuUeIdE2sm (m0 m1 : NgEnbDu) : Bool := m0.ngEnbCuUeW1apId == m1.ngEnbCuUeW1apId

/-- `eq_en_gnb_ue_id_e2sm`. -/
def eqEnGnbUeIdE2sm (m0 m1 : EnGnb) : Outcome Bool :=
  both (.next (m0.enbUeX2apId == m1.enbUeX2apId &&
      eqIfBoth (· == ·) m0.enbUeX2apIdExtension m1.enbUeX2apIdExtension)) <|
    both (eqGlobalEnbId (some m0.globalEnbId) (some m1.globalEnbId)) <|
      .next (eqIfBoth (· == ·) m0.gnbCuUeF1apLst m1.gnbCuUeF1apLst &&
        eqIdLst m0.gnbCuCpUeE1apLst m1.gnbCuCpUeE1apLst &&
        eqIfBoth (· == ·) m0.ranUeId m1.ranUeId)

/-- `eq_enb_ue_id_e2sm`: the optional global id is passed on as it is. -/
def eqEnbUeIdE2sm (m0 m1 : Enb) : Outcome Bool :=
  both (.next (m0.mmeUeS1apId == m1.mmeUeS1apId && eqE2smGummei m0.gummei m1.gummei &&
      eqIfBoth (· == ·) m0.enbUeX2apId m1.enbUeX2apId &&
      eqIfBoth (· == ·) m0.enbUeX2apIdExtension m1.enbUeX2apIdExtension)) <|
    eqGlobalEnbId m0.globalEnbId m1.globalEnbId

/-- `eq_ue_id_e2sm`. -/
def eqUeIdE2sm : UeId → UeId → Outcome Bool
  | .gnb m0, .gnb m1 => .next (eqGnbUeIdE2sm m0 m1)
  | .gnbDu m0, .gnbDu m1 => eqGnbDuUeIdE2sm m0 m1
  | .gnbCuUp m0, .gnbCuUp m1 => .next (eqGnbCuUpUeIdE2sm m0 m1)
  | .ngEnb m0, .ngEnb m1 => .next (eqNgEnbUeIdE2sm m0 m1)
  | .ngEnbDu m0, .ngEnbDu m1 => .next (eqNgEnbDuUeIdE2sm m0 m1)
  | .enGnb m0, .enGnb m1 => eqEnGnbUeIdE2sm m0 m1
  | .enb m0, .enb m1 => eqEnbUeIdE2sm m0 m1
  | _, _ => .next false

/-! ### With itself -/

/-- The identities that have the optional field their comparison needs. -/
def UeId.comparable : UeId → Bool
  | gnbDu ue => ue.ranUeId.isSome
  | enb ue => ue.globalEnbId.isSome
  | _ => true

@[simp] theorem eqE2smPlmn_self (m : E2apPlmn) : eqE2smPlmn m m = true := by simp [eqE2smPlmn]

@[simp] theorem eqGuami_self (m : Guami) : eqGuami m m = true := by simp [eqGuami]

@[simp] theorem eqGlobalGnbId_self (m : GlobalGnbId) : eqGlobalGnbId m m = true := by
  simp [eqGlobalGnbId]

@[simp] theorem eqGlobalNgEnbId_self (m : GlobalNgEnbId) : eqGlobalNgEnbId m m = true := by
  simp [eqGlobalNgEnbId]

@[simp] theorem eqGlobalNgRanNodeId_self (m : GlobalNgRanNodeId) :
    eqGlobalNgRanNodeId m m = true := by
  cases m <;> simp [eqGlobalNgRanNodeId]

/-- A field that is compared where both have it equals itself. -/
@[simp] theorem eqIfBoth_self {α : Type} {eq : α → α → Bool} (h : ∀ a, eq a a = true)
    (o : Option α) : eqIfBoth eq o o = true := by
  cases o with
  | none => rfl
  | some a => exact h a

/-- A list of ids equals itself. -/
@[simp] theorem eqIdLst_self (o : Option (List UInt32)) : eqIdLst o o = true := by simp [eqIdLst]

/-- A global eNB id is compared with itself, if it is there. -/
theorem eqGlobalEnbId_self (o : Option GlobalEnbId) :
    eqGlobalEnbId o o = if o.isSome then .next true else .abort "m0 != NULL" := by
  cases o <;> simp [eqGlobalEnbId, expect]

/-- **An identity compared with itself** is equal, if the comparison comes back. -/
theorem eqUeIdE2sm_self (ue : UeId) :
    (eqUeIdE2sm ue ue).Agrees ∧ ((eqUeIdE2sm ue ue).Returns ↔ ue.comparable = true) := by
  cases ue with
  | gnb ue => simp [eqUeIdE2sm, eqGnbUeIdE2sm, UeId.comparable, agrees_next]
  | gnbDu ue =>
    cases h : ue.ranUeId <;>
      simp [eqUeIdE2sm, eqGnbDuUeIdE2sm, UeId.comparable, h, expect, agrees_next, agrees_abort]
  | gnbCuUp ue => simp [eqUeIdE2sm, eqGnbCuUpUeIdE2sm, UeId.comparable, agrees_next]
  | ngEnb ue => simp [eqUeIdE2sm, eqNgEnbUeIdE2sm, UeId.comparable, agrees_next]
  | ngEnbDu ue => simp [eqUeIdE2sm, eqNgEnbDuUeIdE2sm, UeId.comparable, agrees_next]
  | enGnb ue =>
    simp [eqUeIdE2sm, eqEnGnbUeIdE2sm, UeId.comparable, eqGlobalEnbId_self, agrees_next]
  | enb ue =>
    cases h : ue.globalEnbId <;>
      simp [eqUeIdE2sm, eqEnbUeIdE2sm, eqE2smGummei, UeId.comparable, eqGlobalEnbId_self, h,
        agrees_next, agrees_abort]

/-! ### With a copy -/

/-- A copy that changes nothing changes no optional field. -/
theorem map_of_self {α : Type} {f : α → α} (h : ∀ a, f a = a) (o : Option α) : o.map f = o := by
  rw [funext h]
  exact Option.map_id'

/-- The copy of a node is the node. -/
theorem cpGlobalNgRanNodeId_eq (id : GlobalNgRanNodeId) : cpGlobalNgRanNodeId id = id := by
  cases id <;> rfl

/-- The copy of an empty array is NULL, and has no entries either. -/
theorem cpIdLst_getD (ids : Option (List UInt32)) : (cpIdLst ids).getD [] = ids.getD [] := by
  cases ids with
  | none => rfl
  | some ids => cases ids <;> rfl

/-- **A copy is compared like the identity.** -/
theorem eqUeIdE2sm_copy (ue m1 : UeId) : eqUeIdE2sm (cpUeIdE2sm ue) m1 = eqUeIdE2sm ue m1 := by
  cases ue with
  | gnb ue =>
    rw [cpUeIdE2sm, cpGnbUeIdE2sm, map_of_self (f := cpGlobalGnbId) (fun _ => rfl),
      map_of_self cpGlobalNgRanNodeId_eq]
    cases m1 with
    | gnb m1 =>
      rw [eqUeIdE2sm, eqUeIdE2sm, eqGnbUeIdE2sm, eqGnbUeIdE2sm, eqIdLst, eqIdLst, eqIdLst, eqIdLst,
        cpIdLst_getD, cpIdLst_getD]
      rfl
    | _ => rfl
  | ngEnb ue =>
    rw [cpUeIdE2sm, cpNgEnbUeIdE2sm, map_of_self (f := cpGlobalNgEnbId) (fun _ => rfl),
      map_of_self cpGlobalNgRanNodeId_eq]
    rfl
  | enb ue =>
    rw [cpUeIdE2sm, cpEnbUeIdE2sm, map_of_self (f := cpGlobalEnbUeIdE2sm) fun _ => rfl]
    rfl
  | _ => rfl

end Ue

end FlexRic
