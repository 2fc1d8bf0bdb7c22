import FlexRic.E2ap.Ids

/-!
# FlexRic.E2ap.NodeIds

The order on E2 node ids (`cmp_global_e2_node_id`) and the ids that arrive
on the wire.

The comparator, the equality test and the identity of ids disagree on the
node types CU and CU-CP, for which only the comparator looks at `cu_du_id`.
`e2ap_dec_setup_request` produces none of those: on the ids it produces,
`NodeId`, the three agree (`cmpNodeId_eq_zero`, `eqNodeId_iff`).
-/

namespace FlexRic

namespace NgranNode

/-- The value of the enumerator. -/
def code : NgranNode → Nat
  | eNB => 0
  | ngENB => 1
  | gNB => 2
  | eNBCU => 3
  | ngENBCU => 4
  | gNBCU => 5
  | eNBDU => 6
  | gNBDU => 7
  | eNBMbmsSta => 8
  | gNBCUCP => 9
  | gNBCUUP => 10

/-- `NODE_IS_CU`. -/
def isCu (t : NgranNode) : Bool :=
  t == .eNBCU || t == .ngENBCU || t == .gNBCU || t == .gNBCUCP || t == .gNBCUUP

/-- Two kinds of nodes have two codes. -/
theorem code_injective : Function.Injective code := by
  intro a b h
  cases a <;> cases b <;> first | rfl | contradiction

end NgranNode

/-- `cmp_e2ap_plmn`. -/
def cmpE2apPlmn : Cmp E2apPlmn :=
  thenBy (cmpDesc (·.mcc)) (thenBy (cmpDesc (·.mnc)) (cmpDesc (·.mncDigitLen)))

/-- The part of a node id the comparator looks at last; it asserts that it
is there for the types it looks at it for. -/
def cuDuKey (id : GlobalE2NodeId) : UInt64 :=
  if id.type.isCu || id.type.isCuup || id.type.isDu then id.cuDuId.getD 0 else 0

/-- `cmp_global_e2_node_id`. -/
def cmpGlobalE2NodeId : Cmp GlobalE2NodeId :=
  thenBy (cmpDesc (·.type.code)) (thenBy (fun a b => cmpE2apPlmn a.plmn b.plmn)
    (thenBy (cmpDesc (·.nbId.nbId)) (thenBy (cmpAsc (·.nbId.unused)) (cmpDesc cuDuKey))))

/-- PLMNs are ordered by three fields. -/
theorem lawful_cmpE2apPlmn : LawfulCmp cmpE2apPlmn :=
  (lawful_cmpDesc _).thenBy ((lawful_cmpDesc _).thenBy (lawful_cmpDesc _))

/-- **The comparator of node ids is lawful**: kind, PLMN, id, and CU or DU id. -/
theorem lawful_cmpGlobalE2NodeId : LawfulCmp cmpGlobalE2NodeId :=
  (lawful_cmpDesc _).thenBy ((lawful_cmpE2apPlmn.comap _).thenBy
    ((lawful_cmpDesc _).thenBy ((lawful_cmpAsc _).thenBy (lawful_cmpDesc _))))

/-- The order tells any two PLMNs apart. -/
@[simp] theorem cmpE2apPlmn_eq_zero {a b : E2apPlmn} : cmpE2apPlmn a b = 0 ↔ a = b := by
  rw [cmpE2apPlmn, thenBy_eq_zero, thenBy_eq_zero, cmpDesc_eq_zero, cmpDesc_eq_zero,
    cmpDesc_eq_zero]
  cases a
  cases b
  simp

/-! ## Ids on the wire -/

/-- The ids `e2ap_dec_setup_request` produces: a gNB, its DU or CU-UP, or an
eNB, with a `cu_du_id` for the DU and the CU-UP only. -/
def OnWire (id : GlobalE2NodeId) : Prop :=
  (id.type = .gNB ∨ id.type = .gNBDU ∨ id.type = .gNBCUUP ∨ id.type = .eNB) ∧
    id.cuDuId.isSome = (id.type.isCuup || id.type.isDu)

instance (id : GlobalE2NodeId) : Decidable (OnWire id) := inferInstanceAs (Decidable (_ ∧ _))

/-- An E2 node id as it arrives. -/
abbrev NodeId := { id : GlobalE2NodeId // OnWire id }

/-- `cmp_global_e2_node_id_wrapper`. -/
def cmpNodeId : Cmp NodeId := fun a b => cmpGlobalE2NodeId a.val b.val

/-- `eq_global_e2_node_id_wrapper`. -/
def eqNodeId (a b : NodeId) : Bool := eqGlobalE2NodeId a.val b.val

/-- The ids of the registries have the comparator of node ids. -/
theorem lawful_cmpNodeId : LawfulCmp cmpNodeId := lawful_cmpGlobalE2NodeId.comap _

/-- Two ids that arrived are one when they agree on the type, the PLMN, the
gNB id and, where the type has one, the `cu_du_id`. -/
theorem NodeId.ext_fields {a b : NodeId} (htype : a.val.type = b.val.type)
    (hplmn : a.val.plmn = b.val.plmn) (hnb : a.val.nbId = b.val.nbId)
    (hcuDu : (a.val.type.isCuup || a.val.type.isDu) = true → a.val.cuDuId = b.val.cuDuId) :
    a = b := by
  obtain ⟨⟨t₁, p₁, n₁, c₁, h₁⟩, hwire₁, hsome₁⟩ := a
  obtain ⟨⟨t₂, p₂, n₂, c₂, h₂⟩, hwire₂, hsome₂⟩ := b
  obtain rfl : t₁ = t₂ := htype
  obtain rfl : p₁ = p₂ := hplmn
  obtain rfl : n₁ = n₂ := hnb
  have hc : c₁ = c₂ := by
    cases hneeds : (t₁.isCuup || t₁.isDu) with
    | true => exact hcuDu hneeds
    | false =>
      have hnone₁ : c₁.isSome = false := hsome₁.trans hneeds
      have hnone₂ : c₂.isSome = false := hsome₂.trans hneeds
      rw [Option.isNone_iff_eq_none.mp (Option.isSome_eq_false_iff.mp hnone₁),
        Option.isNone_iff_eq_none.mp (Option.isSome_eq_false_iff.mp hnone₂)]
  subst hc
  rfl

/-- The equality of the source on ids of the registries is equality. -/
theorem eqNodeId_iff {a b : NodeId} : eqNodeId a b = true ↔ a = b := by
  constructor
  · intro h
    simp only [eqNodeId, eqGlobalE2NodeId, Bool.and_eq_true, beq_iff_eq, Bool.or_eq_true,
      Bool.not_eq_true'] at h
    obtain ⟨⟨⟨htype, hplmn⟩, hnb⟩, hcuDu⟩ := h
    refine NodeId.ext_fields htype hplmn hnb fun hneeds => hcuDu.resolve_left ?_
    simp [hneeds]
  · rintro rfl
    exact eqGlobalE2NodeId_refl _

/-- Ids of the registries compare as 0 only if they are equal. -/
theorem cmpNodeId_eq_zero {a b : NodeId} : cmpNodeId a b = 0 ↔ a = b := by
  constructor
  · intro h
    simp only [cmpNodeId, cmpGlobalE2NodeId, thenBy_eq_zero, cmpDesc_eq_zero, cmpAsc_eq_zero,
      cmpE2apPlmn_eq_zero] at h
    obtain ⟨htype, hplmn, hnbId, hunused, hkey⟩ := h
    have htype := NgranNode.code_injective htype
    refine NodeId.ext_fields htype hplmn ?_ fun hneeds => ?_
    · cases hna : a.val.nbId
      cases hnb : b.val.nbId
      simp_all
    · have hsa : a.val.cuDuId.isSome = true := a.property.2.trans hneeds
      have hsb : b.val.cuDuId.isSome = true := b.property.2.trans (htype ▸ hneeds)
      obtain ⟨x, hx⟩ := Option.isSome_iff_exists.mp hsa
      obtain ⟨y, hy⟩ := Option.isSome_iff_exists.mp hsb
      have hka : cuDuKey a.val = x := by
        rw [cuDuKey, if_pos (by rw [Bool.or_assoc, hneeds, Bool.or_true]), hx, Option.getD_some]
      have hkb : cuDuKey b.val = y := by
        rw [cuDuKey, if_pos (by rw [Bool.or_assoc, ← htype, hneeds, Bool.or_true]), hy,
          Option.getD_some]
      rw [hx, hy, ← hka, ← hkb, hkey]
  · rintro rfl
    exact lawful_cmpNodeId.refl _

end FlexRic
