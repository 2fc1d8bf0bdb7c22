import FlexRic.Lib.Plans
import FlexRic.Ue.CellGlobalId

/-!
# FlexRic.Ue.UeIdPlans

What the comparisons of UE identities look at (`lib/3gpp/ie`, `lib/sm/ie/ue_id.c`).

* An optional field is compared where both identities have it; `eq_gnb_ue_id_e2sm` compares the
  NG-RAN node of the first identity with itself.
* `eq_gnb_du_ue_id_e2sm` and `eq_enb_ue_id_e2sm` have an answer only where an optional field is
  there.
* `answer_eqUeIdE2sm`: the comparison of the source does what `UeId.plan` says.
-/

namespace FlexRic

namespace Ue

open Outcome Answers

/-! ## Parts that are compared in full -/

/-- PLMNs are compared in all fields. -/
theorem eqE2smPlmn_iff {m0 m1 : E2apPlmn} : eqE2smPlmn m0 m1 = true ↔ m0 = m1 := by
  cases m0
  cases m1
  simp [eqE2smPlmn, and_assoc]

/-- GUAMIs are compared in all fields. -/
theorem eqGuami_iff {m0 m1 : Guami} : eqGuami m0 m1 = true ↔ m0 = m1 := by
  cases m0
  cases m1
  simp [eqGuami, eqE2smPlmn_iff, and_assoc]

/-- GUMMEIs are compared in all fields. -/
theorem eqE2smGummei_iff {m0 m1 : Gummei} : eqE2smGummei m0 m1 = true ↔ m0 = m1 := by
  cases m0
  cases m1
  simp [eqE2smGummei, eqE2smPlmn_iff, and_assoc]

/-- Global gNB ids are compared in all fields. -/
theorem eqGlobalGnbId_iff {m0 m1 : GlobalGnbId} : eqGlobalGnbId m0 m1 = true ↔ m0 = m1 := by
  obtain ⟨plmn, id⟩ := m0
  obtain ⟨plmn', id'⟩ := m1
  cases id
  cases id'
  simp [eqGlobalGnbId, eqE2smPlmn_iff, and_assoc]

/-- Global ng-eNB ids are compared in all fields. -/
theorem eqGlobalNgEnbId_iff {m0 m1 : GlobalNgEnbId} : eqGlobalNgEnbId m0 m1 = true ↔ m0 = m1 := by
  cases m0
  cases m1
  simp [eqGlobalNgEnbId, eqE2smPlmn_iff]

/-- Node ids of the NG RAN are compared in all fields. -/
theorem eqGlobalNgRanNodeId_iff {m0 m1 : GlobalNgRanNodeId} :
    eqGlobalNgRanNodeId m0 m1 = true ↔ m0 = m1 := by
  cases m0 <;> cases m1 <;> simp [eqGlobalNgRanNodeId, eqGlobalGnbId_iff, eqGlobalNgEnbId_iff]

/-- Cell ids are compared in all fields. -/
theorem eqCellGlobalId_iff {m0 m1 : CellGlobalId} : eqCellGlobalId m0 m1 = true ↔ m0 = m1 := by
  cases m0 with
  | nrCgi id =>
    cases m1 with
    | nrCgi id' => cases id; cases id'; simp [eqCellGlobalId, eqE2smPlmn_iff]
    | eutra id' => simp [eqCellGlobalId]
  | eutra id =>
    cases m1 with
    | nrCgi id' => simp [eqCellGlobalId]
    | eutra id' => cases id; cases id'; simp [eqCellGlobalId, eqE2smPlmn_iff]

/-! ## The identities -/

/-- The arrays of ids: one that is NULL is like one without entries. -/
def idLst : Plan fun m0 m1 : Option (List UInt32) => m0 = m1 := Plan.equal.nullable

/-- An id that is compared where both have it. -/
def id {α : Type} [DecidableEq α] : Plan fun m0 m1 : Option α => m0 = m1 := Plan.equal.ifBoth

/-- `eq_global_gnb_id`. -/
def globalGnbId : Plan fun m0 m1 : GlobalGnbId => m0 = m1 :=
  .ofBool eqGlobalGnbId fun _ _ => eqGlobalGnbId_iff

/-- `eq_global_enb_id`, of two that are there. -/
def globalEnbId : Plan fun m0 m1 : GlobalEnbId => m0 = m1 :=
  .ofBool (fun m0 m1 => eqE2smPlmn m0.plmnId m1.plmnId && m0.enbId == m1.enbId) fun m0 m1 => by
    cases m0
    cases m1
    simp [eqE2smPlmn_iff]

/-- `eq_global_ng_enb_id`. -/
def globalNgEnbId : Plan fun m0 m1 : GlobalNgEnbId => m0 = m1 :=
  .ofBool eqGlobalNgEnbId fun _ _ => eqGlobalNgEnbId_iff

/-- `eq_global_ng_ran_node_id`. -/
def globalNgRanNodeId : Plan fun m0 m1 : GlobalNgRanNodeId => m0 = m1 :=
  .ofBool eqGlobalNgRanNodeId fun _ _ => eqGlobalNgRanNodeId_iff

/-- `eq_guami`. -/
def guami : Plan fun m0 m1 : Guami => m0 = m1 := .ofBool eqGuami fun _ _ => eqGuami_iff

/-- `eq_e2sm_gummei`. -/
def gummei : Plan fun m0 m1 : Gummei => m0 = m1 := .ofBool eqE2smGummei fun _ _ => eqE2smGummei_iff

/-- `eq_gnb_ue_id_e2sm`; of the NG-RAN nodes, nothing is looked at. -/
def Gnb.plan : Plan fun m0 m1 : Gnb => m0 = m1 :=
  ((Plan.equal.on amfUeNgapId).both <| (Ue.guami.on guami).both <|
    (idLst.on gnbCuUeF1apLst).both <| (idLst.on gnbCuCpUeE1apLst).both <|
    (id.on ranUeId).both <| (id.on ngRanNodeUeXnapId).both <|
    (Ue.globalGnbId.ifBoth.on globalGnbId).both <|
    (Plan.unseen _).ifBoth.on globalNgRanNodeId).congr fun m0 m1 => by cases m0; cases m1; simp

/-- `eq_gnb_du_ue_id_e2sm`. -/
def GnbDu.plan : Plan fun m0 m1 : GnbDu => m0 = m1 :=
  ((Plan.equal.on gnbCuUeF1ap).both <| Plan.equal.present.on ranUeId).congr
    fun m0 m1 => by cases m0; cases m1; simp

/-- `eq_gnb_cu_up_ue_id_e2sm`. -/
def GnbCuUp.plan : Plan fun m0 m1 : GnbCuUp => m0 = m1 :=
  ((Plan.equal.on gnbCuCpUeE1ap).both <| id.on ranUeId).congr
    fun m0 m1 => by cases m0; cases m1; simp

/-- `eq_ng_enb_ue_id_e2sm`. -/
def NgEnb.plan : Plan fun m0 m1 : NgEnb => m0 = m1 :=
  ((Plan.equal.on amfUeNgapId).both <| (Ue.guami.on guami).both <|
    (id.on ngEnbCuUeW1apId).both <| (id.on ngRanNodeUeXnapId).both <|
    (Ue.globalNgEnbId.ifBoth.on globalNgEnbId).both <|
    Ue.globalNgRanNodeId.ifBoth.on globalNgRanNodeId).congr
      fun m0 m1 => by cases m0; cases m1; simp

/-- `eq_ng_enb_du_ue_id_e2sm`. -/
def NgEnbDu.plan : Plan fun m0 m1 : NgEnbDu => m0 = m1 :=
  (Plan.equal.on ngEnbCuUeW1apId).congr fun m0 m1 => by cases m0; cases m1; simp

/-- `eq_en_gnb_ue_id_e2sm`. -/
def EnGnb.plan : Plan fun m0 m1 : EnGnb => m0 = m1 :=
  ((Plan.equal.on enbUeX2apId).both <| (id.on enbUeX2apIdExtension).both <|
    (Ue.globalEnbId.on globalEnbId).both <| (id.on gnbCuUeF1apLst).both <|
    (idLst.on gnbCuCpUeE1apLst).both <| id.on ranUeId).congr
      fun m0 m1 => by cases m0; cases m1; simp

/-- `eq_enb_ue_id_e2sm`. -/
def Enb.plan : Plan fun m0 m1 : Enb => m0 = m1 :=
  ((Plan.equal.on mmeUeS1apId).both <| (Ue.gummei.on gummei).both <| (id.on enbUeX2apId).both <|
    (id.on enbUeX2apIdExtension).both <| Ue.globalEnbId.present.on globalEnbId).congr
      fun m0 m1 => by cases m0; cases m1; simp

/-- The kinds of identities. -/
def UeId.kind : UeId → Gnb ⊕ GnbDu ⊕ GnbCuUp ⊕ NgEnb ⊕ NgEnbDu ⊕ EnGnb ⊕ Enb
  | gnb ue => .inl ue
  | gnbDu ue => .inr (.inl ue)
  | gnbCuUp ue => .inr (.inr (.inl ue))
  | ngEnb ue => .inr (.inr (.inr (.inl ue)))
  | ngEnbDu ue => .inr (.inr (.inr (.inr (.inl ue))))
  | enGnb ue => .inr (.inr (.inr (.inr (.inr (.inl ue)))))
  | enb ue => .inr (.inr (.inr (.inr (.inr (.inr ue)))))

/-- An identity is its kind with what is in it. -/
theorem UeId.kind_inj {m0 m1 : UeId} : m0.kind = m1.kind ↔ m0 = m1 := by
  cases m0 <;> cases m1 <;> simp [kind]

/-- `eq_ue_id_e2sm`: two kinds are told apart. -/
def UeId.plan : Plan fun m0 m1 : UeId => m0 = m1 :=
  ((Gnb.plan.kinds <| GnbDu.plan.kinds <| GnbCuUp.plan.kinds <| NgEnb.plan.kinds <|
    NgEnbDu.plan.kinds <| EnGnb.plan.kinds Enb.plan).on kind).congr fun _ _ => kind_inj

/-! ## The comparisons do that -/

/-- An optional field is compared where both have it. -/
theorem some_eqIfBoth {α : Type} {eq : α → α → Bool} {p : Plan fun a b : α => a = b}
    (h : ∀ a b, some (eq a b) = p.eq a b) (a b : Option α) :
    some (eqIfBoth eq a b) = p.ifBoth.eq a b := by
  cases a <;> cases b
  case some.some a b => exact h a b
  all_goals rfl

theorem some_eqIfBoth_id {α : Type} [DecidableEq α] (a b : Option α) :
    some (eqIfBoth (· == ·) a b) = id.eq a b := some_eqIfBoth (fun _ _ => rfl) a b

/-- Lists of ids are compared where both are there. -/
theorem some_eqIdLst (a b : Option (List UInt32)) : some (eqIdLst a b) = idLst.eq a b := by
  show some (a.getD [] == b.getD []) = andThen (Plan.equal.eq (a.getD []) (b.getD [])) (some true)
  rw [Plan.equal_eq]
  cases a.getD [] == b.getD [] <;> rfl

/-- **A UE of a gNB**; of its node in the NG RAN nothing is looked at. -/
theorem answer_eqGnbUeIdE2sm (m0 m1 : Gnb) : some (eqGnbUeIdE2sm m0 m1) = Gnb.plan.eq m0 m1 := by
  have hnode : some (eqIfBoth (fun m0 _ => eqGlobalNgRanNodeId m0 m0) m0.globalNgRanNodeId
      m1.globalNgRanNodeId) = (Plan.unseen _).ifBoth.eq _ _ :=
    some_eqIfBoth (fun a _ => congrArg some (eqGlobalNgRanNodeId_self a)) _ _
  have hgnb := some_eqIfBoth (p := globalGnbId) (fun _ _ => rfl) m0.globalGnbId m1.globalGnbId
  simp only [eqGnbUeIdE2sm, some_and, andThen_assoc, some_eqIfBoth_id, some_eqIdLst, hnode, hgnb]
  rfl

/-- The RAN UE id of a gNB-DU's UE is read though it may be `NULL`. -/
theorem answer_eqGnbDuUeIdE2sm (m0 m1 : GnbDu) :
    (eqGnbDuUeIdE2sm m0 m1).answer = GnbDu.plan.eq m0 m1 := by
  obtain ⟨id0, ran0⟩ := m0
  obtain ⟨id1, ran1⟩ := m1
  rw [eqGnbDuUeIdE2sm, answer_both]
  cases ran0 <;> cases ran1 <;> rfl

theorem answer_eqGnbCuUpUeIdE2sm (m0 m1 : GnbCuUp) :
    some (eqGnbCuUpUeIdE2sm m0 m1) = GnbCuUp.plan.eq m0 m1 := by
  rw [eqGnbCuUpUeIdE2sm, some_and, some_eqIfBoth_id]
  rfl

theorem answer_eqNgEnbUeIdE2sm (m0 m1 : NgEnb) :
    some (eqNgEnbUeIdE2sm m0 m1) = NgEnb.plan.eq m0 m1 := by
  have henb := some_eqIfBoth (p := globalNgEnbId) (fun _ _ => rfl) m0.globalNgEnbId
    m1.globalNgEnbId
  have hnode := some_eqIfBoth (p := globalNgRanNodeId) (fun _ _ => rfl) m0.globalNgRanNodeId
    m1.globalNgRanNodeId
  simp only [eqNgEnbUeIdE2sm, some_and, andThen_assoc, some_eqIfBoth_id, henb, hnode]
  rfl

theorem answer_eqEnGnbUeIdE2sm (m0 m1 : EnGnb) :
    (eqEnGnbUeIdE2sm m0 m1).answer = EnGnb.plan.eq m0 m1 := by
  simp only [eqEnGnbUeIdE2sm, answer_both, answer_next, some_and, andThen_assoc, some_eqIfBoth_id,
    some_eqIdLst]
  rfl

/-- The eNB of an eNB's UE is asserted to be there. -/
theorem answer_eqGlobalEnbId (m0 m1 : Option GlobalEnbId) :
    (eqGlobalEnbId m0 m1).answer = globalEnbId.present.eq m0 m1 := by
  cases m0 <;> cases m1 <;> rfl

/-- **A UE of an eNB**, field by field. -/
theorem answer_eqEnbUeIdE2sm (m0 m1 : Enb) :
    (eqEnbUeIdE2sm m0 m1).answer = Enb.plan.eq m0 m1 := by
  simp only [eqEnbUeIdE2sm, answer_both, answer_next, some_and, andThen_assoc, some_eqIfBoth_id,
    answer_eqGlobalEnbId]
  rfl

/-- **The comparison of two identities** is what its plan says. -/
theorem answer_eqUeIdE2sm (m0 m1 : UeId) : (eqUeIdE2sm m0 m1).answer = UeId.plan.eq m0 m1 := by
  cases m0 <;> cases m1
  case gnb.gnb m0 m1 => exact answer_eqGnbUeIdE2sm m0 m1
  case gnbDu.gnbDu m0 m1 => exact answer_eqGnbDuUeIdE2sm m0 m1
  case gnbCuUp.gnbCuUp m0 m1 => exact answer_eqGnbCuUpUeIdE2sm m0 m1
  case ngEnb.ngEnb m0 m1 => exact answer_eqNgEnbUeIdE2sm m0 m1
  case enGnb.enGnb m0 m1 => exact answer_eqEnGnbUeIdE2sm m0 m1
  case enb.enb m0 m1 => exact answer_eqEnbUeIdE2sm m0 m1
  all_goals rfl

end Ue

end FlexRic
