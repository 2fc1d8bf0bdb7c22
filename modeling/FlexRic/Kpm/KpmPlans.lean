import FlexRic.Kpm.Domains
import FlexRic.Ue.UeIdPlans

/-!
# FlexRic.Kpm.KpmPlans

What the comparisons of KPM indication messages and action definitions look at
(`ie/kpm_data_ie`).

* Measured reals are compared up to 0.0001, the reals of bins and tests with `!=`.
* Of two sets of bins, only those of the x-axis are compared.
* `eq_kpm_ind_msg_frm_1` does not look at the measured data, and asserts that all else is equal.
* `answer_eqKpmIndMsg`, `answer_eqKpmActionDef`: the comparisons of the source do what the plans
  say.
-/

namespace FlexRic

namespace Kpm

open Outcome Ue Answers

/-! ## Labels and measurements -/

theorem eqSNssai_iff {m0 m1 : SNssai} : eqSNssai m0 m1 = true ↔ m0 = m1 := by
  cases m0
  cases m1
  simp [eqSNssai]

theorem eqMeasType_iff {m0 m1 : MeasType} : eqMeasType m0 m1 = true ↔ m0 = m1 := by
  cases m0 <;> cases m1 <;> simp [eqMeasType]

namespace Label

/-- The fields that no label may have. -/
def others (l : Label) :=
  (l.qFi, l.qCi, l.qCiMax, l.qCiMin, l.aRpMax, l.aRpMin, l.bitrateRange, l.layerMuMimo, l.sUm,
    l.distBinX, l.distBinY, l.distBinZ, l.preLabelOverride, l.startEndInd, l.min, l.max)

/-- A label without what is not implemented has none of these fields. -/
theorem others_of_unhandled {l : Label} (h : (!l.unhandled) = true) :
    l.others = (none, none, none, none, none, none, none, none, none, none, none, none, none, none,
      none, none) := by
  simp only [unhandled, Bool.not_eq_true', Bool.or_eq_false_iff, Option.isSome_eq_false_iff,
    Option.isNone_iff_eq_none] at h
  simp only [others, h]

/-- The last fields. -/
def indexes (l : Label) := (l.ssbIndex, l.nonGobBeamformModeIndex, l.mimoModeIndex)

/-- A label without indexes has none of them. -/
theorem indexes_of_indexed {l : Label} (h : (!l.indexed) = true) : l.indexes = (none, none, none) := by
  simp only [indexed, Bool.not_eq_true', Bool.or_eq_false_iff, Option.isSome_eq_false_iff,
    Option.isNone_iff_eq_none] at h
  simp only [indexes, h]

/-- `eq_label_info`. -/
def plan : Plan fun l1 l2 : Label => l1 = l2 :=
  ((Plan.equal.on noLabel).both <|
    ((Plan.ofBool eqE2smPlmn fun _ _ => eqE2smPlmn_iff).optional.on plmnId).both <|
    ((Plan.ofBool eqSNssai fun _ _ => eqSNssai_iff).optional.on sliceId).both <|
    (Plan.equal.on fiveQi).both <|
    (Plan.sure (R := fun l1 l2 => l1.others = l2.others) (fun l => !l.unhandled)
      fun _ _ h1 h2 => (others_of_unhandled h1).trans (others_of_unhandled h2).symm).both <|
    (Plan.equal.on avg).both <|
    Plan.sure (R := fun l1 l2 => l1.indexes = l2.indexes) (fun l => !l.indexed)
      fun _ _ h1 h2 => (indexes_of_indexed h1).trans (indexes_of_indexed h2).symm).congr
    fun l1 l2 => by
      cases l1
      cases l2
      simp only [others, indexes, Prod.mk.injEq, mk.injEq]
      tauto

end Label

def measType : Plan fun m0 m1 : MeasType => m0 = m1 := .ofBool eqMeasType fun _ _ => eqMeasType_iff

/-- `eq_meas_info_frm_1`. -/
def MeasInfoFrm1.plan : Plan fun m0 m1 : MeasInfoFrm1 => m0 = m1 :=
  ((Kpm.measType.on measType).both <| Label.plan.array.on labelInfoLst).congr
    fun m0 m1 => by cases m0; cases m1; simp

/-- Measured reals, that may be 0.0001 apart. -/
def measured : Plan fun x y : Float => x = y where
  eq x y := some (!Doubles.apart x y)
  safe _ _ := True
  agree x y := Doubles.apart x y = false
  rest x y := x = y
  clear _ _ := True
  judges x y := (judges_some _).of_iff Iff.rfl Bool.not_eq_eq_eq_not
  complete x y := by
    refine ⟨fun h => ⟨h.2, trivial⟩, fun h => ⟨?_, h.1⟩⟩
    rw [h.1]
    exact Doubles.apart_self y
  rest_of_same _ _ h := h

/-- Reals that are compared with `!=`: a NaN differs from itself, and a zero does not from the
other one. -/
def real : Plan fun x y : Float => x = y where
  eq x y := some (x == y)
  safe _ _ := True
  agree x y := (x == y) = true
  rest x y := x = y
  clear x _ := x.isNaN = false
  judges _ _ := judges_some _
  complete x y := by
    rw [and_comm]
    refine and_congr_right fun h => ?_
    rw [← h, Doubles.beq_self, Bool.not_eq_true']
  rest_of_same _ _ h := h

/-- The kinds of records. -/
def MeasRecord.kind : MeasRecord → UInt32 ⊕ Float ⊕ Nat
  | integer v => .inl v
  | real v => .inr (.inl v)
  | noValue p => .inr (.inr p)

/-- A record is its kind with what is in it. -/
theorem MeasRecord.kind_inj {m0 m1 : MeasRecord} : m0.kind = m1.kind ↔ m0 = m1 := by
  cases m0 <;> cases m1 <;> simp [kind]

/-- A record of `eq_meas_data_lst`. -/
def MeasRecord.plan : Plan fun m0 m1 : MeasRecord => m0 = m1 :=
  ((Plan.equal.kinds <| measured.kinds .equal).on kind).congr fun _ _ => kind_inj

/-- `eq_meas_data_lst`. -/
def MeasData.plan : Plan fun m0 m1 : MeasData => m0 = m1 :=
  ((MeasRecord.plan.array.on measRecordLst).both <| Plan.equal.on incompleteFlag).congr
    fun m0 m1 => by cases m0; cases m1; simp

/-! ## Bins -/

/-- The kinds of starts and ends. -/
def BinRangeValue.kind : BinRangeValue → UInt64 ⊕ Float
  | integer v => .inl v
  | real v => .inr v

/-- The bound of a bin is its kind with what is in it. -/
theorem BinRangeValue.kind_inj {m0 m1 : BinRangeValue} : m0.kind = m1.kind ↔ m0 = m1 := by
  cases m0 <;> cases m1 <;> simp [kind]

/-- The start or the end of a bin. -/
def BinRangeValue.plan : Plan fun m0 m1 : BinRangeValue => m0 = m1 :=
  ((Plan.equal.kinds Kpm.real).on kind).congr fun _ _ => kind_inj

/-- A bin of `eq_kpm_bin_range_def`. -/
def BinDistr.plan : Plan fun m0 m1 : BinDistr => m0 = m1 :=
  ((Plan.equal.on binIndex).both <| (BinRangeValue.plan.on startValue).both <|
    BinRangeValue.plan.on endValue).congr fun m0 m1 => by cases m0; cases m1; simp

/-- The arrays of which nothing but the length may differ, and that is not even so compared. -/
def otherBins : Plan fun m0 m1 : Option (List BinDistr) => m0 = m1 where
  eq m0 m1 := if sameLength m0 m1 then some true else none
  safe m0 m1 := sameLength m0 m1 = true
  agree _ _ := True
  rest m0 m1 := m0 = m1
  clear _ _ := True
  judges m0 m1 := by
    cases sameLength m0 m1 with
    | true => exact (judges_some true).of_iff (iff_of_true trivial rfl) (iff_of_true rfl trivial)
    | false => exact judges_none.of_iff (iff_of_false id Bool.false_ne_true) Iff.rfl
  complete _ _ := and_comm
  rest_of_same _ _ h := h

/-- `eq_kpm_bin_range_def`. -/
def BinRangeDef.plan : Plan fun m0 m1 : BinRangeDef => m0 = m1 :=
  ((BinDistr.plan.array.on binXLst).both <| (otherBins.on binYLst).both <|
    otherBins.on binZLst).congr fun m0 m1 => by cases m0; cases m1; simp

/-- `eq_kpm_meas_bin_range_info`. -/
def MeasBinRangeInfo.plan : Plan fun m0 m1 : MeasBinRangeInfo => m0 = m1 :=
  ((Kpm.measType.on measType).both <| BinRangeDef.plan.on binRangeDef).congr
    fun m0 m1 => by cases m0; cases m1; simp

/-! ## Conditions -/

/-- The kinds of values to test for. -/
def TestCondValue.kind :
    TestCondValue → Int64 ⊕ Int64 ⊕ Bool ⊕ Bytes ⊕ Bytes ⊕ Bytes ⊕ Float
  | intValue v => .inl v
  | enumValue v => .inr (.inl v)
  | boolValue v => .inr (.inr (.inl v))
  | bitStringValue v => .inr (.inr (.inr (.inl v)))
  | octetStringValue v => .inr (.inr (.inr (.inr (.inl v))))
  | printableStringValue v => .inr (.inr (.inr (.inr (.inr (.inl v)))))
  | realValue v => .inr (.inr (.inr (.inr (.inr (.inr v)))))

/-- The value of a test is its kind with what is in it. -/
theorem TestCondValue.kind_inj {m0 m1 : TestCondValue} : m0.kind = m1.kind ↔ m0 = m1 := by
  cases m0 <;> cases m1 <;> simp [kind]

/-- `eq_test_cond_value`. -/
def TestCondValue.plan : Plan fun m0 m1 : TestCondValue => m0 = m1 :=
  ((Plan.equal.kinds <| Plan.equal.kinds <| Plan.equal.kinds <| (Plan.never _).kinds <|
    Plan.equal.kinds <| Plan.equal.kinds real).on kind).congr fun _ _ => kind_inj

/-- `eq_test_info`. -/
def TestInfo.plan : Plan fun m0 m1 : TestInfo => m0 = m1 :=
  ((Plan.equal.on testCondType).both <| (Plan.equal.on cond).both <|
    (Plan.equal.insist.optional.on testCond).both <|
    TestCondValue.plan.insist.optional.on testCondValue).congr
      fun m0 m1 => by cases m0; cases m1; simp

/-- The kinds of conditions. -/
def CondInfo.kind : CondInfo → Label ⊕ TestInfo
  | labelInfo l => .inl l
  | testInfo t => .inr t

/-- A condition is its kind with what is in it. -/
theorem CondInfo.kind_inj {m0 m1 : CondInfo} : m0.kind = m1.kind ↔ m0 = m1 := by
  cases m0 <;> cases m1 <;> simp [kind]

/-- The union of `eq_matching_cond_frm_3`. -/
def CondInfo.plan : Plan fun m0 m1 : CondInfo => m0 = m1 :=
  ((Label.plan.insist.oneKind TestInfo.plan.insist).on kind).congr fun _ _ => kind_inj

/-- `eq_matching_cond_frm_3`. -/
def MatchingCondFrm3.plan : Plan fun m0 m1 : MatchingCondFrm3 => m0 = m1 :=
  ((CondInfo.plan.on cond).both <| Plan.equal.on logicalOr).congr
    fun m0 m1 => by cases m0; cases m1; simp

/-- `eq_matching_cond_frm_4`. -/
def MatchingCondFrm4.plan : Plan fun m0 m1 : MatchingCondFrm4 => m0 = m1 :=
  ((TestInfo.plan.on testInfoLst).both <| Plan.equal.on logicalOr).congr
    fun m0 m1 => by cases m0; cases m1; simp

/-- `eq_meas_info_frm_3`. -/
def MeasInfoFrm3.plan : Plan fun m0 m1 : MeasInfoFrm3 => m0 = m1 :=
  ((Kpm.measType.on measType).both <| (MatchingCondFrm3.plan.array.on matchingCondLst).both <|
    BinRangeDef.plan.pointers.on binRangeDef).congr fun m0 m1 => by cases m0; cases m1; simp

/-- The kinds of granularity periods. -/
def UeIdGranPeriod.kind : UeIdGranPeriod → EnumValue ⊕ List UeId
  | noneMatched v => .inl v
  | oneOrMoreMatched ues => .inr ues

/-- The UEs of a period are their kind with what is in it. -/
theorem UeIdGranPeriod.kind_inj {m0 m1 : UeIdGranPeriod} : m0.kind = m1.kind ↔ m0 = m1 := by
  cases m0 <;> cases m1 <;> simp [kind]

/-- `eq_kpm_ue_id_gran_period_lst`. -/
def UeIdGranPeriod.plan : Plan fun m0 m1 : UeIdGranPeriod => m0 = m1 :=
  ((Plan.equal.kinds UeId.plan.array).on kind).congr fun _ _ => kind_inj

/-- `eq_kpm_meas_info_cond_ue`. -/
def MeasInfoCondUe.plan : Plan fun m0 m1 : MeasInfoCondUe => m0 = m1 :=
  ((Kpm.measType.on measType).both <| (MatchingCondFrm3.plan.array.on matchingCondLst).both <|
    (UeId.plan.array.on ueIdMatchedLst).both <|
    UeIdGranPeriod.plan.arrayUpTo.nullable.on ueIdGranPeriodLst).congr
      fun m0 m1 => by cases m0; cases m1; simp

/-! ## Indication messages and action definitions -/

/-- `eq_kpm_ind_msg_frm_1`; of the measured data, only the length is looked at. -/
def IndMsgFrm1.plan : Plan fun m0 m1 : IndMsgFrm1 => m0 = m1 :=
  ((Plan.equal.on fun m => m.measDataLst.length).both <| ((Plan.unseen (· = ·)).on measDataLst).both <|
    (MeasInfoFrm1.plan.array.insist.on measInfoLst).both <|
    Plan.equal.insist.on granPeriodMs).congr fun m0 m1 => by
      cases m0
      cases m1
      simp only [mk.injEq, and_iff_right_iff_imp]
      exact fun h => congrArg List.length h.1

/-- `eq_kpm_ind_msg_frm_2`. -/
def IndMsgFrm2.plan : Plan fun m0 m1 : IndMsgFrm2 => m0 = m1 :=
  ((Plan.equal.on fun m => m.measDataLst.length).both <|
    (MeasData.plan.array.insist.on measDataLst).both <|
    (MeasInfoCondUe.plan.array.on measInfoCondUeLst).both <| Plan.equal.on granPeriodMs).congr
      fun m0 m1 => by
        cases m0
        cases m1
        simp only [mk.injEq, and_iff_right_iff_imp]
        exact fun h => congrArg List.length h.1

/-- A report of `eq_kpm_ind_msg_frm_3`. -/
def MeasReportPerUe.plan : Plan fun m0 m1 : MeasReportPerUe => m0 = m1 :=
  ((UeId.plan.on ueMeasReportLst).both <| IndMsgFrm1.plan.on indMsgFormat1).congr
    fun m0 m1 => by cases m0; cases m1; simp

/-- `eq_kpm_ind_msg_frm_3`. -/
def IndMsgFrm3.plan : Plan fun m0 m1 : IndMsgFrm3 => m0 = m1 :=
  (MeasReportPerUe.plan.array.on measReportPerUe).congr fun m0 m1 => by cases m0; cases m1; simp

/-- The formats of indication messages. -/
def IndMsg.kind : IndMsg → IndMsgFrm1 ⊕ IndMsgFrm2 ⊕ IndMsgFrm3
  | frm1 m => .inl m
  | frm2 m => .inr (.inl m)
  | frm3 m => .inr (.inr m)

/-- An indication is its format with what is in it. -/
theorem IndMsg.kind_inj {m0 m1 : IndMsg} : m0.kind = m1.kind ↔ m0 = m1 := by
  cases m0 <;> cases m1 <;> simp [kind]

/-- `eq_kpm_ind_msg`: there is no answer to two formats. -/
def IndMsg.plan : Plan fun m0 m1 : IndMsg => m0 = m1 :=
  ((IndMsgFrm1.plan.oneKind <| IndMsgFrm2.plan.oneKind IndMsgFrm3.plan).on kind).congr
    fun _ _ => kind_inj

def cellGlobalId : Plan fun m0 m1 : CellGlobalId => m0 = m1 :=
  .ofBool eqCellGlobalId fun _ _ => eqCellGlobalId_iff

/-- `eq_kpm_action_def_frm_1`. -/
def ActDefFrm1.plan : Plan fun m0 m1 : ActDefFrm1 => m0 = m1 :=
  ((MeasInfoFrm1.plan.array.on measInfoLst).both <| (Plan.equal.on granPeriodMs).both <|
    (Kpm.cellGlobalId.pointers.on cellGlobalId).both <|
    MeasBinRangeInfo.plan.array.nullable.on measBinInfoLst).congr
      fun m0 m1 => by cases m0; cases m1; simp

/-- `eq_kpm_action_def_frm_2`. -/
def ActDefFrm2.plan : Plan fun m0 m1 : ActDefFrm2 => m0 = m1 :=
  ((UeId.plan.on ueId).both <| ActDefFrm1.plan.on actionDefFormat1).congr
    fun m0 m1 => by cases m0; cases m1; simp

/-- `eq_kpm_action_def_frm_3`. -/
def ActDefFrm3.plan : Plan fun m0 m1 : ActDefFrm3 => m0 = m1 :=
  ((MeasInfoFrm3.plan.array.on measInfoLst).both <| (Plan.equal.on granPeriodMs).both <|
    Kpm.cellGlobalId.pointers.on cellGlobalId).congr fun m0 m1 => by cases m0; cases m1; simp

/-- `eq_kpm_action_def_frm_4`. -/
def ActDefFrm4.plan : Plan fun m0 m1 : ActDefFrm4 => m0 = m1 :=
  ((MatchingCondFrm4.plan.array.on matchingCondLst).both <|
    ActDefFrm1.plan.on actionDefFormat1).congr fun m0 m1 => by cases m0; cases m1; simp

/-- `eq_kpm_action_def_frm_5`. -/
def ActDefFrm5.plan : Plan fun m0 m1 : ActDefFrm5 => m0 = m1 :=
  ((UeId.plan.array.on ueIdLst).both <| ActDefFrm1.plan.on actionDefFormat1).congr
    fun m0 m1 => by cases m0; cases m1; simp

/-- The formats of action definitions. -/
def ActDef.kind : ActDef → ActDefFrm1 ⊕ ActDefFrm2 ⊕ ActDefFrm3 ⊕ ActDefFrm4 ⊕ ActDefFrm5
  | frm1 d => .inl d
  | frm2 d => .inr (.inl d)
  | frm3 d => .inr (.inr (.inl d))
  | frm4 d => .inr (.inr (.inr (.inl d)))
  | frm5 d => .inr (.inr (.inr (.inr d)))

/-- An action definition is its format with what is in it. -/
theorem ActDef.kind_inj {m0 m1 : ActDef} : m0.kind = m1.kind ↔ m0 = m1 := by
  cases m0 <;> cases m1 <;> simp [kind]

/-- `eq_kpm_action_def`: there is no answer to two formats. -/
def ActDef.plan : Plan fun m0 m1 : ActDef => m0 = m1 :=
  ((ActDefFrm1.plan.oneKind <| ActDefFrm2.plan.oneKind <| ActDefFrm3.plan.oneKind <|
    ActDefFrm4.plan.oneKind ActDefFrm5.plan).on kind).congr fun _ _ => kind_inj

/-! ## The comparisons do that -/

/-- An optional field is compared by the plan of its value. -/
theorem some_eqOpt {α : Type} {eq : α → α → Bool} {p : Plan fun a b : α => a = b}
    (h : ∀ a b, some (eq a b) = p.eq a b) (a b : Option α) :
    some (eqOpt eq a b) = p.optional.eq a b := by
  cases a <;> cases b
  case some.some a b => exact h a b
  all_goals rfl

/-- **A label**: what is not implemented is asserted away before the rest is compared. -/
theorem answer_eqLabelInfo (l1 l2 : Label) : (eqLabelInfo l1 l2).answer = Label.plan.eq l1 l2 := by
  have hplmn := some_eqOpt (p := .ofBool eqE2smPlmn fun _ _ => eqE2smPlmn_iff) (fun _ _ => rfl)
    l1.plmnId l2.plmnId
  have hslice := some_eqOpt (p := .ofBool eqSNssai fun _ _ => eqSNssai_iff) (fun _ _ => rfl)
    l1.sliceId l2.sliceId
  simp only [eqLabelInfo, answer_both, answer_next, some_and, andThen_assoc, hplmn, hslice,
    Plan.answer_assert, answer_pure, andThen_true, ← Plan.equal_eq]
  rfl

/-- A measurement, then its labels. -/
theorem answer_eqMeasInfoFrm1 (m0 m1 : MeasInfoFrm1) :
    (eqMeasInfoFrm1 m0 m1).answer = MeasInfoFrm1.plan.eq m0 m1 := by
  rw [eqMeasInfoFrm1, answer_both, Plan.answer_array answer_eqLabelInfo]
  rfl

theorem answer_eqMeasRecord (m0 m1 : MeasRecord) :
    some (eqMeasRecord m0 m1) = MeasRecord.plan.eq m0 m1 := by
  cases m0 <;> cases m1
  all_goals rfl

/-- The records of a period, then the flag. -/
theorem answer_eqMeasDataLst (m0 m1 : MeasData) :
    (eqMeasDataLst m0 m1).answer = MeasData.plan.eq m0 m1 := by
  rw [eqMeasDataLst, answer_both, Plan.answer_array answer_eqMeasRecord, answer_next,
    ← Plan.equal_eq]
  rfl

theorem answer_eqBinRangeValue (m0 m1 : BinRangeValue) :
    some (eqBinRangeValue m0 m1) = BinRangeValue.plan.eq m0 m1 := by
  cases m0 <;> cases m1
  all_goals rfl

theorem answer_eqBinDistr (m0 m1 : BinDistr) :
    (Outcome.next (eqBinDistr m0 m1)).answer = BinDistr.plan.eq m0 m1 := by
  simp only [eqBinDistr, answer_next, some_and, andThen_assoc, answer_eqBinRangeValue]
  rfl

/-- The bins of the first axis, then those of the other two. -/
theorem answer_eqKpmBinRangeDef (m0 m1 : BinRangeDef) :
    (eqKpmBinRangeDef m0 m1).answer = BinRangeDef.plan.eq m0 m1 := by
  simp only [eqKpmBinRangeDef, answer_both, Plan.answer_array answer_eqBinDistr,
    Plan.answer_assert, answer_pure, andThen_true]
  rfl

theorem answer_eqKpmMeasBinRangeInfo (m0 m1 : MeasBinRangeInfo) :
    (eqKpmMeasBinRangeInfo m0 m1).answer = MeasBinRangeInfo.plan.eq m0 m1 := by
  rw [eqKpmMeasBinRangeInfo, answer_both, answer_eqKpmBinRangeDef]
  rfl

/-- The value of a test: a bit string is not implemented. -/
theorem answer_eqTestCondValue (m0 m1 : TestCondValue) :
    (eqTestCondValue m0 m1).answer = TestCondValue.plan.eq m0 m1 := by
  cases m0 <;> cases m1
  case octetStringValue.octetStringValue => exact (Plan.equal_eq _ _).symm
  case printableStringValue.printableStringValue => exact (Plan.equal_eq _ _).symm
  all_goals rfl

/-- A part of a test is asserted to be equal. -/
theorem answer_eqTestPart {α : Type} {eq : α → α → Outcome Bool} {p : Plan fun a b : α => a = b}
    (h : ∀ a b, (eq a b).answer = p.eq a b) (a b : Option α) :
    (eqTestPart eq a b).answer = p.insist.optional.eq a b := by
  cases a <;> cases b
  case some.some a b =>
    show (eq a b >>= fun r => _).answer = (p.eq a b).bind _
    rw [← h]
    cases eq a b with
    | next r => cases r <;> rfl
    | abort msg => rfl
    | blocked => rfl
  all_goals rfl

/-- **A test**, part by part. -/
theorem answer_eqTestInfo (m0 m1 : TestInfo) :
    (eqTestInfo m0 m1).answer = TestInfo.plan.eq m0 m1 := by
  have hcond : (eqTestPart (fun a b => .next (a == b)) m0.testCond m1.testCond).answer =
      Plan.equal.insist.optional.eq m0.testCond m1.testCond :=
    answer_eqTestPart (fun _ _ => rfl) m0.testCond m1.testCond
  simp only [eqTestInfo, answer_both, answer_next, some_and, andThen_assoc, hcond,
    answer_eqTestPart answer_eqTestCondValue]
  rfl

/-- The answer for two conditions is dropped: a difference is an assertion that fails. -/
theorem answer_eqCondInfo (m0 m1 : CondInfo) (y : Outcome Bool) :
    (eqCondInfo m0 m1 >>= fun _ => y).answer = andThen (CondInfo.plan.eq m0 m1) y.answer := by
  cases m0 <;> cases m1
  case labelInfo.labelInfo m0 m1 => exact Plan.answer_must (answer_eqLabelInfo m0 m1) y
  case testInfo.testInfo m0 m1 => exact Plan.answer_must (answer_eqTestInfo m0 m1) y
  all_goals rfl

/-- A condition of format 3, then the logical or. -/
theorem answer_eqMatchingCondFrm3 (m0 m1 : MatchingCondFrm3) :
    (eqMatchingCondFrm3 m0 m1).answer = MatchingCondFrm3.plan.eq m0 m1 := by
  rw [eqMatchingCondFrm3, answer_eqCondInfo, answer_pure, ← Plan.equal_eq]
  rfl

theorem answer_eqMatchingCondFrm4 (m0 m1 : MatchingCondFrm4) :
    (eqMatchingCondFrm4 m0 m1).answer = MatchingCondFrm4.plan.eq m0 m1 := by
  rw [eqMatchingCondFrm4, answer_both, answer_eqTestInfo, answer_next, ← Plan.equal_eq]
  rfl

/-- A measurement under conditions, and its bins. -/
theorem answer_eqMeasInfoFrm3 (m0 m1 : MeasInfoFrm3) :
    (eqMeasInfoFrm3 m0 m1).answer = MeasInfoFrm3.plan.eq m0 m1 := by
  rw [eqMeasInfoFrm3, answer_both, answer_both, Plan.answer_array answer_eqMatchingCondFrm3,
    Plan.answer_eqPtr answer_eqKpmBinRangeDef]
  rfl

theorem answer_eqKpmUeIdGranPeriodLst (m0 m1 : UeIdGranPeriod) :
    (eqKpmUeIdGranPeriodLst m0 m1).answer = UeIdGranPeriod.plan.eq m0 m1 := by
  cases m0 <;> cases m1
  case oneOrMoreMatched.oneOrMoreMatched m0 m1 => exact Plan.answer_array answer_eqUeIdE2sm m0 m1
  all_goals rfl

/-- A measurement, its conditions, and the UEs that matched. -/
theorem answer_eqKpmMeasInfoCondUe (m0 m1 : MeasInfoCondUe) :
    (eqKpmMeasInfoCondUe m0 m1).answer = MeasInfoCondUe.plan.eq m0 m1 := by
  have hlst := Plan.nullable_eq (UeIdGranPeriod.plan.arrayUpTo) m0.ueIdGranPeriodLst
    m1.ueIdGranPeriodLst
  rw [eqKpmMeasInfoCondUe, answer_both, answer_both, answer_both,
    Plan.answer_array answer_eqMatchingCondFrm3, Plan.answer_array answer_eqUeIdE2sm,
    Plan.answer_arrayUpTo answer_eqKpmUeIdGranPeriodLst, ← hlst]
  rfl

/-- The data of a message are equal to themselves. -/
theorem each_must_self (ds : List MeasData) :
    Outcome.each (fun d => must (eqMeasDataLst d d)) ds = .next ⟨⟩ := by
  have h : (Outcome.each (fun d => must (eqMeasDataLst d d)) ds).Returns := by
    refine returns_each.mpr fun d _ => ?_
    rw [eqMeasDataLst_self]
    exact returns_next _
  obtain ⟨⟨⟩, h⟩ := h
  exact h

/-- **The plan of format 1 of an indication.** -/
theorem answer_eqKpmIndMsgFrm1 (m0 m1 : IndMsgFrm1) :
    (eqKpmIndMsgFrm1 m0 m1).answer = IndMsgFrm1.plan.eq m0 m1 := by
  rw [eqKpmIndMsgFrm1, answer_both, each_must_self, Outcome.next_bind,
    Plan.answer_must (Plan.answer_array answer_eqMeasInfoFrm1 _ _), Plan.answer_assert,
    ← Plan.equal_insist_eq, answer_pure, andThen_true]
  rfl

/-- **The plan of format 2 of an indication.** -/
theorem answer_eqKpmIndMsgFrm2 (m0 m1 : IndMsgFrm2) :
    (eqKpmIndMsgFrm2 m0 m1).answer = IndMsgFrm2.plan.eq m0 m1 := by
  rw [eqKpmIndMsgFrm2, answer_both, Plan.answer_must (Plan.answer_array answer_eqMeasDataLst _ _),
    answer_both, Plan.answer_array answer_eqKpmMeasInfoCondUe, answer_next, answer_next,
    ← Plan.equal_eq, ← Plan.equal_eq]
  rfl

/-- **and format 3** of an indication, field by field. -/
theorem answer_eqKpmIndMsgFrm3 (m0 m1 : IndMsgFrm3) :
    (eqKpmIndMsgFrm3 m0 m1).answer = IndMsgFrm3.plan.eq m0 m1 := by
  refine Plan.answer_array (fun m0 m1 => ?_) m0.measReportPerUe m1.measReportPerUe
  show (eqMeasReportPerUe m0 m1).answer = MeasReportPerUe.plan.eq m0 m1
  rw [eqMeasReportPerUe, answer_both, answer_eqUeIdE2sm, answer_eqKpmIndMsgFrm1]
  rfl

/-- **The comparison of two indication messages** is what its plan says. -/
theorem answer_eqKpmIndMsg (m0 m1 : IndMsg) :
    (eqKpmIndMsg m0 m1).answer = IndMsg.plan.eq m0 m1 := by
  cases m0 <;> cases m1
  case frm1.frm1 m0 m1 => exact answer_eqKpmIndMsgFrm1 m0 m1
  case frm2.frm2 m0 m1 => exact answer_eqKpmIndMsgFrm2 m0 m1
  case frm3.frm3 m0 m1 => exact answer_eqKpmIndMsgFrm3 m0 m1
  all_goals rfl

theorem answer_eqCellGlobalId (m0 m1 : CellGlobalId) :
    (Outcome.next (eqCellGlobalId m0 m1)).answer = cellGlobalId.eq m0 m1 := rfl

/-- **The plan of format 1 of an action definition**, which formats 2, 4 and 5 contain. -/
theorem answer_eqKpmActionDefFrm1 (m0 m1 : ActDefFrm1) :
    (eqKpmActionDefFrm1 m0 m1).answer = ActDefFrm1.plan.eq m0 m1 := by
  have hbins := Plan.nullable_eq MeasBinRangeInfo.plan.array m0.measBinInfoLst m1.measBinInfoLst
  rw [eqKpmActionDefFrm1, answer_both, answer_both, answer_both,
    Plan.answer_array answer_eqMeasInfoFrm1, Plan.answer_eqPtr answer_eqCellGlobalId,
    Plan.answer_array answer_eqKpmMeasBinRangeInfo, ← hbins]
  rfl

/-- **and format 3.** -/
theorem answer_eqKpmActionDefFrm3 (m0 m1 : ActDefFrm3) :
    (eqKpmActionDefFrm3 m0 m1).answer = ActDefFrm3.plan.eq m0 m1 := by
  rw [eqKpmActionDefFrm3, answer_both, answer_both, Plan.answer_array answer_eqMeasInfoFrm3,
    Plan.answer_eqPtr answer_eqCellGlobalId]
  rfl

/-- **The comparison of two action definitions** is what its plan says. -/
theorem answer_eqKpmActionDef (m0 m1 : ActDef) :
    (eqKpmActionDef m0 m1).answer = ActDef.plan.eq m0 m1 := by
  cases m0 <;> cases m1
  case frm1.frm1 m0 m1 => exact answer_eqKpmActionDefFrm1 m0 m1
  case frm2.frm2 m0 m1 =>
    rw [eqKpmActionDef, eqKpmActionDefFrm2, answer_both, answer_eqUeIdE2sm,
      answer_eqKpmActionDefFrm1]
    rfl
  case frm3.frm3 m0 m1 => exact answer_eqKpmActionDefFrm3 m0 m1
  case frm4.frm4 m0 m1 =>
    rw [eqKpmActionDef, eqKpmActionDefFrm4, answer_both,
      Plan.answer_array answer_eqMatchingCondFrm4, answer_eqKpmActionDefFrm1]
    rfl
  case frm5.frm5 m0 m1 =>
    rw [eqKpmActionDef, eqKpmActionDefFrm5, answer_both, Plan.answer_array answer_eqUeIdE2sm,
      answer_eqKpmActionDefFrm1]
    rfl
  all_goals rfl

end Kpm

end FlexRic
