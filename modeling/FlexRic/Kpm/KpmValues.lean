import FlexRic.Kpm.KpmTypes
import FlexRic.Lib.Doubles

/-!
# FlexRic.Kpm.KpmValues

The copies, comparisons and releases of KPM messages (`ie/kpm_data_ie`).

Each of the three has a list of its own of what it refuses: of a label, the copy
refuses the slice and the 5QI, and the release the average; a copy of measured
data refuses 65535 records and more.  A release that asserts nothing (of UE ids,
bins and octets) is left out.
-/

namespace FlexRic

namespace Kpm

open Outcome Ue

/-- Two optional fields, compared where both are there. -/
def eqOpt {α : Type} (eq : α → α → Bool) : Option α → Option α → Bool
  | none, none => true
  | some a, some b => eq a b
  | _, _ => false

/-! ## Labels -/

/-- One of the last three fields is there. -/
def Label.indexed (l : Label) : Bool :=
  l.ssbIndex.isSome || l.nonGobBeamformModeIndex.isSome || l.mimoModeIndex.isSome

/-- `cp_label_info`. -/
def cpLabelInfo (src : Label) : Outcome Label := do
  assert src.sliceId.isNone "Not implemented"
  assert src.fiveQi.isNone "Not implemented"
  assert (!src.unhandled) "Not implemented"
  assert (!src.indexed) "Not implemented"
  return { noLabel := src.noLabel, plmnId := src.plmnId.map cpE2smPlmn, avg := src.avg }

/-- `eq_s_nssai_e2sm`, of two that are there. -/
def eqSNssai (m0 m1 : SNssai) : Bool := m0.sST == m1.sST && m0.sD == m1.sD

/-- `eq_label_info`. -/
def eqLabelInfo (l1 l2 : Label) : Outcome Bool :=
  both (.next (l1.noLabel == l2.noLabel && eqOpt eqE2smPlmn l1.plmnId l2.plmnId &&
      eqOpt eqSNssai l1.sliceId l2.sliceId && l1.fiveQi == l2.fiveQi)) do
    assert (!l1.unhandled && !l2.unhandled) "Not implemented"
    both (.next (l1.avg == l2.avg)) do
      assert (!l1.indexed && !l2.indexed) "Not implemented"
      return true

/-- `free_label_info`. -/
def freeLabelInfo (l : Label) : Outcome PUnit.{1} := do
  assert (!l.unhandled) "not implemented"
  assert l.avg.isNone "not implemented"

/-! ## Measurements -/

/-- `cp_meas_type`. -/
def cpMeasType : MeasType → MeasType
  | .name name => .name name
  | .id id => .id id

/-- `eq_meas_type`. -/
def eqMeasType : MeasType → MeasType → Bool
  | .name m0, .name m1 => m0 == m1
  | .id m0, .id m1 => m0 == m1
  | _, _ => false

/-- `cp_meas_record_lst`. -/
def cpMeasRecordLst : MeasRecord → Outcome MeasRecord
  | .integer v => return .integer v
  | .real v => return .real v
  | .noValue p => do
    assert (p = 0) "src->no_value == NULL"
    return .noValue 0

/-- A record of `eq_meas_data_lst`. -/
def eqMeasRecord : MeasRecord → MeasRecord → Bool
  | .integer m0, .integer m1 => m0 == m1
  | .real m0, .real m1 => !Doubles.apart m0 m1
  | .noValue m0, .noValue m1 => m0 == m1
  | _, _ => false

/-- `cp_meas_data_lst`. -/
def cpMeasDataLst (src : MeasData) : Outcome MeasData := do
  assert (0 < src.measRecordLst.length ∧ src.measRecordLst.length < 65535)
    "src->meas_record_len > 0 && src->meas_record_len <  65535"
  let records ← walk cpMeasRecordLst src.measRecordLst
  return ⟨records, src.incompleteFlag⟩

/-- `eq_meas_data_lst`. -/
def eqMeasDataLst (m0 m1 : MeasData) : Outcome Bool :=
  both (allEq (fun a b => .next (eqMeasRecord a b)) m0.measRecordLst m1.measRecordLst) <|
    .next (m0.incompleteFlag == m1.incompleteFlag)

/-- `cp_meas_info_format_1_lst`. -/
def cpMeasInfoFormat1Lst (src : MeasInfoFrm1) : Outcome MeasInfoFrm1 := do
  assert (0 < src.labelInfoLst.length) "src->label_info_lst_len > 0"
  let labels ← walk cpLabelInfo src.labelInfoLst
  return ⟨cpMeasType src.measType, labels⟩

/-- `eq_meas_info_frm_1`. -/
def eqMeasInfoFrm1 (m0 m1 : MeasInfoFrm1) : Outcome Bool :=
  both (.next (eqMeasType m0.measType m1.measType)) <|
    allEq eqLabelInfo m0.labelInfoLst m1.labelInfoLst

/-- `free_meas_info_frm_1`. -/
def freeMeasInfoFrm1 (src : MeasInfoFrm1) : Outcome PUnit.{1} := each freeLabelInfo src.labelInfoLst

/-! ## Bins -/

/-- The start or the end of a bin: four octets of an integer. -/
def cpBinRangeValue : BinRangeValue → BinRangeValue
  | .integer v => .integer v.toUInt32.toUInt64
  | .real v => .real v

/-- The start or the end of a bin; reals with the `!=` of C. -/
def eqBinRangeValue : BinRangeValue → BinRangeValue → Bool
  | .integer m0, .integer m1 => m0 == m1
  | .real m0, .real m1 => m0 == m1
  | _, _ => false

/-- `cp_kpm_bin_range_def`. -/
def cpKpmBinRangeDef (src : BinRangeDef) : Outcome BinRangeDef := do
  assert (0 < src.binXLst.length) "src->bin_x_lst_len > 0"
  assert src.binYLst.isNone "Not yet implemented"
  assert src.binZLst.isNone "Not yet implemented"
  return { binXLst := src.binXLst.map fun bin =>
    ⟨bin.binIndex, cpBinRangeValue bin.startValue, cpBinRangeValue bin.endValue⟩ }

/-- A bin of `eq_kpm_bin_range_def`. -/
def eqBinDistr (m0 m1 : BinDistr) : Bool :=
  m0.binIndex == m1.binIndex && eqBinRangeValue m0.startValue m1.startValue &&
    eqBinRangeValue m0.endValue m1.endValue

/-- The arrays that are not compared have the same length, if one is there. -/
def sameLength (m0 m1 : Option (List BinDistr)) : Bool :=
  !((m0.isSome || m1.isSome) && (m0.getD []).length != (m1.getD []).length)

/-- `eq_kpm_bin_range_def`. -/
def eqKpmBinRangeDef (m0 m1 : BinRangeDef) : Outcome Bool :=
  both (allEq (fun a b => .next (eqBinDistr a b)) m0.binXLst m1.binXLst) do
    assert (sameLength m0.binYLst m1.binYLst) "Not yet implemented"
    assert (sameLength m0.binZLst m1.binZLst) "Not yet implemented"
    return true

/-- `cp_kpm_meas_bin_range_info`. -/
def cpKpmMeasBinRangeInfo (src : MeasBinRangeInfo) : Outcome MeasBinRangeInfo := do
  let d ← cpKpmBinRangeDef src.binRangeDef
  return ⟨cpMeasType src.measType, d⟩

/-- `eq_kpm_meas_bin_range_info`. -/
def eqKpmMeasBinRangeInfo (m0 m1 : MeasBinRangeInfo) : Outcome Bool :=
  both (.next (eqMeasType m0.measType m1.measType)) <|
    eqKpmBinRangeDef m0.binRangeDef m1.binRangeDef

/-! ## Conditions -/

/-- `cp_test_cond_value`. -/
def cpTestCondValue : TestCondValue → Outcome TestCondValue
  | .bitStringValue _ => .abort "Not implemented"
  | v => return v

/-- `eq_test_cond_value`, of two that are there. -/
def eqTestCondValue : TestCondValue → TestCondValue → Outcome Bool
  | .intValue m0, .intValue m1 => .next (m0 == m1)
  | .enumValue m0, .enumValue m1 => .next (m0 == m1)
  | .boolValue m0, .boolValue m1 => .next (m0 == m1)
  | .bitStringValue _, .bitStringValue _ => .abort "Not implemented"
  | .octetStringValue m0, .octetStringValue m1 => .next (m0 == m1)
  | .printableStringValue m0, .printableStringValue m1 => .next (m0 == m1)
  | .realValue m0, .realValue m1 => .next (m0 == m1)
  | _, _ => .next false

/-- `free_test_cond_value`. -/
def freeTestCondValue : TestCondValue → Outcome PUnit.{1}
  | .bitStringValue _ => .abort "Not implemented"
  | _ => return ⟨⟩

/-- `cp_kpm_test_info`. -/
def cpKpmTestInfo (src : TestInfo) : Outcome TestInfo := do
  let value ← opt cpTestCondValue src.testCondValue
  return ⟨src.testCondType, src.cond, src.testCond, value⟩

/-- An optional part of a test: a difference is not reported but asserted away. -/
def eqTestPart {α : Type} (eq : α → α → Outcome Bool) : Option α → Option α → Outcome Bool
  | none, none => .next true
  | some a, some b => do
    let b ← eq a b
    assert b "For debugging purposes"
    return true
  | _, _ => .next false

/-- `eq_test_info`. -/
def eqTestInfo (m0 m1 : TestInfo) : Outcome Bool :=
  both (.next (m0.testCondType == m1.testCondType && m0.cond == m1.cond)) <|
    both (eqTestPart (fun a b => .next (a == b)) m0.testCond m1.testCond) <|
      eqTestPart eqTestCondValue m0.testCondValue m1.testCondValue

/-- `free_test_info`. -/
def freeTestInfo (src : TestInfo) : Outcome PUnit.{1} := do
  let _ ← opt freeTestCondValue src.testCondValue
  return ⟨⟩

/-- The union of `cp_kpm_matching_cond_frm_3`. -/
def cpCondInfo : CondInfo → Outcome CondInfo
  | .labelInfo l => do
    let l ← cpLabelInfo l
    return .labelInfo l
  | .testInfo t => do
    let t ← cpKpmTestInfo t
    return .testInfo t

/-- The union of `eq_matching_cond_frm_3`, whose differences are asserted away. -/
def eqCondInfo : CondInfo → CondInfo → Outcome PUnit.{1}
  | .labelInfo m0, .labelInfo m1 => must (eqLabelInfo m0 m1)
  | .testInfo m0, .testInfo m1 => must (eqTestInfo m0 m1)
  | _, _ => .abort "For debugging purposes"

/-- The union of `free_matching_cond_frm_3`. -/
def freeCondInfo : CondInfo → Outcome PUnit.{1}
  | .labelInfo l => freeLabelInfo l
  | .testInfo t => freeTestInfo t

/-- `cp_kpm_matching_cond_frm_3`. -/
def cpKpmMatchingCondFrm3 (src : MatchingCondFrm3) : Outcome MatchingCondFrm3 := do
  let cond ← cpCondInfo src.cond
  assert (src.logicalOr.all (· = .trueValue)) "*src->logical_OR == TRUE_ENUM_VALUE"
  return ⟨cond, src.logicalOr⟩

/-- `eq_matching_cond_frm_3`. -/
def eqMatchingCondFrm3 (m0 m1 : MatchingCondFrm3) : Outcome Bool := do
  eqCondInfo m0.cond m1.cond
  return m0.logicalOr == m1.logicalOr

/-- `free_matching_cond_frm_3`. -/
def freeMatchingCondFrm3 (src : MatchingCondFrm3) : Outcome PUnit.{1} := freeCondInfo src.cond

/-- `cp_matching_cond_frm_4`. -/
def cpMatchingCondFrm4 (src : MatchingCondFrm4) : Outcome MatchingCondFrm4 := do
  let info ← cpKpmTestInfo src.testInfoLst
  return ⟨info, src.logicalOr⟩

/-- `eq_matching_cond_frm_4`. -/
def eqMatchingCondFrm4 (m0 m1 : MatchingCondFrm4) : Outcome Bool :=
  both (eqTestInfo m0.testInfoLst m1.testInfoLst) (.next (m0.logicalOr == m1.logicalOr))

/-- `free_matching_cond_frm_4`. -/
def freeMatchingCondFrm4 (src : MatchingCondFrm4) : Outcome PUnit.{1} := freeTestInfo src.testInfoLst

/-- `cp_meas_info_frm_3`. -/
def cpMeasInfoFrm3 (src : MeasInfoFrm3) : Outcome MeasInfoFrm3 := do
  let conds ← walk cpKpmMatchingCondFrm3 src.matchingCondLst
  let bins ← opt cpKpmBinRangeDef src.binRangeDef
  return ⟨cpMeasType src.measType, conds, bins⟩

/-- `eq_meas_info_frm_3`. -/
def eqMeasInfoFrm3 (m0 m1 : MeasInfoFrm3) : Outcome Bool :=
  both (.next (eqMeasType m0.measType m1.measType)) <|
    both (allEq eqMatchingCondFrm3 m0.matchingCondLst m1.matchingCondLst) <|
      eqPtr eqKpmBinRangeDef m0.binRangeDef m1.binRangeDef

/-- `free_meas_info_frm_3`. -/
def freeMeasInfoFrm3 (src : MeasInfoFrm3) : Outcome PUnit.{1} :=
  each freeMatchingCondFrm3 src.matchingCondLst

/-- `cp_kpm_ue_id_gran_period_lst`. -/
def cpKpmUeIdGranPeriodLst : UeIdGranPeriod → UeIdGranPeriod
  | .noneMatched v => .noneMatched v
  | .oneOrMoreMatched ues => .oneOrMoreMatched (ues.map cpUeIdE2sm)

/-- `eq_kpm_ue_id_gran_period_lst`. -/
def eqKpmUeIdGranPeriodLst : UeIdGranPeriod → UeIdGranPeriod → Outcome Bool
  | .noneMatched m0, .noneMatched m1 => .next (m0 == m1)
  | .oneOrMoreMatched m0, .oneOrMoreMatched m1 => allEq eqUeIdE2sm m0 m1
  | _, _ => .next false

/-- `cp_kpm_meas_info_cond_ue`; an array of no entries is allocated all the
same. -/
def cpKpmMeasInfoCondUe (src : MeasInfoCondUe) : Outcome MeasInfoCondUe := do
  let conds ← walk cpKpmMatchingCondFrm3 src.matchingCondLst
  return ⟨cpMeasType src.measType, conds, src.ueIdMatchedLst.map cpUeIdE2sm,
    some ((src.ueIdGranPeriodLst.getD []).map cpKpmUeIdGranPeriodLst)⟩

/-- `eq_kpm_meas_info_cond_ue`; the lengths of the last arrays are not compared. -/
def eqKpmMeasInfoCondUe (m0 m1 : MeasInfoCondUe) : Outcome Bool :=
  both (.next (eqMeasType m0.measType m1.measType)) <|
    both (allEq eqMatchingCondFrm3 m0.matchingCondLst m1.matchingCondLst) <|
      both (allEq eqUeIdE2sm m0.ueIdMatchedLst m1.ueIdMatchedLst) <|
        allEqUpTo eqKpmUeIdGranPeriodLst (m0.ueIdGranPeriodLst.getD [])
          (m1.ueIdGranPeriodLst.getD [])

/-- `free_kpm_meas_info_cond_ue`. -/
def freeKpmMeasInfoCondUe (src : MeasInfoCondUe) : Outcome PUnit.{1} :=
  each freeMatchingCondFrm3 src.matchingCondLst

/-! ## Indication messages -/

/-- `cp_kpm_ind_msg_frm_1`. -/
def cpKpmIndMsgFrm1 (src : IndMsgFrm1) : Outcome IndMsgFrm1 := do
  assert (0 < src.measDataLst.length ∧ src.measDataLst.length < 65536)
    "src->meas_data_lst_len > 0 && src->meas_data_lst_len < 65536"
  let data ← walk cpMeasDataLst src.measDataLst
  assert (src.measInfoLst.length < 65536) "src->meas_info_lst_len < 65536"
  let infos ← walk cpMeasInfoFormat1Lst src.measInfoLst
  return ⟨data, infos, src.granPeriodMs⟩

/-- `eq_kpm_ind_msg_frm_1`, with the data of `m0` compared with itself and all
later differences asserted away. -/
def eqKpmIndMsgFrm1 (m0 m1 : IndMsgFrm1) : Outcome Bool :=
  both (.next (m0.measDataLst.length == m1.measDataLst.length)) do
    each (fun d => must (eqMeasDataLst d d)) m0.measDataLst
    must (allEq eqMeasInfoFrm1 m0.measInfoLst m1.measInfoLst)
    assert (m0.granPeriodMs == m1.granPeriodMs) "0!=0"
    return true

/-- `free_kpm_ind_msg_frm_1`. -/
def freeKpmIndMsgFrm1 (src : IndMsgFrm1) : Outcome PUnit.{1} := each freeMeasInfoFrm1 src.measInfoLst

/-- `cp_kpm_ind_msg_frm_2`. -/
def cpKpmIndMsgFrm2 (src : IndMsgFrm2) : Outcome IndMsgFrm2 := do
  let data ← walk cpMeasDataLst src.measDataLst
  let infos ← walk cpKpmMeasInfoCondUe src.measInfoCondUeLst
  return ⟨data, infos, src.granPeriodMs⟩

/-- `eq_kpm_ind_msg_frm_2`. -/
def eqKpmIndMsgFrm2 (m0 m1 : IndMsgFrm2) : Outcome Bool :=
  both (.next (m0.measDataLst.length == m1.measDataLst.length)) do
    must (allEq eqMeasDataLst m0.measDataLst m1.measDataLst)
    both (allEq eqKpmMeasInfoCondUe m0.measInfoCondUeLst m1.measInfoCondUeLst) <|
      .next (m0.granPeriodMs == m1.granPeriodMs)

/-- `free_kpm_ind_msg_frm_2`. -/
def freeKpmIndMsgFrm2 (src : IndMsgFrm2) : Outcome PUnit.{1} :=
  each freeKpmMeasInfoCondUe src.measInfoCondUeLst

/-- A report of `cp_kpm_ind_msg_frm_3`. -/
def cpMeasReportPerUe (src : MeasReportPerUe) : Outcome MeasReportPerUe := do
  let msg ← cpKpmIndMsgFrm1 src.indMsgFormat1
  return ⟨cpUeIdE2sm src.ueMeasReportLst, msg⟩

/-- `cp_kpm_ind_msg_frm_3`. -/
def cpKpmIndMsgFrm3 (src : IndMsgFrm3) : Outcome IndMsgFrm3 := do
  let reports ← walk cpMeasReportPerUe src.measReportPerUe
  return ⟨reports⟩

/-- A report of `eq_kpm_ind_msg_frm_3`. -/
def eqMeasReportPerUe (m0 m1 : MeasReportPerUe) : Outcome Bool :=
  both (eqUeIdE2sm m0.ueMeasReportLst m1.ueMeasReportLst) <|
    eqKpmIndMsgFrm1 m0.indMsgFormat1 m1.indMsgFormat1

/-- `eq_kpm_ind_msg_frm_3`. -/
def eqKpmIndMsgFrm3 (m0 m1 : IndMsgFrm3) : Outcome Bool :=
  allEq eqMeasReportPerUe m0.measReportPerUe m1.measReportPerUe

/-- `free_kpm_ind_msg_frm_3`. -/
def freeKpmIndMsgFrm3 (src : IndMsgFrm3) : Outcome PUnit.{1} :=
  each (fun report => freeKpmIndMsgFrm1 report.indMsgFormat1) src.measReportPerUe

/-- `cp_kpm_ind_msg`. -/
def cpKpmIndMsg : IndMsg → Outcome IndMsg
  | .frm1 m => do
    let m ← cpKpmIndMsgFrm1 m
    return .frm1 m
  | .frm2 m => do
    let m ← cpKpmIndMsgFrm2 m
    return .frm2 m
  | .frm3 m => do
    let m ← cpKpmIndMsgFrm3 m
    return .frm3 m

/-- `eq_kpm_ind_msg`. -/
def eqKpmIndMsg : IndMsg → IndMsg → Outcome Bool
  | .frm1 m0, .frm1 m1 => eqKpmIndMsgFrm1 m0 m1
  | .frm2 m0, .frm2 m1 => eqKpmIndMsgFrm2 m0 m1
  | .frm3 m0, .frm3 m1 => eqKpmIndMsgFrm3 m0 m1
  | _, _ => .abort "m0->type == m1->type"

/-- `free_kpm_ind_msg`. -/
def freeKpmIndMsg : IndMsg → Outcome PUnit.{1}
  | .frm1 m => freeKpmIndMsgFrm1 m
  | .frm2 m => freeKpmIndMsgFrm2 m
  | .frm3 m => freeKpmIndMsgFrm3 m

/-! ## Action definitions -/

/-- `cp_kpm_action_def_frm_1`. -/
def cpKpmActionDefFrm1 (src : ActDefFrm1) : Outcome ActDefFrm1 := do
  let infos ← walk cpMeasInfoFormat1Lst src.measInfoLst
  let bins ← opt (walk cpKpmMeasBinRangeInfo) src.measBinInfoLst
  return ⟨infos, src.granPeriodMs, src.cellGlobalId.map cpCellGlobalId, bins⟩

/-- `eq_kpm_action_def_frm_1`. -/
def eqKpmActionDefFrm1 (m0 m1 : ActDefFrm1) : Outcome Bool :=
  both (allEq eqMeasInfoFrm1 m0.measInfoLst m1.measInfoLst) <|
    both (.next (m0.granPeriodMs == m1.granPeriodMs)) <|
      both (eqPtr (fun a b => .next (eqCellGlobalId a b)) m0.cellGlobalId m1.cellGlobalId) <|
        allEq eqKpmMeasBinRangeInfo (m0.measBinInfoLst.getD []) (m1.measBinInfoLst.getD [])

/-- `free_kpm_action_def_frm_1`. -/
def freeKpmActionDefFrm1 (src : ActDefFrm1) : Outcome PUnit.{1} :=
  each freeMeasInfoFrm1 src.measInfoLst

/-- `cp_kpm_action_def_frm_2`. -/
def cpKpmActionDefFrm2 (src : ActDefFrm2) : Outcome ActDefFrm2 := do
  let d ← cpKpmActionDefFrm1 src.actionDefFormat1
  return ⟨cpUeIdE2sm src.ueId, d⟩

/-- `eq_kpm_action_def_frm_2`. -/
def eqKpmActionDefFrm2 (m0 m1 : ActDefFrm2) : Outcome Bool :=
  both (eqUeIdE2sm m0.ueId m1.ueId) (eqKpmActionDefFrm1 m0.actionDefFormat1 m1.actionDefFormat1)

/-- `cp_kpm_action_def_frm_3`. -/
def cpKpmActionDefFrm3 (src : ActDefFrm3) : Outcome ActDefFrm3 := do
  let infos ← walk cpMeasInfoFrm3 src.measInfoLst
  return ⟨infos, src.granPeriodMs, src.cellGlobalId.map cpCellGlobalId⟩

/-- `eq_kpm_action_def_frm_3`. -/
def eqKpmActionDefFrm3 (m0 m1 : ActDefFrm3) : Outcome Bool :=
  both (allEq eqMeasInfoFrm3 m0.measInfoLst m1.measInfoLst) <|
    both (.next (m0.granPeriodMs == m1.granPeriodMs)) <|
      eqPtr (fun a b => .next (eqCellGlobalId a b)) m0.cellGlobalId m1.cellGlobalId

/-- `free_kpm_action_def_frm_3`. -/
def freeKpmActionDefFrm3 (src : ActDefFrm3) : Outcome PUnit.{1} :=
  each freeMeasInfoFrm3 src.measInfoLst

/-- `cp_kpm_action_def_frm_4`. -/
def cpKpmActionDefFrm4 (src : ActDefFrm4) : Outcome ActDefFrm4 := do
  let conds ← walk cpMatchingCondFrm4 src.matchingCondLst
  let d ← cpKpmActionDefFrm1 src.actionDefFormat1
  return ⟨conds, d⟩

/-- `eq_kpm_action_def_frm_4`. -/
def eqKpmActionDefFrm4 (m0 m1 : ActDefFrm4) : Outcome Bool :=
  both (allEq eqMatchingCondFrm4 m0.matchingCondLst m1.matchingCondLst) <|
    eqKpmActionDefFrm1 m0.actionDefFormat1 m1.actionDefFormat1

/-- `free_kpm_action_def_frm_4`. -/
def freeKpmActionDefFrm4 (src : ActDefFrm4) : Outcome PUnit.{1} := do
  each freeMatchingCondFrm4 src.matchingCondLst
  freeKpmActionDefFrm1 src.actionDefFormat1

/-- `cp_kpm_action_def_frm_5`. -/
def cpKpmActionDefFrm5 (src : ActDefFrm5) : Outcome ActDefFrm5 := do
  let d ← cpKpmActionDefFrm1 src.actionDefFormat1
  return ⟨src.ueIdLst.map cpUeIdE2sm, d⟩

/-- `eq_kpm_action_def_frm_5`. -/
def eqKpmActionDefFrm5 (m0 m1 : ActDefFrm5) : Outcome Bool :=
  both (allEq eqUeIdE2sm m0.ueIdLst m1.ueIdLst) <|
    eqKpmActionDefFrm1 m0.actionDefFormat1 m1.actionDefFormat1

/-- `cp_kpm_action_def`. -/
def cpKpmActionDef : ActDef → Outcome ActDef
  | .frm1 d => do
    let d ← cpKpmActionDefFrm1 d
    return .frm1 d
  | .frm2 d => do
    let d ← cpKpmActionDefFrm2 d
    return .frm2 d
  | .frm3 d => do
    let d ← cpKpmActionDefFrm3 d
    return .frm3 d
  | .frm4 d => do
    let d ← cpKpmActionDefFrm4 d
    return .frm4 d
  | .frm5 d => do
    let d ← cpKpmActionDefFrm5 d
    return .frm5 d

/-- `eq_kpm_action_def`. -/
def eqKpmActionDef : ActDef → ActDef → Outcome Bool
  | .frm1 m0, .frm1 m1 => eqKpmActionDefFrm1 m0 m1
  | .frm2 m0, .frm2 m1 => eqKpmActionDefFrm2 m0 m1
  | .frm3 m0, .frm3 m1 => eqKpmActionDefFrm3 m0 m1
  | .frm4 m0, .frm4 m1 => eqKpmActionDefFrm4 m0 m1
  | .frm5 m0, .frm5 m1 => eqKpmActionDefFrm5 m0 m1
  | _, _ => .abort "m0->type == m1->type"

/-- `free_kpm_action_def`; formats 2 and 5 hold UE ids beside a format 1. -/
def freeKpmActionDef : ActDef → Outcome PUnit.{1}
  | .frm1 d => freeKpmActionDefFrm1 d
  | .frm2 d => freeKpmActionDefFrm1 d.actionDefFormat1
  | .frm3 d => freeKpmActionDefFrm3 d
  | .frm4 d => freeKpmActionDefFrm4 d
  | .frm5 d => freeKpmActionDefFrm1 d.actionDefFormat1

end Kpm

end FlexRic
