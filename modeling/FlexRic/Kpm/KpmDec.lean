import FlexRic.Kpm.KpmEnc

/-!
# FlexRic.Kpm.KpmDec

The decoders of the KPM service model, v2.03 (`dec/kpm_dec_asn.c`,
`dec/dec_asn`, `dec/dec_asn_kpm_common`): from the octets to the structure, and
from that to a value.

The choices that have no alternative present are refused but for two, where the
zeroes of a fresh value stay: the bounds of a bin, and the UEs matched in a
granularity period.
-/

namespace FlexRic

namespace Kpm

open Outcome Ue

/-! ## Fields -/

/-- `(uint8_t)v` of a `long`. -/
def longToU8 (v : Int) : UInt8 := (v % 256).toNat.toUInt8

/-- The optional enumerations of one value, where the decoder looks at it. -/
def decTrue (v : Int) : Outcome EnumValue := do
  assert (v = 0) "has only one value (true)"
  return .trueValue

/-- `BUFFER_TO_INT24`. -/
def bufferToInt24 (buf : Bytes) : UInt32 :=
  (octet buf 0 <<< 16 ||| octet buf 1 <<< 8 ||| octet buf 2).toUInt32

/-- The slice of a label. -/
def decSNssai (s : SNssaiAsn) : SNssai := ⟨(octet s.sST 0).toUInt8, s.sD.map bufferToInt24⟩

/-- One of the sixteen fields is present that the decoder refuses. -/
def LabelAsn.unhandled (l : LabelAsn) : Bool :=
  l.qFi.isSome || l.qCi.isSome || l.qCiMax.isSome || l.qCiMin.isSome || l.aRpMax.isSome ||
    l.aRpMin.isSome || l.bitrateRange.isSome || l.layerMuMimo.isSome || l.sUm.isSome ||
    l.distBinX.isSome || l.distBinY.isSome || l.distBinZ.isSome || l.preLabelOverride.isSome ||
    l.startEndInd.isSome || l.min.isSome || l.max.isSome

/-- `kpm_dec_label_info_asn`. -/
def kpmDecLabelInfoAsn (label : LabelAsn) : Outcome Label := do
  assert (!label.unhandled) "not implemented"
  return {
    noLabel := label.noLabel.map fun _ => .trueValue
    plmnId := label.plmnId.map plmnidToMccMnc
    sliceId := label.sliceId.map decSNssai
    fiveQi := label.fiveQi.map longToU8
    avg := label.avg.map fun _ => .trueValue }

/-- The type of a measurement. -/
def decMeasType : MeasTypeAsn → Outcome MeasType
  | .measName name => return .name name
  | .measId id => return .id (longToU16 id)
  | .nothing => .abort "Unknown Measurement Type"

/-- The granularity period of an action definition or an indication. -/
def decGranPeriod (v : UInt64) : Outcome UInt32 := do
  assert (1 ≤ v.toUInt32 ∧ v.toUInt32.toUInt64 ≤ 4294967295)
    "gran_period_ms >= min_val_GranularityPeriod && gran_period_ms <= max_val_GranularityPeriod"
  return v.toUInt32

/-! ## Measurements -/

/-- The body of `kpm_dec_meas_info_asn`. -/
def kpmDecMeasInfoAsn (info : MeasInfoAsn) : Outcome MeasInfoFrm1 := do
  let measType ← decMeasType info.measType
  let labels ← sized 1 maxLabelInfo kpmDecLabelInfoAsn info.labelInfoList
  return ⟨measType, labels⟩

/-- A record of `kpm_dec_meas_data_asn`. -/
def decMeasRecord : MeasRecordAsn → Outcome MeasRecord
  | .integer v => return .integer v.toUInt32
  | .real v => return .real v
  | .noValue _ => return .noValue 0
  | .nothing => .abort "Non valid Measurement Record type"

/-- The body of `kpm_dec_meas_data_asn`. -/
def kpmDecMeasDataAsn (data : MeasDataAsn) : Outcome MeasData := do
  let records ← sized 1 maxMeasurementValue decMeasRecord data.measRecord
  let flag ← opt decTrue data.incompleteFlag
  return ⟨records, flag⟩

/-- The start or the end of a bin. -/
def decBinRangeValue : BinRangeValueAsn → BinRangeValue
  | .valueInt v => .integer (v % 2 ^ 32).toNat.toUInt64
  | .valueReal v => .real v
  | .nothing => .integer 0

/-- A bin. -/
def decBinDistr (bin : BinRangeItemAsn) : Outcome BinDistr :=
  return ⟨longToU16 bin.binIndex, decBinRangeValue bin.startValue, decBinRangeValue bin.endValue⟩

/-- `kpm_dec_bin_range_def`. -/
def kpmDecBinRangeDef (d : BinRangeDefAsn) : Outcome BinRangeDef := do
  let xs ← sized 1 maxBin decBinDistr d.binRangeListX
  assert d.binRangeListY.isNone "Not yet implemented"
  assert d.binRangeListZ.isNone "Not yet implemented"
  return { binXLst := xs }

/-- `kpm_dec_meas_bin_range_item`. -/
def kpmDecMeasBinRangeItem (item : MeasBinRangeInfoAsn) : Outcome MeasBinRangeInfo := do
  let measType ← decMeasType item.measType
  let d ← kpmDecBinRangeDef item.binRangeDef
  return ⟨measType, d⟩

/-! ## Conditions -/

/-- The alternative that is present, and its enumerator. -/
def decTestCondType : TestCondTypeAsn → Outcome (TestCondType × CondType)
  | .present t v => return (t, if v = 0 then .trueCond else .endCond)
  | .nothing => .abort "Condition type out of the range"

/-- The comparison of a test condition. -/
def decTestCond (v : Int) : Outcome TestCond :=
  if v = 0 then .next .equal
  else if v = 1 then .next .greaterThan
  else if v = 2 then .next .lessThan
  else if v = 3 then .next .contains
  else if v = 4 then .next .present
  else .abort "Unknown test condition enum type"

/-- The value of a test condition. -/
def decTestCondValue : TestCondValueAsn → Outcome TestCondValue
  | .valueInt v => return .intValue (.ofInt v)
  | .valueEnum v => return .enumValue (.ofInt v)
  | .valueBool v => return .boolValue (v ≠ 0)
  | .valueBitS _ => .abort "Not implemented"
  | .valueOctS v => return .octetStringValue v
  | .valuePrtS v => return .printableStringValue v
  | .valueReal v => return .realValue v
  | .nothing => .abort "Unknown type"

/-- `kpm_dec_test_info_asn`. -/
def kpmDecTestInfoAsn (info : TestInfoAsn) : Outcome TestInfo := do
  let type ← decTestCondType info.testType
  let cond ← opt decTestCond info.testExpr
  let value ← opt decTestCondValue info.testValue
  return ⟨type.1, type.2, cond, value⟩

/-- The choice of `kpm_dec_matching_cond_asn`. -/
def decCondInfo : CondInfoAsn → Outcome CondInfo
  | .measLabel l => do
    let l ← kpmDecLabelInfoAsn l
    return .labelInfo l
  | .testCondInfo t => do
    let t ← kpmDecTestInfoAsn t
    return .testInfo t
  | .nothing => .abort "Condition type out of the range"

/-- `kpm_dec_matching_cond_asn`. -/
def kpmDecMatchingCondAsn (cond : MatchingCondAsn) : Outcome MatchingCondFrm3 := do
  let choice ← decCondInfo cond.matchingCondChoice
  let logicalOr ← opt decTrue cond.logicalOr
  return ⟨choice, logicalOr⟩

/-- `kpm_dec_matching_cond_frm_4_asn`. -/
def kpmDecMatchingCondFrm4Asn (cond : MatchingUeCondAsn) : Outcome MatchingCondFrm4 := do
  let info ← kpmDecTestInfoAsn cond.testCondInfo
  return ⟨info, none⟩

/-- The body of `kpm_dec_meas_info_cond_asn`. -/
def kpmDecMeasInfoCondAsn (info : MeasInfoFrm3Asn) : Outcome MeasInfoFrm3 := do
  let measType ← decMeasType info.measType
  let conds ← sized 1 maxConditionInfo kpmDecMatchingCondAsn info.matchingCond
  let bins ← opt kpmDecBinRangeDef info.binRangeDef
  return ⟨measType, conds, bins⟩

/-- The UEs matched in a granularity period. -/
def decUeIdGranPeriod : UeIdGranPeriodAsn → Outcome UeIdGranPeriod
  | .noUeMatched _ => return .noneMatched .trueValue
  | .oneOrMoreUeMatched ues => do
    let ues ← sized 1 maxUeId decUeIdAsn ues
    return .oneOrMoreMatched ues
  | .nothing => return .noneMatched .trueValue

/-- An array that may have been left out. -/
def decNonempty {α β : Type} (f : List α → Outcome (List β)) : Option (List α) → Outcome (List β)
  | some xs => f xs
  | none => return []

/-- The body of `kpm_dec_meas_info_cond_ue_asn`. -/
def kpmDecMeasInfoCondUeAsn (info : MeasInfoCondUeAsn) : Outcome MeasInfoCondUe := do
  let measType ← decMeasType info.measType
  let conds ← sized 1 maxConditionInfo kpmDecMatchingCondAsn info.matchingCond
  let ues ← decNonempty (sized 1 maxUeId decUeIdAsn) info.matchingUeIdList
  let periods ← opt (sized 1 maxUeId decUeIdGranPeriod) info.matchingUeIdPerGp
  return ⟨measType, conds, ues, periods⟩

/-! ## Indication messages -/

/-- `kpm_dec_ind_msg_frm_1_asn`. -/
def kpmDecIndMsgFrm1Asn (msg : IndMsgFrm1Asn) : Outcome IndMsgFrm1 := do
  let data ← sized 1 maxMeasurementRecord kpmDecMeasDataAsn msg.measData
  let infos ← decNonempty (walk kpmDecMeasInfoAsn) msg.measInfoList
  let period ← opt decGranPeriod msg.granulPeriod
  return ⟨data, infos, period⟩

/-- `kpm_dec_ind_msg_frm_2_asn`. -/
def kpmDecIndMsgFrm2Asn (msg : IndMsgFrm2Asn) : Outcome IndMsgFrm2 := do
  let data ← sized 1 maxMeasurementRecord kpmDecMeasDataAsn msg.measData
  let infos ← sized 1 maxMeasurementInfo kpmDecMeasInfoCondUeAsn msg.measCondUeIdList
  let period ← opt decGranPeriod msg.granulPeriod
  return ⟨data, infos, period⟩

/-- A report of `kpm_dec_ind_msg_frm_3_asn`. -/
def decMeasReportPerUe (report : MeasReportPerUeAsn) : Outcome MeasReportPerUe := do
  let ue ← decUeIdAsn report.ueId
  let msg ← kpmDecIndMsgFrm1Asn report.measReport
  return ⟨ue, msg⟩

/-- `kpm_dec_ind_msg_frm_3_asn`. -/
def kpmDecIndMsgFrm3Asn (msg : IndMsgFrm3Asn) : Outcome IndMsgFrm3 := do
  let reports ← sized 1 maxUeMeasReport decMeasReportPerUe msg.ueMeasReportList
  return ⟨reports⟩

/-- What `kpm_dec_ind_msg_asn` makes of the structure. -/
def indMsgOfPdu : IndMsgAsn → Outcome IndMsg
  | .format1 m => do
    let m ← kpmDecIndMsgFrm1Asn m
    return .frm1 m
  | .format2 m => do
    let m ← kpmDecIndMsgFrm2Asn m
    return .frm2 m
  | .format3 m => do
    let m ← kpmDecIndMsgFrm3Asn m
    return .frm3 m
  | .nothing => .abort "Non valid KPM RIC Indication Message Format"

/-! ## Action definitions -/

/-- `kpm_dec_action_def_frm_1_asn`. -/
def kpmDecActionDefFrm1Asn (d : ActDefFrm1Asn) : Outcome ActDefFrm1 := do
  let infos ← sized 1 maxMeasurementInfo kpmDecMeasInfoAsn d.measInfoList
  let period ← decGranPeriod d.granulPeriod
  let cell ← opt decCellGlobalIdAsn d.cellGlobalId
  let bins ← opt (sized 1 maxBin kpmDecMeasBinRangeItem) d.distMeasBinRangeInfo
  return ⟨infos, period, cell, bins⟩

/-- `kpm_dec_action_def_frm_2_asn`. -/
def kpmDecActionDefFrm2Asn (d : ActDefFrm2Asn) : Outcome ActDefFrm2 := do
  let ue ← decUeIdAsn d.ueId
  let info ← kpmDecActionDefFrm1Asn d.subscriptInfo
  return ⟨ue, info⟩

/-- `kpm_dec_action_def_frm_3_asn`. -/
def kpmDecActionDefFrm3Asn (d : ActDefFrm3Asn) : Outcome ActDefFrm3 := do
  let infos ← sized 1 maxMeasurementInfo kpmDecMeasInfoCondAsn d.measCondList
  let period ← decGranPeriod d.granulPeriod
  let cell ← opt decCellGlobalIdAsn d.cellGlobalId
  return ⟨infos, period, cell⟩

/-- `kpm_dec_action_def_frm_4_asn`. -/
def kpmDecActionDefFrm4Asn (d : ActDefFrm4Asn) : Outcome ActDefFrm4 := do
  let conds ← sized 1 maxConditionInfoPerSub kpmDecMatchingCondFrm4Asn d.matchingUeCondList
  let info ← kpmDecActionDefFrm1Asn d.subscriptionInfo
  return ⟨conds, info⟩

/-- `kpm_dec_action_def_frm_5_asn`. -/
def kpmDecActionDefFrm5Asn (d : ActDefFrm5Asn) : Outcome ActDefFrm5 := do
  let ues ← sized 2 maxUeIdPerSub decUeIdAsn d.matchingUeIdList
  let info ← kpmDecActionDefFrm1Asn d.subscriptionInfo
  return ⟨ues, info⟩

/-- What `kpm_dec_action_def_asn` makes of the structure. -/
def actionDefOfPdu (pdu : ActDefAsn) : Outcome ActDef :=
  match pdu.actionDefinitionFormats with
  | .format1 d => do
    let d ← kpmDecActionDefFrm1Asn d
    return .frm1 d
  | .format2 d => do
    let d ← kpmDecActionDefFrm2Asn d
    return .frm2 d
  | .format3 d => do
    let d ← kpmDecActionDefFrm3Asn d
    return .frm3 d
  | .format4 d => do
    let d ← kpmDecActionDefFrm4Asn d
    return .frm4 d
  | .format5 d => do
    let d ← kpmDecActionDefFrm5Asn d
    return .frm5 d
  | .nothing => .abort "Non valid KPM RIC Action Definition Format"

/-! ## The buffer -/

/-- The front of every decoder of `kpm_dec_asn.c`. -/
def decode {Pdu Buf : Type} (rt : Asn1c Pdu Buf) (b : Buf) : Outcome Pdu := do
  assert (0 < rt.length b) "len>0"
  expect (rt.decode b) "Are you sending data in ATS_ALIGNED_BASIC_PER syntax?"

/-- `kpm_dec_ind_msg_asn`. -/
def kpmDecIndMsgAsn {Buf : Type} (rt : Asn1c IndMsgAsn Buf) (b : Buf) : Outcome IndMsg := do
  let pdu ← decode rt b
  indMsgOfPdu pdu

/-- `kpm_dec_action_def_asn`. -/
def kpmDecActionDefAsn {Buf : Type} (rt : Asn1c ActDefAsn Buf) (b : Buf) : Outcome ActDef := do
  let pdu ← decode rt b
  actionDefOfPdu pdu

end Kpm

end FlexRic
