import FlexRic.Codec.Pdu
import FlexRic.Codec.SetupDec
import FlexRic.Kpm.KpmTypes
import FlexRic.Ue.UeIdCodec

/-!
# FlexRic.Kpm.KpmEnc

The encoders of the KPM service model, v2.03 (`enc/kpm_enc_asn.c`,
`enc/enc_asn`, `enc/enc_asn_kpm_common`): from a value to the structure, and the
structure through the runtime into a buffer of 4 KiB.

* A label with `noLabel` is encoded as that and nothing else.  Of the other
  fields, sixteen are refused and three (`ssbIndex` and the two after it) are
  not looked at.
* Integers of bins lose what is above 32 bits, slice differentiators what is
  above 24.
-/

namespace FlexRic

namespace Outcome

/-- The loop over an array whose length is checked first. -/
def sized {α β : Type} (lo hi : Nat) (f : α → Outcome β) (xs : List α) :
    Outcome (List β) := do
  assert (lo ≤ xs.length ∧ xs.length ≤ hi) "len >= lo && len <= hi"
  walk f xs

end Outcome

namespace Kpm

open Outcome Ue

/-! ## Bounds -/

/-- `maxnoofMeasurementInfo`. -/
def maxMeasurementInfo : Nat := 65535

/-- `maxnoofLabelInfo`. -/
def maxLabelInfo : Nat := 2147483647

/-- `maxnoofMeasurementRecord`. -/
def maxMeasurementRecord : Nat := 65535

/-- `maxnoofMeasurementValue`. -/
def maxMeasurementValue : Nat := 2147483647

/-- `maxnoofConditionInfo`. -/
def maxConditionInfo : Nat := 32768

/-- `maxnoofUEID`. -/
def maxUeId : Nat := 65535

/-- `maxnoofConditionInfoPerSub`. -/
def maxConditionInfoPerSub : Nat := 32768

/-- `maxnoofUEIDPerSub`. -/
def maxUeIdPerSub : Nat := 65535

/-- `maxnoofUEMeasReport`. -/
def maxUeMeasReport : Nat := 65535

/-- `maxnoofBin`. -/
def maxBin : Nat := 65535

/-! ## Fields -/

/-- The optional enumerations of one value. -/
def encTrue (v : EnumValue) : Outcome Int := do
  assert (v = .trueValue) "has only one value (true)"
  return 0

/-- `INT24_TO_BUFFER`. -/
def int24ToBuffer (x : UInt32) : Bytes :=
  [(x.toNat >>> 16).toUInt8, (x.toNat >>> 8).toUInt8, x.toNat.toUInt8]

/-- The slice of a label. -/
def encSNssai (s : SNssai) : SNssaiAsn := ⟨[s.sST], s.sD.map int24ToBuffer⟩

/-- `kpm_enc_label_info_asn`. -/
def kpmEncLabelInfoAsn (label : Label) : Outcome LabelAsn :=
  match label.noLabel with
  | some v => do
    let noLabel ← encTrue v
    return { noLabel := some noLabel }
  | none => do
    assert (!label.unhandled) "not implemented"
    let avg ← opt encTrue label.avg
    return {
      plmnId := label.plmnId.map mccMncToPlmnid
      sliceId := label.sliceId.map encSNssai
      fiveQi := label.fiveQi.map fun v => (v.toNat : Int)
      avg := avg }

/-- The type of a measurement, by name or by id. -/
def encMeasType : MeasType → MeasTypeAsn
  | .name name => .measName name
  | .id id => .measId id.toNat

/-- The granularity period of an action definition or an indication. -/
def encGranPeriod (ms : UInt32) : Outcome UInt64 := do
  assert (1 ≤ ms.toUInt64 ∧ ms.toUInt64 ≤ 4294967295)
    "granulPeriod >= min_val_GranularityPeriod && granulPeriod <= max_val_GranularityPeriod"
  return ms.toUInt64

/-! ## Measurements -/

/-- The body of `kpm_enc_meas_info_asn`. -/
def kpmEncMeasInfoAsn (info : MeasInfoFrm1) : Outcome MeasInfoAsn := do
  let labels ← sized 1 maxLabelInfo kpmEncLabelInfoAsn info.labelInfoLst
  return ⟨encMeasType info.measType, labels⟩

/-- A record of `kpm_enc_meas_data_asn`. -/
def encMeasRecord : MeasRecord → Outcome MeasRecordAsn
  | .integer v => return .integer v.toUInt64
  | .real v => return .real v
  | .noValue _ => return .noValue 0

/-- The body of `kpm_enc_meas_data_asn`. -/
def kpmEncMeasDataAsn (data : MeasData) : Outcome MeasDataAsn := do
  let records ← sized 1 maxMeasurementValue encMeasRecord data.measRecordLst
  let flag ← opt encTrue data.incompleteFlag
  return ⟨records, flag⟩

/-- The start or the end of a bin: `memcpy` of four octets of an integer. -/
def encBinRangeValue : BinRangeValue → BinRangeValueAsn
  | .integer v => .valueInt (v.toNat % 2 ^ 32 : Nat)
  | .real v => .valueReal v

/-- A bin. -/
def encBinDistr (bin : BinDistr) : Outcome BinRangeItemAsn :=
  return ⟨bin.binIndex.toNat, encBinRangeValue bin.startValue, encBinRangeValue bin.endValue⟩

/-- `kpm_enc_bin_range_def`. -/
def kpmEncBinRangeDef (d : BinRangeDef) : Outcome BinRangeDefAsn := do
  let xs ← sized 1 maxBin encBinDistr d.binXLst
  assert d.binYLst.isNone "Not yet implemented"
  assert d.binZLst.isNone "Not yet implemented"
  return { binRangeListX := xs }

/-- `kpm_enc_meas_bin_range_item`. -/
def kpmEncMeasBinRangeItem (item : MeasBinRangeInfo) : Outcome MeasBinRangeInfoAsn := do
  let d ← kpmEncBinRangeDef item.binRangeDef
  return ⟨encMeasType item.measType, d⟩

/-! ## Conditions -/

/-- The enumerators of `cond_type_e` and of `TestCond_Expression`. -/
def CondType.code : CondType → Int
  | trueCond => 0
  | endCond => 1

def TestCond.code : TestCond → Int
  | equal => 0
  | greaterThan => 1
  | lessThan => 2
  | contains => 3
  | present => 4

/-- The value of a test condition. -/
def encTestCondValue : TestCondValue → Outcome TestCondValueAsn
  | .intValue v => return .valueInt v.toInt
  | .enumValue v => return .valueEnum v.toInt
  | .boolValue v => return .valueBool (if v then 1 else 0)
  | .bitStringValue _ => .abort "Bit string not implemented"
  | .octetStringValue v => return .valueOctS v
  | .printableStringValue v => return .valuePrtS v
  | .realValue v => return .valueReal v

/-- `kpm_enc_test_info_asn`. -/
def kpmEncTestInfoAsn (info : TestInfo) : Outcome TestInfoAsn := do
  let value ← opt encTestCondValue info.testCondValue
  return ⟨.present info.testCondType info.cond.code, info.testCond.map TestCond.code, value⟩

/-- The choice of `kpm_enc_matching_cond_asn`. -/
def encCondInfo : CondInfo → Outcome CondInfoAsn
  | .labelInfo l => do
    let l ← kpmEncLabelInfoAsn l
    return .measLabel l
  | .testInfo t => do
    let t ← kpmEncTestInfoAsn t
    return .testCondInfo t

/-- `kpm_enc_matching_cond_asn`. -/
def kpmEncMatchingCondAsn (cond : MatchingCondFrm3) : Outcome MatchingCondAsn := do
  let choice ← encCondInfo cond.cond
  let logicalOr ← opt encTrue cond.logicalOr
  return ⟨choice, logicalOr⟩

/-- `kpm_enc_matching_cond_frm_4_asn`. -/
def kpmEncMatchingCondFrm4Asn (cond : MatchingCondFrm4) : Outcome MatchingUeCondAsn := do
  let info ← kpmEncTestInfoAsn cond.testInfoLst
  assert cond.logicalOr.isNone "Encryption of logical OR not yet implemented"
  return ⟨info, none⟩

/-- The body of `kpm_enc_meas_info_cond_asn`. -/
def kpmEncMeasInfoCondAsn (info : MeasInfoFrm3) : Outcome MeasInfoFrm3Asn := do
  let conds ← sized 1 maxConditionInfo kpmEncMatchingCondAsn info.matchingCondLst
  let bins ← opt kpmEncBinRangeDef info.binRangeDef
  return ⟨encMeasType info.measType, conds, bins⟩

/-- `kpm_enc_ue_id_gran_period_asn`. -/
def kpmEncUeIdGranPeriodAsn : UeIdGranPeriod → Outcome UeIdGranPeriodAsn
  | .noneMatched _ => return .noUeMatched 0
  | .oneOrMoreMatched ues => do
    let ues ← sized 1 maxUeId encUeIdAsn ues
    return .oneOrMoreUeMatched ues

/-- An array that is left out where it is empty. -/
def encNonempty {α β : Type} (f : List α → Outcome (List β)) (xs : List α) :
    Outcome (Option (List β)) :=
  if xs.length ≠ 0 then do
    let ys ← f xs
    return some ys
  else
    return none

/-- The body of `kpm_enc_meas_info_cond_ue_asn`. -/
def kpmEncMeasInfoCondUeAsn (info : MeasInfoCondUe) : Outcome MeasInfoCondUeAsn := do
  let conds ← sized 1 maxConditionInfo kpmEncMatchingCondAsn info.matchingCondLst
  let ues ← encNonempty (sized 1 maxUeId encUeIdAsn) info.ueIdMatchedLst
  let periods ← opt (sized 1 maxUeId kpmEncUeIdGranPeriodAsn) info.ueIdGranPeriodLst
  return ⟨encMeasType info.measType, conds, ues, periods⟩

/-! ## Indication messages -/

/-- `kpm_enc_ind_msg_frm_1_asn`. -/
def kpmEncIndMsgFrm1Asn (msg : IndMsgFrm1) : Outcome IndMsgFrm1Asn := do
  let data ← sized 1 maxMeasurementRecord kpmEncMeasDataAsn msg.measDataLst
  let infos ← encNonempty (sized 1 maxMeasurementInfo kpmEncMeasInfoAsn) msg.measInfoLst
  let period ← opt encGranPeriod msg.granPeriodMs
  return ⟨data, infos, period⟩

/-- `kpm_enc_ind_msg_frm_2_asn`. -/
def kpmEncIndMsgFrm2Asn (msg : IndMsgFrm2) : Outcome IndMsgFrm2Asn := do
  let data ← sized 1 maxMeasurementRecord kpmEncMeasDataAsn msg.measDataLst
  let infos ← sized 1 maxMeasurementInfo kpmEncMeasInfoCondUeAsn msg.measInfoCondUeLst
  let period ← opt encGranPeriod msg.granPeriodMs
  return ⟨data, infos, period⟩

/-- A report of `kpm_enc_ind_msg_frm_3_asn`. -/
def encMeasReportPerUe (report : MeasReportPerUe) : Outcome MeasReportPerUeAsn := do
  let ue ← encUeIdAsn report.ueMeasReportLst
  let msg ← kpmEncIndMsgFrm1Asn report.indMsgFormat1
  return ⟨ue, msg⟩

/-- `kpm_enc_ind_msg_frm_3_asn`. -/
def kpmEncIndMsgFrm3Asn (msg : IndMsgFrm3) : Outcome IndMsgFrm3Asn := do
  let reports ← sized 1 maxUeMeasReport encMeasReportPerUe msg.measReportPerUe
  return ⟨reports⟩

/-- The structure of `kpm_enc_ind_msg_asn`. -/
def indMsgPdu : IndMsg → Outcome IndMsgAsn
  | .frm1 m => do
    let m ← kpmEncIndMsgFrm1Asn m
    return .format1 m
  | .frm2 m => do
    let m ← kpmEncIndMsgFrm2Asn m
    return .format2 m
  | .frm3 m => do
    let m ← kpmEncIndMsgFrm3Asn m
    return .format3 m

/-! ## Action definitions -/

/-- `kpm_enc_action_def_frm_1_asn`. -/
def kpmEncActionDefFrm1Asn (d : ActDefFrm1) : Outcome ActDefFrm1Asn := do
  let infos ← sized 1 maxMeasurementInfo kpmEncMeasInfoAsn d.measInfoLst
  let period ← encGranPeriod d.granPeriodMs
  let cell ← opt encCellGlobalIdAsn d.cellGlobalId
  let bins ← opt (sized 1 maxBin kpmEncMeasBinRangeItem) d.measBinInfoLst
  return ⟨infos, period, cell, bins⟩

/-- `kpm_enc_action_def_frm_2_asn`. -/
def kpmEncActionDefFrm2Asn (d : ActDefFrm2) : Outcome ActDefFrm2Asn := do
  let ue ← encUeIdAsn d.ueId
  let info ← kpmEncActionDefFrm1Asn d.actionDefFormat1
  return ⟨ue, info⟩

/-- `kpm_enc_action_def_frm_3_asn`. -/
def kpmEncActionDefFrm3Asn (d : ActDefFrm3) : Outcome ActDefFrm3Asn := do
  let infos ← sized 1 maxMeasurementInfo kpmEncMeasInfoCondAsn d.measInfoLst
  let period ← encGranPeriod d.granPeriodMs
  let cell ← opt encCellGlobalIdAsn d.cellGlobalId
  return ⟨infos, period, cell⟩

/-- `kpm_enc_action_def_frm_4_asn`. -/
def kpmEncActionDefFrm4Asn (d : ActDefFrm4) : Outcome ActDefFrm4Asn := do
  let conds ← sized 1 maxConditionInfoPerSub kpmEncMatchingCondFrm4Asn d.matchingCondLst
  let info ← kpmEncActionDefFrm1Asn d.actionDefFormat1
  return ⟨conds, info⟩

/-- `kpm_enc_action_def_frm_5_asn`. -/
def kpmEncActionDefFrm5Asn (d : ActDefFrm5) : Outcome ActDefFrm5Asn := do
  let ues ← sized 2 maxUeIdPerSub encUeIdAsn d.ueIdLst
  let info ← kpmEncActionDefFrm1Asn d.actionDefFormat1
  return ⟨ues, info⟩

/-- The structure of `kpm_enc_action_def_asn`; the style is the format. -/
def actionDefPdu : ActDef → Outcome ActDefAsn
  | .frm1 d => do
    let d ← kpmEncActionDefFrm1Asn d
    return ⟨1, .format1 d⟩
  | .frm2 d => do
    let d ← kpmEncActionDefFrm2Asn d
    return ⟨2, .format2 d⟩
  | .frm3 d => do
    let d ← kpmEncActionDefFrm3Asn d
    return ⟨3, .format3 d⟩
  | .frm4 d => do
    let d ← kpmEncActionDefFrm4Asn d
    return ⟨4, .format4 d⟩
  | .frm5 d => do
    let d ← kpmEncActionDefFrm5Asn d
    return ⟨5, .format5 d⟩

/-! ## The buffer -/

/-- `encode` of `kpm_enc_asn.c`, into 4 KiB. -/
def encode {Pdu Buf : Type} (rt : Asn1c Pdu Buf) (pdu : Pdu) : Outcome Buf := do
  let b ← expect (rt.encode pdu) "er.encoded > -1"
  assert (rt.length b ≤ 4 * 1024) "(size_t)er.encoded <= ba.len"
  return b

/-- `kpm_enc_ind_msg_asn`. -/
def kpmEncIndMsgAsn {Buf : Type} (rt : Asn1c IndMsgAsn Buf) (msg : IndMsg) : Outcome Buf := do
  let pdu ← indMsgPdu msg
  encode rt pdu

/-- `kpm_enc_action_def_asn`. -/
def kpmEncActionDefAsn {Buf : Type} (rt : Asn1c ActDefAsn Buf) (d : ActDef) : Outcome Buf := do
  let pdu ← actionDefPdu d
  encode rt pdu

end Kpm

end FlexRic
