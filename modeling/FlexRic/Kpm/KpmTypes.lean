import FlexRic.Ue.CellGlobalId

/-!
# FlexRic.Kpm.KpmTypes

The messages of the KPM service model, v2.03, as the program holds them
(`ie/kpm_data_ie`) and as the structures `asn1c` generates.

A pointer that may be NULL is an option, an array with its length is a list (an
option of one where a NULL array and an empty one are told apart), and a union
under a type is a sum.  A `double` is a `Float`, and a `long` is an integer.
-/

namespace FlexRic

namespace Kpm

open Ue

/-! ## Labels -/

/-- `enum_value_e`. -/
inductive EnumValue where
  | trueValue
  | endValue
  deriving DecidableEq, Repr

/-- `start_end_ind_e`. -/
inductive StartEndInd where
  | startInd
  | endInd
  deriving DecidableEq, Repr

/-- `s_nssai_e2sm_t`. -/
structure SNssai where
  sST : UInt8
  sD : Option UInt32
  deriving DecidableEq, Repr

/-- `label_info_lst_t`. -/
structure Label where
  noLabel : Option EnumValue := none
  plmnId : Option E2apPlmn := none
  sliceId : Option SNssai := none
  fiveQi : Option UInt8 := none
  qFi : Option UInt8 := none
  qCi : Option UInt8 := none
  qCiMax : Option UInt8 := none
  qCiMin : Option UInt8 := none
  aRpMax : Option UInt8 := none
  aRpMin : Option UInt8 := none
  bitrateRange : Option UInt16 := none
  layerMuMimo : Option UInt16 := none
  sUm : Option EnumValue := none
  distBinX : Option UInt16 := none
  distBinY : Option UInt16 := none
  distBinZ : Option UInt16 := none
  preLabelOverride : Option EnumValue := none
  startEndInd : Option StartEndInd := none
  min : Option EnumValue := none
  max : Option EnumValue := none
  avg : Option EnumValue := none
  ssbIndex : Option UInt16 := none
  nonGobBeamformModeIndex : Option UInt16 := none
  mimoModeIndex : Option UInt8 := none
  deriving DecidableEq, Repr

/-- One of the sixteen fields is there that no function of the model handles. -/
def Label.unhandled (l : Label) : Bool :=
  l.qFi.isSome || l.qCi.isSome || l.qCiMax.isSome || l.qCiMin.isSome || l.aRpMax.isSome ||
    l.aRpMin.isSome || l.bitrateRange.isSome || l.layerMuMimo.isSome || l.sUm.isSome ||
    l.distBinX.isSome || l.distBinY.isSome || l.distBinZ.isSome || l.preLabelOverride.isSome ||
    l.startEndInd.isSome || l.min.isSome || l.max.isSome

/-! ## Measurements -/

/-- `meas_type_t`. -/
inductive MeasType where
  | name (name : Bytes)
  | id (id : UInt16)
  deriving DecidableEq, Repr

/-- `meas_info_format_1_lst_t`. -/
structure MeasInfoFrm1 where
  measType : MeasType
  labelInfoLst : List Label
  deriving DecidableEq

/-- `meas_record_lst_t`; a missing value comes with an address, 0 for NULL. -/
inductive MeasRecord where
  | integer (intVal : UInt32)
  | real (realVal : Float)
  | noValue (noValue : Nat)
  deriving DecidableEq

/-- `meas_data_lst_t`. -/
structure MeasData where
  measRecordLst : List MeasRecord
  incompleteFlag : Option EnumValue
  deriving DecidableEq

/-- `bin_range_value_t`; an integer is an `unsigned long`. -/
inductive BinRangeValue where
  | integer (intValue : UInt64)
  | real (realValue : Float)
  deriving DecidableEq

/-- `bin_distr_t`. -/
structure BinDistr where
  binIndex : UInt16
  startValue : BinRangeValue
  endValue : BinRangeValue
  deriving DecidableEq

/-- `bin_range_def_t`. -/
structure BinRangeDef where
  binXLst : List BinDistr
  binYLst : Option (List BinDistr) := none
  binZLst : Option (List BinDistr) := none
  deriving DecidableEq

/-- `meas_bin_range_info_lst_t`. -/
structure MeasBinRangeInfo where
  measType : MeasType
  binRangeDef : BinRangeDef
  deriving DecidableEq

/-! ## Conditions -/

/-- `test_cond_type_e`. -/
inductive TestCondType where
  | gbr
  | ambr
  | isStat
  | isCatM
  | dlRsrp
  | dlRsrq
  | ulRsrp
  | cqi
  | fiveQi
  | qci
  | sNssai
  deriving DecidableEq, Repr

/-- `cond_type_e`. -/
inductive CondType where
  | trueCond
  | endCond
  deriving DecidableEq, Repr

/-- `test_cond_e`. -/
inductive TestCond where
  | equal
  | greaterThan
  | lessThan
  | contains
  | present
  deriving DecidableEq, Repr

/-- `test_cond_value_t`. -/
inductive TestCondValue where
  | intValue (v : Int64)
  | enumValue (v : Int64)
  | boolValue (v : Bool)
  | bitStringValue (v : Bytes)
  | octetStringValue (v : Bytes)
  | printableStringValue (v : Bytes)
  | realValue (v : Float)
  deriving DecidableEq

/-- `test_info_lst_t`; the union holds the same for every type. -/
structure TestInfo where
  testCondType : TestCondType
  cond : CondType
  testCond : Option TestCond
  testCondValue : Option TestCondValue
  deriving DecidableEq

/-- The union of `matching_condition_format_3_lst_t`. -/
inductive CondInfo where
  | labelInfo (l : Label)
  | testInfo (t : TestInfo)
  deriving DecidableEq

/-- `matching_condition_format_3_lst_t`. -/
structure MatchingCondFrm3 where
  cond : CondInfo
  logicalOr : Option EnumValue
  deriving DecidableEq

/-- `matching_condition_format_4_lst_t`. -/
structure MatchingCondFrm4 where
  testInfoLst : TestInfo
  logicalOr : Option EnumValue
  deriving DecidableEq

/-- `meas_info_format_3_lst_t`. -/
structure MeasInfoFrm3 where
  measType : MeasType
  matchingCondLst : List MatchingCondFrm3
  binRangeDef : Option BinRangeDef
  deriving DecidableEq

/-- `ue_id_gran_period_lst_t`. -/
inductive UeIdGranPeriod where
  | noneMatched (noMatchedUe : EnumValue)
  | oneOrMoreMatched (ueLst : List UeId)
  deriving DecidableEq

/-- `meas_info_cond_ue_lst_t`. -/
structure MeasInfoCondUe where
  measType : MeasType
  matchingCondLst : List MatchingCondFrm3
  ueIdMatchedLst : List UeId
  ueIdGranPeriodLst : Option (List UeIdGranPeriod)
  deriving DecidableEq

/-! ## Indications and action definitions -/

/-- `kpm_ind_msg_format_1_t`. -/
structure IndMsgFrm1 where
  measDataLst : List MeasData
  measInfoLst : List MeasInfoFrm1
  granPeriodMs : Option UInt32
  deriving DecidableEq

/-- `kpm_ind_msg_format_2_t`. -/
structure IndMsgFrm2 where
  measDataLst : List MeasData
  measInfoCondUeLst : List MeasInfoCondUe
  granPeriodMs : Option UInt32
  deriving DecidableEq

/-- `meas_report_per_ue_t`. -/
structure MeasReportPerUe where
  ueMeasReportLst : UeId
  indMsgFormat1 : IndMsgFrm1
  deriving DecidableEq

/-- `kpm_ind_msg_format_3_t`. -/
structure IndMsgFrm3 where
  measReportPerUe : List MeasReportPerUe
  deriving DecidableEq

/-- `kpm_ind_msg_t`. -/
inductive IndMsg where
  | frm1 (m : IndMsgFrm1)
  | frm2 (m : IndMsgFrm2)
  | frm3 (m : IndMsgFrm3)
  deriving DecidableEq

/-- `kpm_act_def_format_1_t`. -/
structure ActDefFrm1 where
  measInfoLst : List MeasInfoFrm1
  granPeriodMs : UInt32
  cellGlobalId : Option CellGlobalId
  measBinInfoLst : Option (List MeasBinRangeInfo)
  deriving DecidableEq

/-- `kpm_act_def_format_2_t`. -/
structure ActDefFrm2 where
  ueId : UeId
  actionDefFormat1 : ActDefFrm1
  deriving DecidableEq

/-- `kpm_act_def_format_3_t`. -/
structure ActDefFrm3 where
  measInfoLst : List MeasInfoFrm3
  granPeriodMs : UInt32
  cellGlobalId : Option CellGlobalId
  deriving DecidableEq

/-- `kpm_act_def_format_4_t`. -/
structure ActDefFrm4 where
  matchingCondLst : List MatchingCondFrm4
  actionDefFormat1 : ActDefFrm1
  deriving DecidableEq

/-- `kpm_act_def_format_5_t`. -/
structure ActDefFrm5 where
  ueIdLst : List UeId
  actionDefFormat1 : ActDefFrm1
  deriving DecidableEq

/-- `kpm_act_def_t`. -/
inductive ActDef where
  | frm1 (d : ActDefFrm1)
  | frm2 (d : ActDefFrm2)
  | frm3 (d : ActDefFrm3)
  | frm4 (d : ActDefFrm4)
  | frm5 (d : ActDefFrm5)
  deriving DecidableEq

/-! ## Generated structures -/

/-- `S_NSSAI_t`. -/
structure SNssaiAsn where
  sST : Bytes
  sD : Option Bytes
  deriving DecidableEq

/-- `MeasurementLabel_t`, and `LabelInfoItem_t`, which holds one. -/
structure LabelAsn where
  noLabel : Option Int := none
  plmnId : Option Bytes := none
  sliceId : Option SNssaiAsn := none
  fiveQi : Option Int := none
  qFi : Option Int := none
  qCi : Option Int := none
  qCiMax : Option Int := none
  qCiMin : Option Int := none
  aRpMax : Option Int := none
  aRpMin : Option Int := none
  bitrateRange : Option Int := none
  layerMuMimo : Option Int := none
  sUm : Option Int := none
  distBinX : Option Int := none
  distBinY : Option Int := none
  distBinZ : Option Int := none
  preLabelOverride : Option Int := none
  startEndInd : Option Int := none
  min : Option Int := none
  max : Option Int := none
  avg : Option Int := none
  deriving DecidableEq

/-- `MeasurementType_t`. -/
inductive MeasTypeAsn where
  | nothing
  | measName (name : Bytes)
  | measId (id : Int)
  deriving DecidableEq

/-- `MeasurementInfoItem_t`. -/
structure MeasInfoAsn where
  measType : MeasTypeAsn
  labelInfoList : List LabelAsn
  deriving DecidableEq

/-- `MeasurementRecordItem_t`. -/
inductive MeasRecordAsn where
  | nothing
  | integer (v : UInt64)
  | real (v : Float)
  | noValue (v : Int)
  deriving DecidableEq

/-- `MeasurementDataItem_t`. -/
structure MeasDataAsn where
  measRecord : List MeasRecordAsn
  incompleteFlag : Option Int
  deriving DecidableEq

/-- `BinRangeValue_t`. -/
inductive BinRangeValueAsn where
  | nothing
  | valueInt (v : Int)
  | valueReal (v : Float)
  deriving DecidableEq

/-- `BinRangeItem_t`. -/
structure BinRangeItemAsn where
  binIndex : Int
  startValue : BinRangeValueAsn
  endValue : BinRangeValueAsn
  deriving DecidableEq

/-- `BinRangeDefinition_t`. -/
structure BinRangeDefAsn where
  binRangeListX : List BinRangeItemAsn
  binRangeListY : Option (List BinRangeItemAsn) := none
  binRangeListZ : Option (List BinRangeItemAsn) := none
  deriving DecidableEq

/-- `DistMeasurementBinRangeItem_t`. -/
structure MeasBinRangeInfoAsn where
  measType : MeasTypeAsn
  binRangeDef : BinRangeDefAsn
  deriving DecidableEq

/-- `TestCond_Type_t`: which one is present, and its value. -/
inductive TestCondTypeAsn where
  | nothing
  | present (t : TestCondType) (v : Int)
  deriving DecidableEq

/-- `TestCond_Value_t`; a `BOOLEAN_t` is an `int`. -/
inductive TestCondValueAsn where
  | nothing
  | valueInt (v : Int)
  | valueEnum (v : Int)
  | valueBool (v : Int)
  | valueBitS (v : BitString)
  | valueOctS (v : Bytes)
  | valuePrtS (v : Bytes)
  | valueReal (v : Float)
  deriving DecidableEq

/-- `TestCondInfo_t`. -/
structure TestInfoAsn where
  testType : TestCondTypeAsn
  testExpr : Option Int
  testValue : Option TestCondValueAsn
  deriving DecidableEq

/-- `MatchingCondItem_Choice_t`. -/
inductive CondInfoAsn where
  | nothing
  | measLabel (l : LabelAsn)
  | testCondInfo (t : TestInfoAsn)
  deriving DecidableEq

/-- `MatchingCondItem_t`. -/
structure MatchingCondAsn where
  matchingCondChoice : CondInfoAsn
  logicalOr : Option Int
  deriving DecidableEq

/-- `MatchingUeCondPerSubItem_t`. -/
structure MatchingUeCondAsn where
  testCondInfo : TestInfoAsn
  logicalOr : Option Int
  deriving DecidableEq

/-- `MeasurementCondItem_t`. -/
structure MeasInfoFrm3Asn where
  measType : MeasTypeAsn
  matchingCond : List MatchingCondAsn
  binRangeDef : Option BinRangeDefAsn
  deriving DecidableEq

/-- `MatchingUEidPerGP_Item_t`; an item of a list of UE ids holds nothing else. -/
inductive UeIdGranPeriodAsn where
  | nothing
  | noUeMatched (v : Int)
  | oneOrMoreUeMatched (ids : List UeIdAsn)
  deriving DecidableEq

/-- `MeasurementCondUEidItem_t`. -/
structure MeasInfoCondUeAsn where
  measType : MeasTypeAsn
  matchingCond : List MatchingCondAsn
  matchingUeIdList : Option (List UeIdAsn)
  matchingUeIdPerGp : Option (List UeIdGranPeriodAsn)
  deriving DecidableEq

/-- `E2SM_KPM_IndicationMessage_Format1_t`. -/
structure IndMsgFrm1Asn where
  measData : List MeasDataAsn
  measInfoList : Option (List MeasInfoAsn)
  granulPeriod : Option UInt64
  deriving DecidableEq

/-- `E2SM_KPM_IndicationMessage_Format2_t`. -/
structure IndMsgFrm2Asn where
  measData : List MeasDataAsn
  measCondUeIdList : List MeasInfoCondUeAsn
  granulPeriod : Option UInt64
  deriving DecidableEq

/-- `UEMeasurementReportItem_t`. -/
structure MeasReportPerUeAsn where
  ueId : UeIdAsn
  measReport : IndMsgFrm1Asn
  deriving DecidableEq

/-- `E2SM_KPM_IndicationMessage_Format3_t`. -/
structure IndMsgFrm3Asn where
  ueMeasReportList : List MeasReportPerUeAsn
  deriving DecidableEq

/-- `E2SM_KPM_IndicationMessage_t`. -/
inductive IndMsgAsn where
  | nothing
  | format1 (m : IndMsgFrm1Asn)
  | format2 (m : IndMsgFrm2Asn)
  | format3 (m : IndMsgFrm3Asn)
  deriving DecidableEq

/-- `E2SM_KPM_ActionDefinition_Format1_t`. -/
structure ActDefFrm1Asn where
  measInfoList : List MeasInfoAsn
  granulPeriod : UInt64
  cellGlobalId : Option CgiAsn
  distMeasBinRangeInfo : Option (List MeasBinRangeInfoAsn)
  deriving DecidableEq

/-- `E2SM_KPM_ActionDefinition_Format2_t`. -/
structure ActDefFrm2Asn where
  ueId : UeIdAsn
  subscriptInfo : ActDefFrm1Asn
  deriving DecidableEq

/-- `E2SM_KPM_ActionDefinition_Format3_t`. -/
structure ActDefFrm3Asn where
  measCondList : List MeasInfoFrm3Asn
  granulPeriod : UInt64
  cellGlobalId : Option CgiAsn
  deriving DecidableEq

/-- `E2SM_KPM_ActionDefinition_Format4_t`. -/
structure ActDefFrm4Asn where
  matchingUeCondList : List MatchingUeCondAsn
  subscriptionInfo : ActDefFrm1Asn
  deriving DecidableEq

/-- `E2SM_KPM_ActionDefinition_Format5_t`. -/
structure ActDefFrm5Asn where
  matchingUeIdList : List UeIdAsn
  subscriptionInfo : ActDefFrm1Asn
  deriving DecidableEq

/-- The formats of `E2SM_KPM_ActionDefinition_t`. -/
inductive ActDefFormatsAsn where
  | nothing
  | format1 (d : ActDefFrm1Asn)
  | format2 (d : ActDefFrm2Asn)
  | format3 (d : ActDefFrm3Asn)
  | format4 (d : ActDefFrm4Asn)
  | format5 (d : ActDefFrm5Asn)
  deriving DecidableEq

/-- `E2SM_KPM_ActionDefinition_t`. -/
structure ActDefAsn where
  ricStyleType : Int
  actionDefinitionFormats : ActDefFormatsAsn
  deriving DecidableEq

end Kpm

end FlexRic
