import FlexRic.Kpm.KpmDec

/-!
# FlexRic.Kpm.FunctionDef

The indication header and the RAN function definition of the KPM service model,
v2.03: their types (`kpm_ric_ind_hdr.h`, `kpm_ran_function_def.h`), encoders
(`enc_ric_ind_hdr_frm_1.c`, `kpm_enc_asn.c`) and decoders
(`dec_ric_ind_hdr_frm_1.c`, `kpm_dec_asn.c`).

The formats of a report style are not read by the encoder: it writes those that
belong to the style, and the decoder does the same.
-/

namespace FlexRic

namespace Kpm

open Outcome Ue

/-! ## Indication headers -/

/-- `kpm_ric_ind_hdr_format_1_t`. -/
structure IndHdrFrm1 where
  collectStartTime : UInt32
  fileformatVersion : Option Bytes
  senderName : Option Bytes
  senderType : Option Bytes
  vendorName : Option Bytes
  deriving DecidableEq, Repr

/-- `kpm_ind_hdr_t`. -/
inductive IndHdr where
  | frm1 (h : IndHdrFrm1)
  deriving DecidableEq, Repr

/-- `E2SM_KPM_IndicationHeader_Format1_t`. -/
structure IndHdrFrm1Asn where
  colletStartTime : Bytes
  fileFormatversion : Option Bytes
  senderName : Option Bytes
  senderType : Option Bytes
  vendorName : Option Bytes
  deriving DecidableEq

/-- `E2SM_KPM_IndicationHeader_t`. -/
inductive IndHdrAsn where
  | nothing
  | format1 (h : IndHdrFrm1Asn)
  deriving DecidableEq

/-- `htonl` and `ntohl` of a little-endian machine. -/
def swapBytes (x : UInt32) : UInt32 := (Octets.combine (Octets.split 4 x.toNat).reverse).toUInt32

/-- `INT32_TO_BUFFER`. -/
def int32ToBuffer (x : UInt32) : Bytes :=
  [(x.toNat >>> 24).toUInt8, (x.toNat >>> 16).toUInt8, (x.toNat >>> 8).toUInt8, x.toNat.toUInt8]

/-- `BUFFER_TO_INT32`. -/
def bufferToInt32 (buf : Bytes) : UInt32 :=
  (octet buf 0 <<< 24 ||| octet buf 1 <<< 16 ||| octet buf 2 <<< 8 ||| octet buf 3).toUInt32

/-- `kpm_enc_ind_hdr_frm_1_asn`. -/
def kpmEncIndHdrFrm1Asn (h : IndHdrFrm1) : IndHdrFrm1Asn :=
  ⟨int32ToBuffer (swapBytes h.collectStartTime), h.fileformatVersion, h.senderName, h.senderType,
    h.vendorName⟩

/-- `kpm_dec_ind_hdr_frm_1_asn`. -/
def kpmDecIndHdrFrm1Asn (h : IndHdrFrm1Asn) : IndHdrFrm1 :=
  ⟨swapBytes (bufferToInt32 h.colletStartTime), h.fileFormatversion, h.senderName, h.senderType,
    h.vendorName⟩

/-- The structure of `kpm_enc_ind_hdr_asn`. -/
def indHdrPdu : IndHdr → Outcome IndHdrAsn
  | .frm1 h => return .format1 (kpmEncIndHdrFrm1Asn h)

/-- What `kpm_dec_ind_hdr_asn` makes of the structure. -/
def indHdrOfPdu : IndHdrAsn → Outcome IndHdr
  | .format1 h => return .frm1 (kpmDecIndHdrFrm1Asn h)
  | .nothing => .abort "Non valid KPM RIC Indication Header Format"

/-- `kpm_enc_ind_hdr_asn`. -/
def kpmEncIndHdrAsn {Buf : Type} (rt : Asn1c IndHdrAsn Buf) (h : IndHdr) : Outcome Buf := do
  let pdu ← indHdrPdu h
  encode rt pdu

/-- `kpm_dec_ind_hdr_asn`. -/
def kpmDecIndHdrAsn {Buf : Type} (rt : Asn1c IndHdrAsn Buf) (b : Buf) : Outcome IndHdr := do
  let pdu ← decode rt b
  indHdrOfPdu pdu

/-! ## RAN function definitions -/

/-- `ran_function_name_t`. -/
structure RanFunctionName where
  name : Bytes
  oid : Bytes
  description : Bytes
  instanceNo : Option Int64
  deriving DecidableEq

/-- `style_ric_event_trigger_e`. -/
inductive StyleRicEventTrigger where
  | style1
  deriving DecidableEq, Repr

/-- `format_ric_event_trigger_e`. -/
inductive FormatRicEventTrigger where
  | format1
  deriving DecidableEq, Repr

/-- `ric_event_trigger_style_item_t`. -/
structure RicEventTriggerStyleItem where
  styleType : StyleRicEventTrigger
  styleName : Bytes
  formatType : FormatRicEventTrigger
  deriving DecidableEq, Repr

/-- `ric_service_report_e`. -/
inductive RicServiceReport where
  | style1
  | style2
  | style3
  | style4
  | style5
  deriving DecidableEq, Repr

/-- `format_action_def_e`. -/
inductive FormatActionDef where
  | format1
  | format2
  | format3
  | format4
  | format5
  deriving DecidableEq, Repr

/-- `format_ind_hdr_e`. -/
inductive FormatIndHdr where
  | format1
  deriving DecidableEq, Repr

/-- `format_ind_msg_e`. -/
inductive FormatIndMsg where
  | format1
  | format2
  | format3
  deriving DecidableEq, Repr

/-- `meas_info_for_action_lst_t`. -/
structure MeasInfoForAction where
  name : Bytes
  id : Option UInt16
  binRangeDef : Option BinRangeDef
  deriving DecidableEq

/-- `ric_report_style_item_t`. -/
structure RicReportStyleItem where
  reportStyleType : RicServiceReport
  reportStyleName : Bytes
  actDefFormatType : FormatActionDef
  measInfoForActionLst : List MeasInfoForAction
  indHdrFormatType : FormatIndHdr
  indMsgFormatType : FormatIndMsg
  deriving DecidableEq

/-- `kpm_ran_function_def_t`. -/
structure RanFunctionDef where
  name : RanFunctionName
  ricEventTriggerStyleList : Option (List RicEventTriggerStyleItem)
  ricReportStyleList : Option (List RicReportStyleItem)
  deriving DecidableEq

/-- `RANfunction_Name_t`. -/
structure RanFunctionNameAsn where
  shortName : Bytes
  e2smOid : Bytes
  description : Bytes
  instanceNo : Option Int
  deriving DecidableEq

/-- `RIC_EventTriggerStyle_Item_t`. -/
structure RicEventTriggerStyleItemAsn where
  styleType : Int
  styleName : Bytes
  formatType : Int
  deriving DecidableEq

/-- `MeasurementInfo_Action_Item_t`. -/
structure MeasInfoActionItemAsn where
  measName : Bytes
  measId : Option Int
  binRangeDef : Option BinRangeDefAsn
  deriving DecidableEq

/-- `RIC_ReportStyle_Item_t`. -/
structure RicReportStyleItemAsn where
  styleType : Int
  styleName : Bytes
  actionFormatType : Int
  measInfoActionList : List MeasInfoActionItemAsn
  indicationHeaderFormatType : Int
  indicationMessageFormatType : Int
  deriving DecidableEq

/-- `E2SM_KPM_RANfunction_Description_t`. -/
structure RanFunctionDescriptionAsn where
  ranFunctionName : RanFunctionNameAsn
  ricEventTriggerStyleList : Option (List RicEventTriggerStyleItemAsn)
  ricReportStyleList : Option (List RicReportStyleItemAsn)
  deriving DecidableEq

/-- `maxnoofRICStyles`. -/
def maxRicStyles : Nat := 63

/-- An entry of the event trigger styles. -/
def encEventTriggerStyle : RicEventTriggerStyleItem → Outcome RicEventTriggerStyleItemAsn
  | ⟨.style1, name, _⟩ => return ⟨1, name, 1⟩

/-- A measurement for an action. -/
def encMeasInfoForAction (item : MeasInfoForAction) : Outcome MeasInfoActionItemAsn := do
  assert item.binRangeDef.isNone "Not yet implemented in ASN.1"
  return ⟨item.name, item.id.map fun id => (id.toNat : Int), none⟩

/-- The style of a report, the formats of action definitions and indication
messages that belong to it. -/
def RicServiceReport.code : RicServiceReport → Int
  | style1 => 1
  | style2 => 2
  | style3 => 3
  | style4 => 4
  | style5 => 5

def RicServiceReport.actDefFormat : RicServiceReport → FormatActionDef
  | style1 => .format1
  | style2 => .format2
  | style3 => .format3
  | style4 => .format4
  | style5 => .format5

def RicServiceReport.indMsgFormat : RicServiceReport → FormatIndMsg
  | style1 => .format1
  | style2 => .format1
  | style3 => .format2
  | style4 => .format3
  | style5 => .format3

/-- The numbers of the formats on the wire. -/
def FormatIndMsg.code : FormatIndMsg → Int
  | format1 => 1
  | format2 => 2
  | format3 => 3

/-- An entry of the report styles. -/
def encReportStyle (item : RicReportStyleItem) : Outcome RicReportStyleItemAsn := do
  let meas ← sized 1 maxMeasurementInfo encMeasInfoForAction item.measInfoForActionLst
  let style := item.reportStyleType
  return ⟨style.code, item.reportStyleName, style.code, meas, 1, style.indMsgFormat.code⟩

/-- The list of event trigger styles, also where it is empty. -/
def encEventTriggerStyles : Option (List RicEventTriggerStyleItem) →
    Outcome (Option (List RicEventTriggerStyleItemAsn)) :=
  opt (sized 0 maxRicStyles encEventTriggerStyle)

/-- The list of report styles, left out where it is empty. -/
def encReportStyles : Option (List RicReportStyleItem) →
    Outcome (Option (List RicReportStyleItemAsn))
  | none => return none
  | some items => encNonempty (sized 0 maxRicStyles encReportStyle) items

/-- The structure of `kpm_enc_func_def_asn`. -/
def funcDefPdu (d : RanFunctionDef) : Outcome RanFunctionDescriptionAsn := do
  let events ← encEventTriggerStyles d.ricEventTriggerStyleList
  let reports ← encReportStyles d.ricReportStyleList
  return ⟨⟨d.name.name, d.name.oid, d.name.description, d.name.instanceNo.map (·.toInt)⟩, events,
    reports⟩

/-- An entry of the event trigger styles. -/
def decEventTriggerStyle (item : RicEventTriggerStyleItemAsn) :
    Outcome RicEventTriggerStyleItem := do
  assert (item.styleType = 1) "Unknown RIC Event Trigger Style Type"
  return ⟨.style1, item.styleName, .format1⟩

/-- A measurement for an action. -/
def decMeasInfoForAction (item : MeasInfoActionItemAsn) : Outcome MeasInfoForAction := do
  assert item.binRangeDef.isNone "Not yet implemented"
  return ⟨item.measName, item.measId.map longToU16, none⟩

/-- The style of a report. -/
def decServiceReport (v : Int) : Outcome RicServiceReport :=
  if v = 1 then .next .style1
  else if v = 2 then .next .style2
  else if v = 3 then .next .style3
  else if v = 4 then .next .style4
  else if v = 5 then .next .style5
  else .abort "Unknown RIC REPORT Style Type"

/-- An entry of the report styles. -/
def decReportStyle (item : RicReportStyleItemAsn) : Outcome RicReportStyleItem := do
  let style ← decServiceReport item.styleType
  let meas ← sized 1 maxMeasurementInfo decMeasInfoForAction item.measInfoActionList
  return ⟨style, item.styleName, style.actDefFormat, meas, .format1, style.indMsgFormat⟩

/-- What `kpm_dec_func_def_asn` makes of the structure. -/
def funcDefOfPdu (pdu : RanFunctionDescriptionAsn) : Outcome RanFunctionDef := do
  let events ← opt (sized 1 maxRicStyles decEventTriggerStyle) pdu.ricEventTriggerStyleList
  let reports ← opt (sized 1 maxRicStyles decReportStyle) pdu.ricReportStyleList
  let name := pdu.ranFunctionName
  return ⟨⟨name.shortName, name.e2smOid, name.description, name.instanceNo.map Int64.ofInt⟩, events,
    reports⟩

/-- `kpm_enc_func_def_asn`. -/
def kpmEncFuncDefAsn {Buf : Type} (rt : Asn1c RanFunctionDescriptionAsn Buf)
    (d : RanFunctionDef) : Outcome Buf := do
  let pdu ← funcDefPdu d
  encode rt pdu

/-- `kpm_dec_func_def_asn`. -/
def kpmDecFuncDefAsn {Buf : Type} (rt : Asn1c RanFunctionDescriptionAsn Buf) (b : Buf) :
    Outcome RanFunctionDef := do
  let pdu ← decode rt b
  funcDefOfPdu pdu

end Kpm

end FlexRic
