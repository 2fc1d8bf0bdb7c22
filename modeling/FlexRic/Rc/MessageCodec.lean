import FlexRic.Rc.ActionCodec
import FlexRic.Rc.RcValues
import FlexRic.Ue.UeIdConstraints

/-!
# FlexRic.Rc.MessageCodec

Indications and controls on the wire: the generated structures, and the encoders and decoders of
indication headers and messages, control headers, messages and outcomes.

* Some arrays may be empty (`isArray`); others may be not, whatever the encoder lets through.
* The bounds of an array are asserted by both sides, by one of them or by none.
-/

namespace FlexRic

namespace Rc

open Outcome Codec Kpm Ue

/-- `SEQUENCE (SIZE(0..n)) OF`. -/
def isArray {α : Type} (n : Nat) (p : α → Bool) (xs : List α) : Bool := below (n + 1) xs && xs.all p

/-- The loop over an array whose length is asserted first. -/
def belowWalk {α β : Type} (n : Nat) (f : α → Outcome β) (xs : List α) : Outcome (List β) := do
  assert (below n xs) "sz < n"
  walk f xs

/-! ## Generated structures -/

/-- The choice of `E2SM_RC_IndicationHeader_t`. -/
inductive IndicationHeaderAsn where
  | nothing
  | format1 (ricEventTriggerConditionId : Option Int)
  | format2 (ueId : UeIdAsn) (ricInsertStyleType : Int) (ricInsertIndicationId : Int)
  | format3 (ricEventTriggerConditionId : Option Int) (ueId : Option UeIdAsn)

/-- `E2SM_RC_IndicationMessage_Format2_Item_t`. -/
structure IndMsgFormat2ItemAsn where
  ueId : UeIdAsn
  ranPList : List StructItemAsn

/-- `E2SM_RC_IndicationMessage_Format3_Item_t`. -/
structure IndMsgFormat3ItemAsn where
  cellGlobalId : CgiAsn
  cellContextInfo : Option Unread
  cellDeleted : Option Unread
  neighborRelationTable : Option Unread

/-- `E2SM_RC_IndicationMessage_Format4_ItemUE_t`. -/
structure IndMsgFormat4ItemUeAsn where
  ueId : UeIdAsn
  ueContextInfo : Option Unread
  cellGlobalId : CgiAsn

/-- `E2SM_RC_IndicationMessage_Format4_ItemCell_t`. -/
structure IndMsgFormat4ItemCellAsn where
  cellGlobalId : CgiAsn
  cellContextInfo : Option Unread
  neighborRelationTable : Option Unread

/-- `E2SM_RC_IndicationMessage_Format6_Indication_Item_t`. -/
structure IndMsgFormat6IndicationAsn where
  ricInsertIndicationId : Int
  ranPInsertIndicationList : List StructItemAsn

/-- `E2SM_RC_IndicationMessage_Format6_Style_Item_t`. -/
structure IndMsgFormat6StyleAsn where
  indicatedInsertStyleType : Int
  ricInsertIndicationList : List IndMsgFormat6IndicationAsn

/-- The choice of `E2SM_RC_IndicationMessage_t`. -/
inductive IndicationMessageAsn where
  | nothing
  | format1 (ranPReportedList : List StructItemAsn)
  | format2 (ueParameterList : List IndMsgFormat2ItemAsn)
  | format3 (cellInfoList : List IndMsgFormat3ItemAsn)
  | format4 (ueInfoList : List IndMsgFormat4ItemUeAsn)
      (cellInfoList : List IndMsgFormat4ItemCellAsn)
  | format5 (ranPRequestedList : List StructItemAsn)
  | format6 (ricInsertStyleList : List IndMsgFormat6StyleAsn)

/-- The choice of `E2SM_RC_ControlHeader_t`. -/
inductive ControlHeaderAsn where
  | nothing
  | format1 (ueId : UeIdAsn) (ricStyleType : Int) (ricControlActionId : Int)
      (ricControlDecision : Option Unread)
  | format2 (ueId : Option UeIdAsn) (ricControlDecision : Option Unread)

/-- `E2SM_RC_ControlMessage_Format2_ControlAction_Item_t`. -/
structure CtrlMsgFormat2ActionAsn where
  ricControlActionId : Int
  ranPList : List StructItemAsn

/-- `E2SM_RC_ControlMessage_Format2_Style_Item_t`. -/
structure CtrlMsgFormat2StyleAsn where
  indicatedControlStyleType : Int
  ricControlActionList : List CtrlMsgFormat2ActionAsn

/-- The choice of `E2SM_RC_ControlMessage_t`. -/
inductive ControlMessageAsn where
  | nothing
  | format1 (ranPList : List StructItemAsn)
  | format2 (ricControlStyleList : List CtrlMsgFormat2StyleAsn)

/-- `E2SM_RC_ControlOutcome_Format1_Item_t` and `E2SM_RC_ControlOutcome_Format2_RANP_Item_t`. -/
structure OutcomeParamAsn where
  ranParameterId : UInt64
  ranParameterValue : ParamValueAsn

/-- `E2SM_RC_ControlOutcome_Format2_ControlOutcome_Item_t`. -/
structure CtrlOutFormat2OutcomeAsn where
  ricControlActionId : Int
  ranPList : List OutcomeParamAsn

/-- `E2SM_RC_ControlOutcome_Format2_Style_Item_t`. -/
structure CtrlOutFormat2StyleAsn where
  indicatedControlStyleType : Int
  ricControlOutcomeList : List CtrlOutFormat2OutcomeAsn

/-- The choice of `E2SM_RC_ControlOutcome_t`. -/
inductive ControlOutcomeAsn where
  | nothing
  | format1 (ranPList : List OutcomeParamAsn)
  | format2 (ricControlStyleList : List CtrlOutFormat2StyleAsn)
  | format3 (ranPList : List StructItemAsn)

/-! ### Constraints -/

def IndicationHeaderAsn.satisfies : IndicationHeaderAsn → Bool
  | nothing => false
  | format1 _ => true
  | format2 ue _ _ => ue.satisfies
  | format3 _ ue => ue.all UeIdAsn.satisfies

def IndMsgFormat2ItemAsn.satisfies (i : IndMsgFormat2ItemAsn) : Bool :=
  i.ueId.satisfies && isSequence 65535 StructItemAsn.satisfies i.ranPList

def IndMsgFormat4ItemUeAsn.satisfies (i : IndMsgFormat4ItemUeAsn) : Bool :=
  i.ueId.satisfies && i.cellGlobalId.satisfies

def IndMsgFormat6IndicationAsn.satisfies (i : IndMsgFormat6IndicationAsn) : Bool :=
  isArray 65535 StructItemAsn.satisfies i.ranPInsertIndicationList

def IndMsgFormat6StyleAsn.satisfies (s : IndMsgFormat6StyleAsn) : Bool :=
  isSequence 63 IndMsgFormat6IndicationAsn.satisfies s.ricInsertIndicationList

def IndicationMessageAsn.satisfies : IndicationMessageAsn → Bool
  | nothing => false
  | format1 ps => isSequence 65535 StructItemAsn.satisfies ps
  | format2 us => isSequence 65535 IndMsgFormat2ItemAsn.satisfies us
  | format3 cs => isSequence 65535 (·.cellGlobalId.satisfies) cs
  | format4 us cs => isArray 65535 IndMsgFormat4ItemUeAsn.satisfies us &&
      isArray 65535 (·.cellGlobalId.satisfies) cs
  | format5 ps => isArray 65535 StructItemAsn.satisfies ps
  | format6 ss => isSequence 63 IndMsgFormat6StyleAsn.satisfies ss

def ControlHeaderAsn.satisfies : ControlHeaderAsn → Bool
  | nothing => false
  | format1 ue _ _ _ => ue.satisfies
  | format2 ue _ => ue.all UeIdAsn.satisfies

def CtrlMsgFormat2ActionAsn.satisfies (a : CtrlMsgFormat2ActionAsn) : Bool :=
  isArray 65535 StructItemAsn.satisfies a.ranPList

def CtrlMsgFormat2StyleAsn.satisfies (s : CtrlMsgFormat2StyleAsn) : Bool :=
  isSequence 63 CtrlMsgFormat2ActionAsn.satisfies s.ricControlActionList

def ControlMessageAsn.satisfies : ControlMessageAsn → Bool
  | nothing => false
  | format1 ps => isArray 65535 StructItemAsn.satisfies ps
  | format2 ss => isSequence 63 CtrlMsgFormat2StyleAsn.satisfies ss

def CtrlOutFormat2OutcomeAsn.satisfies (o : CtrlOutFormat2OutcomeAsn) : Bool :=
  isSequence 65535 (·.ranParameterValue.satisfies) o.ranPList

def CtrlOutFormat2StyleAsn.satisfies (s : CtrlOutFormat2StyleAsn) : Bool :=
  isSequence 63 CtrlOutFormat2OutcomeAsn.satisfies s.ricControlOutcomeList

def ControlOutcomeAsn.satisfies : ControlOutcomeAsn → Bool
  | nothing => false
  | format1 ps => isArray 255 (·.ranParameterValue.satisfies) ps
  | format2 ss => isSequence 63 CtrlOutFormat2StyleAsn.satisfies ss
  | format3 ps => isArray 255 StructItemAsn.satisfies ps

/-! ## Encoders -/

/-- The structure of `rc_enc_ind_hdr_asn`, with `cp_ind_hdr_frmt_1`, `cp_ind_hdr_frmt_2` and
`cp_ind_hdr_frmt_3`. -/
def indHdrPdu : IndHdr → Outcome IndicationHeaderAsn
  | .frmt1 f => do
    let cond ← opt encId f.evTriggerId
    return .format1 cond
  | .frmt2 f => do
    let ue ← encUeIdAsn f.ueId
    let ind ← encId f.insIndId
    return .format2 ue f.ricStyleType.toNat ind
  | .frmt3 f => do
    let cond ← opt encId f.evTriggerCond
    let ue ← opt encUeIdAsn f.ueId
    return .format3 cond ue

/-- `rc_enc_ind_hdr_asn`, into 1024 octets. -/
def rcEncIndHdrAsn {Buf : Type} (rt : Asn1c IndicationHeaderAsn Buf) (src : IndHdr) :
    Outcome Buf := do
  let pdu ← indHdrPdu src
  encodeInto 1024 rt pdu

/-- `enc_ind_msg_frmt_1_it`. -/
def encIndMsgFrmt1It : SeqRanParam → Outcome StructItemAsn := encRanParamStruct

/-- `enc_ind_msg_frmt_2_ran_param`. -/
def encIndMsgFrmt2RanParam : SeqRanParam → Outcome StructItemAsn := encRanParamStruct

/-- `enc_ind_msg_frmt_2_it`. -/
def encIndMsgFrmt2It (src : SeqUeId) : Outcome IndMsgFormat2ItemAsn := do
  let ue ← encUeIdAsn src.ueId
  let ps ← sizedWalk 65536 encIndMsgFrmt2RanParam src.seqRanParam
  return ⟨ue, ps⟩

/-- `enc_ind_msg_frmt_3_it`. -/
def encIndMsgFrmt3It (src : SeqCellInfo) : Outcome IndMsgFormat3ItemAsn := do
  let cell ← encCellGlobalIdAsn src.cellGlobalId
  let ctx ← encAbsent src.cellCtxInfo
  let del ← encAbsent src.cellDel
  let tbl ← encAbsent src.neighbourRelaTbl
  return ⟨cell, ctx, del, tbl⟩

/-- `enc_ind_msg_frmt_4_it_ue`. -/
def encIndMsgFrmt4ItUe (src : SeqUeInfo) : Outcome IndMsgFormat4ItemUeAsn := do
  let ue ← encUeIdAsn src.ueId
  let ctx ← encAbsent src.ueCtxInfo
  let cell ← encCellGlobalIdAsn src.cellGlobalId
  return ⟨ue, ctx, cell⟩

/-- `enc_ind_msg_frmt_4_it_cell`. -/
def encIndMsgFrmt4ItCell (src : SeqCellInfo2) : Outcome IndMsgFormat4ItemCellAsn := do
  let cell ← encCellGlobalIdAsn src.cellGlobalId
  let ctx ← encAbsent src.cellCtxInfo
  let tbl ← encAbsent src.neighbourRelaTbl
  return ⟨cell, ctx, tbl⟩

/-- `enc_ind_msg_frmt_5_it`. -/
def encIndMsgFrmt5It : SeqRanParam → Outcome StructItemAsn := encRanParamStruct

/-- `enc_ind_msg_frmt_6_ran`. -/
def encIndMsgFrmt6Ran (src : RanParamReq) : Outcome StructItemAsn := do
  let id ← encParamId src.ranParamId
  let val ← cpRanParamValueType src.ranParam
  return ⟨id, val⟩

/-- `enc_ind_msg_frmt_6_ind_it`. -/
def encIndMsgFrmt6IndIt (src : SeqInsIndAct2) : Outcome IndMsgFormat6IndicationAsn := do
  let id ← encId src.insIndId
  let ps ← walk encIndMsgFrmt6Ran src.ranParamReq
  return ⟨id, ps⟩

/-- `enc_ind_msg_frmt_6_it`. -/
def encIndMsgFrmt6It (src : SeqInsStyle2) : Outcome IndMsgFormat6StyleAsn := do
  let inds ← sizedWalk 64 encIndMsgFrmt6IndIt src.seqInsIndAct
  return ⟨src.indInsStyle.toNat, inds⟩

/-- The structure of `rc_enc_ind_msg_asn`, with `enc_ind_msg_frmt_1` to `enc_ind_msg_frmt_6`. -/
def indMsgPdu : IndMsg → Outcome IndicationMessageAsn
  | .frmt1 f => do
    let ps ← sizedWalk 65536 encIndMsgFrmt1It f.seqRanParam
    return .format1 ps
  | .frmt2 f => do
    let us ← sizedWalk 65536 encIndMsgFrmt2It f.seqUeId
    return .format2 us
  | .frmt3 f => do
    let cs ← sizedWalk 65536 encIndMsgFrmt3It f.seqCellInfo
    return .format3 cs
  | .frmt4 f => do
    let us ← walk encIndMsgFrmt4ItUe f.seqUeInfo
    let cs ← walk encIndMsgFrmt4ItCell f.seqCellInfo2
    return .format4 us cs
  | .frmt5 f => do
    let ps ← walk encIndMsgFrmt5It f.seqRanParam
    return .format5 ps
  | .frmt6 f => do
    let ss ← sizedWalk 64 encIndMsgFrmt6It f.seqInsStyle
    return .format6 ss

/-- `rc_enc_ind_msg_asn`, into 128 KiB. -/
def rcEncIndMsgAsn {Buf : Type} (rt : Asn1c IndicationMessageAsn Buf) (src : IndMsg) :
    Outcome Buf := do
  let pdu ← indMsgPdu src
  encodeInto (128 * 1024) rt pdu

/-- The structure of `rc_enc_ctrl_hdr_asn`, with `enc_ctrl_hdr_frmt_1` and `enc_ctrl_hdr_frmt_2`. -/
def ctrlHdrPdu : CtrlHdr → Outcome ControlHeaderAsn
  | .frmt1 f => do
    let ue ← encUeIdAsn f.ueId
    let act ← encId f.ctrlActId
    let decision ← encAbsent f.ricCtrlDecision
    return .format1 ue f.ricStyleType.toNat act decision
  | .frmt2 f => do
    let ue ← opt encUeIdAsn f.ueId
    let decision ← encAbsent f.ricCtrlDec
    return .format2 ue decision

/-- `rc_enc_ctrl_hdr_asn`, into 16 KiB. -/
def rcEncCtrlHdrAsn {Buf : Type} (rt : Asn1c ControlHeaderAsn Buf) (src : CtrlHdr) :
    Outcome Buf := do
  let pdu ← ctrlHdrPdu src
  encodeInto (16 * 1024) rt pdu

/-- `enc_ctrl_msg_frmt_1_it`. -/
def encCtrlMsgFrmt1It : SeqRanParam → Outcome StructItemAsn := encRanParamStruct

/-- `enc_ctrl_msg_frmt_1`. -/
def encCtrlMsgFrmt1 (src : CtrlMsgFrmt1) : Outcome (List StructItemAsn) :=
  belowWalk 65536 encCtrlMsgFrmt1It src.ranParam

/-- `enc_ctrl_msg_frmt_2_ctrl_act_it`. -/
def encCtrlMsgFrmt2CtrlActIt (src : SeqCtrlAct) : Outcome CtrlMsgFormat2ActionAsn := do
  let id ← encId src.ctrlActId
  let f ← expect src.ctrlMsgFrmt1 "src->ctrl_msg_frmt_1 != NULL"
  let ps ← encCtrlMsgFrmt1 f
  return ⟨id, ps⟩

/-- `enc_ctrl_msg_frmt_2_it`. -/
def encCtrlMsgFrmt2It (src : SeqCtrlSma) : Outcome CtrlMsgFormat2StyleAsn := do
  let acts ← sizedWalk 64 encCtrlMsgFrmt2CtrlActIt src.seqCtrlAct
  return ⟨src.ctrlStyle.toNat, acts⟩

/-- The structure of `rc_enc_ctrl_msg_asn`, with `enc_ctrl_msg_frmt_2`. -/
def ctrlMsgPdu : CtrlMsg → Outcome ControlMessageAsn
  | .frmt1 f => do
    let ps ← encCtrlMsgFrmt1 f
    return .format1 ps
  | .frmt2 f => do
    let ss ← sizedWalk 64 encCtrlMsgFrmt2It f.action
    return .format2 ss

/-- `rc_enc_ctrl_msg_asn`, into 16 KiB. -/
def rcEncCtrlMsgAsn {Buf : Type} (rt : Asn1c ControlMessageAsn Buf) (src : CtrlMsg) :
    Outcome Buf := do
  let pdu ← ctrlMsgPdu src
  encodeInto (16 * 1024) rt pdu

/-- `enc_ctrl_out_frmt_1_it` and `enc_ctrl_out_frmt_2_ran_it`, which do the same. -/
def encCtrlOutFrmt1It (src : SeqRanParam2) : Outcome OutcomeParamAsn := do
  let id ← encParamId src.ranParamId
  return ⟨id, cpRanParamVal src.ranParamValue⟩

/-- `enc_ctrl_out_frmt_2_ctrl_out`. -/
def encCtrlOutFrmt2CtrlOut (src : SeqCtrlActOut) : Outcome CtrlOutFormat2OutcomeAsn := do
  let id ← encId src.ctrlActId
  let ps ← sizedWalk 256 encCtrlOutFrmt1It src.ranParam
  return ⟨id, ps⟩

/-- `enc_ctrl_out_frmt_2_it`; the number of outcomes is not looked at. -/
def encCtrlOutFrmt2It (src : SeqCtrlStyMulOut) : Outcome CtrlOutFormat2StyleAsn := do
  let outs ← walk encCtrlOutFrmt2CtrlOut src.seqCtrlActOut
  return ⟨src.indCtrlStyle.toNat, outs⟩

/-- `enc_ctrl_out_frmt_3_it`. -/
def encCtrlOutFrmt3It : SeqRanParam → Outcome StructItemAsn := encRanParamStruct

/-- The structure of `rc_enc_ctrl_out_asn`, with `enc_ctrl_out_frmt_1` to `enc_ctrl_out_frmt_3`. -/
def ctrlOutPdu : CtrlOut → Outcome ControlOutcomeAsn
  | .frmt1 f => do
    let ps ← belowWalk 256 encCtrlOutFrmt1It f.ranParam
    return .format1 ps
  | .frmt2 f => do
    let ss ← sizedWalk 64 encCtrlOutFrmt2It f.seqCtrlStyMulOut
    return .format2 ss
  | .frmt3 f => do
    let ps ← belowWalk 256 encCtrlOutFrmt3It f.ranParam
    return .format3 ps

/-- `rc_enc_ctrl_out_asn`, into 16 KiB. -/
def rcEncCtrlOutAsn {Buf : Type} (rt : Asn1c ControlOutcomeAsn Buf) (src : CtrlOut) :
    Outcome Buf := do
  let pdu ← ctrlOutPdu src
  encodeInto (16 * 1024) rt pdu

/-! ## Decoders -/

/-- What `rc_dec_ind_hdr_asn` makes of the structure, with `dec_ind_hdr_frmt_1` to
`dec_ind_hdr_frmt_3`. -/
def indHdrOfPdu : IndicationHeaderAsn → Outcome IndHdr
  | .format1 cond => do
    let cond ← opt decId cond
    return .frmt1 ⟨cond⟩
  | .format2 ue style ind => do
    let ue ← decUeIdAsn ue
    let ind ← decIdOpen ind
    return .frmt2 ⟨ue, longToU32 style, ind⟩
  | .format3 cond ue => do
    let cond ← opt decId cond
    let ue ← opt decUeIdAsn ue
    return .frmt3 ⟨cond, ue⟩
  | .nothing => .abort "Unknown format"

/-- `rc_dec_ind_hdr_asn`. -/
def rcDecIndHdrAsn {Buf : Type} (rt : Asn1c IndicationHeaderAsn Buf) (b : Buf) :
    Outcome IndHdr := do
  let pdu ← decodeFrom rt b
  indHdrOfPdu pdu

/-- `dec_ind_msg_frmt_1_it`. -/
def decIndMsgFrmt1It : StructItemAsn → Outcome SeqRanParam := decRanParamStruct

/-- `dec_frmt_2_ran_param`. -/
def decFrmt2RanParam : StructItemAsn → Outcome SeqRanParam := decRanParamStruct

/-- `dec_seq_ue_id`. -/
def decSeqUeId (src : IndMsgFormat2ItemAsn) : Outcome SeqUeId := do
  let ue ← decUeIdAsn src.ueId
  let ps ← sizedWalk 65536 decFrmt2RanParam src.ranPList
  return ⟨ue, ps⟩

/-- `dec_ind_msg_frmt_3_it`. -/
def decIndMsgFrmt3It (src : IndMsgFormat3ItemAsn) : Outcome SeqCellInfo := do
  let cell ← decCellGlobalIdAsn src.cellGlobalId
  let ctx ← decAbsent src.cellContextInfo
  let del ← decAbsent src.cellDeleted
  let tbl ← decAbsent src.neighborRelationTable
  return ⟨cell, ctx, del, tbl⟩

/-- `dec_ind_msg_frmt_4_it_ue_info`. -/
def decIndMsgFrmt4ItUeInfo (src : IndMsgFormat4ItemUeAsn) : Outcome SeqUeInfo := do
  let ue ← decUeIdAsn src.ueId
  let ctx ← decAbsent src.ueContextInfo
  let cell ← decCellGlobalIdAsn src.cellGlobalId
  return ⟨ue, ctx, cell⟩

/-- `dec_ind_msg_frmt_4_it_dell_info`. -/
def decIndMsgFrmt4ItDellInfo (src : IndMsgFormat4ItemCellAsn) : Outcome SeqCellInfo2 := do
  let cell ← decCellGlobalIdAsn src.cellGlobalId
  let ctx ← decAbsent src.cellContextInfo
  let tbl ← decAbsent src.neighborRelationTable
  return ⟨cell, ctx, tbl⟩

/-- `dec_ind_msg_frmt_5_it`. -/
def decIndMsgFrmt5It : StructItemAsn → Outcome SeqRanParam := decRanParamStruct

/-- `dec_ran_param_req`. -/
def decRanParamReq : StructItemAsn → Outcome RanParamReq
  | ⟨ranParameterId, val⟩ => do
    let id ← decParamIdBelow ranParameterId
    let val ← decRanParamValueType val
    return ⟨id, val⟩

/-- `dec_seq_ins_ind_act`. -/
def decSeqInsIndAct (src : IndMsgFormat6IndicationAsn) : Outcome SeqInsIndAct2 := do
  let id ← decId src.ricInsertIndicationId
  let ps ← walk decRanParamReq src.ranPInsertIndicationList
  return ⟨id, ps⟩

/-- `dec_seq_ins_style`. -/
def decSeqInsStyle (src : IndMsgFormat6StyleAsn) : Outcome SeqInsStyle2 := do
  let inds ← sizedWalk 64 decSeqInsIndAct src.ricInsertIndicationList
  return ⟨longToU32 src.indicatedInsertStyleType, inds⟩

/-- What `rc_dec_ind_msg_asn` makes of the structure, with `dec_ind_msg_frmt_1` to
`dec_ind_msg_frmt_6`. -/
def indMsgOfPdu : IndicationMessageAsn → Outcome IndMsg
  | .format1 ps => do
    let ps ← sizedWalk 65536 decIndMsgFrmt1It ps
    return .frmt1 ⟨ps⟩
  | .format2 us => do
    let us ← sizedWalk 65536 decSeqUeId us
    return .frmt2 ⟨us⟩
  | .format3 cs => do
    let cs ← sizedWalk 65536 decIndMsgFrmt3It cs
    return .frmt3 ⟨cs⟩
  | .format4 us cs => do
    let us ← belowWalk 65536 decIndMsgFrmt4ItUeInfo us
    let cs ← belowWalk 65536 decIndMsgFrmt4ItDellInfo cs
    return .frmt4 ⟨us, cs⟩
  | .format5 ps => do
    let ps ← belowWalk 65536 decIndMsgFrmt5It ps
    return .frmt5 ⟨ps⟩
  | .format6 ss => do
    let ss ← sizedWalk 64 decSeqInsStyle ss
    return .frmt6 ⟨ss⟩
  | .nothing => .abort "Unknown format type"

/-- `rc_dec_ind_msg_asn`. -/
def rcDecIndMsgAsn {Buf : Type} (rt : Asn1c IndicationMessageAsn Buf) (b : Buf) :
    Outcome IndMsg := do
  let pdu ← decodeFrom rt b
  indMsgOfPdu pdu

/-- What `rc_dec_ctrl_hdr_asn` makes of the structure, with `dec_ctrl_hdr_frmt_1` and
`dec_ctrl_hdr_frmt_2`. -/
def ctrlHdrOfPdu : ControlHeaderAsn → Outcome CtrlHdr
  | .format1 ue style act decision => do
    let ue ← decUeIdAsn ue
    let act ← decId act
    let decision ← decAbsent decision
    return .frmt1 ⟨ue, longToU32 style, act, decision⟩
  | .format2 ue decision => do
    let ue ← opt decUeIdAsn ue
    let decision ← decAbsent decision
    return .frmt2 ⟨ue, decision⟩
  | .nothing => .abort "Unknown format type"

/-- `rc_dec_ctrl_hdr_asn`. -/
def rcDecCtrlHdrAsn {Buf : Type} (rt : Asn1c ControlHeaderAsn Buf) (b : Buf) :
    Outcome CtrlHdr := do
  let pdu ← decodeFrom rt b
  ctrlHdrOfPdu pdu

/-- `dec_ctrl_msg_frmt_1_it`. -/
def decCtrlMsgFrmt1It : StructItemAsn → Outcome SeqRanParam := decSeqRanParam

/-- `dec_ctrl_msg_frmt_1`. -/
def decCtrlMsgFrmt1 (src : List StructItemAsn) : Outcome CtrlMsgFrmt1 := do
  let ps ← belowWalk 65536 decCtrlMsgFrmt1It src
  return ⟨ps⟩

/-- `dec_ctrl_msg_seq_ctrl_act`. -/
def decCtrlMsgSeqCtrlAct (src : CtrlMsgFormat2ActionAsn) : Outcome SeqCtrlAct := do
  let id ← decId src.ricControlActionId
  let f ← decCtrlMsgFrmt1 src.ranPList
  return ⟨id, some f⟩

/-- `dec_ctrl_msg_seq_ctrl_sma`. -/
def decCtrlMsgSeqCtrlSma (src : CtrlMsgFormat2StyleAsn) : Outcome SeqCtrlSma := do
  let acts ← sizedWalk 64 decCtrlMsgSeqCtrlAct src.ricControlActionList
  return ⟨longToU32 src.indicatedControlStyleType, acts⟩

/-- What `rc_dec_ctrl_msg_asn` makes of the structure, with `dec_ctrl_msg_frmt_2`. -/
def ctrlMsgOfPdu : ControlMessageAsn → Outcome CtrlMsg
  | .format1 ps => do
    let f ← decCtrlMsgFrmt1 ps
    return .frmt1 f
  | .format2 ss => do
    let ss ← sizedWalk 64 decCtrlMsgSeqCtrlSma ss
    return .frmt2 ⟨ss⟩
  | .nothing => .abort "Unknown format"

/-- `rc_dec_ctrl_msg_asn`. -/
def rcDecCtrlMsgAsn {Buf : Type} (rt : Asn1c ControlMessageAsn Buf) (b : Buf) :
    Outcome CtrlMsg := do
  let pdu ← decodeFrom rt b
  ctrlMsgOfPdu pdu

/-- The body of `dec_ctrl_out_frmt_1_it` and `dec_ctrl_out_frmt_2_ran_it`. -/
def decOutcomeParam (decId : UInt64 → Outcome UInt32) (src : OutcomeParamAsn) :
    Outcome SeqRanParam2 := do
  let id ← decId src.ranParameterId
  let val ← decRanParamVal src.ranParameterValue
  return ⟨id, val⟩

/-- `dec_ctrl_out_frmt_1_it`. -/
def decCtrlOutFrmt1It : OutcomeParamAsn → Outcome SeqRanParam2 := decOutcomeParam decParamId

/-- `dec_ctrl_out_frmt_2_ran_it`. -/
def decCtrlOutFrmt2RanIt : OutcomeParamAsn → Outcome SeqRanParam2 := decOutcomeParam decParamIdBelow

/-- `dec_ctrl_out_frmt_2_ctrl_out_it`. -/
def decCtrlOutFrmt2CtrlOutIt (src : CtrlOutFormat2OutcomeAsn) : Outcome SeqCtrlActOut := do
  let id ← decId src.ricControlActionId
  let ps ← sizedWalk 256 decCtrlOutFrmt2RanIt src.ranPList
  return ⟨id, ps⟩

/-- `dec_ctrl_out_frmt_2_sty_it`. -/
def decCtrlOutFrmt2StyIt (src : CtrlOutFormat2StyleAsn) : Outcome SeqCtrlStyMulOut := do
  let outs ← sizedWalk 64 decCtrlOutFrmt2CtrlOutIt src.ricControlOutcomeList
  return ⟨longToU32 src.indicatedControlStyleType, outs⟩

/-- `dec_ctr_out_frmt_3_it`. -/
def decCtrOutFrmt3It : StructItemAsn → Outcome SeqRanParam := decRanParamStruct

/-- What `rc_dec_ctrl_out_asn` makes of the structure, with `dec_ctrl_out_frmt_1` to
`dec_ctrl_out_frmt_3`. -/
def ctrlOutOfPdu : ControlOutcomeAsn → Outcome CtrlOut
  | .format1 ps => do
    let ps ← belowWalk 256 decCtrlOutFrmt1It ps
    return .frmt1 ⟨ps⟩
  | .format2 ss => do
    let ss ← sizedWalk 64 decCtrlOutFrmt2StyIt ss
    return .frmt2 ⟨ss⟩
  | .format3 ps => do
    let ps ← belowWalk 256 decCtrOutFrmt3It ps
    return .frmt3 ⟨ps⟩
  | .nothing => .abort "Unknown format"

/-- `rc_dec_ctrl_out_asn`. -/
def rcDecCtrlOutAsn {Buf : Type} (rt : Asn1c ControlOutcomeAsn Buf) (b : Buf) :
    Outcome CtrlOut := do
  let pdu ← decodeFrom rt b
  ctrlOutOfPdu pdu

end Rc

end FlexRic
