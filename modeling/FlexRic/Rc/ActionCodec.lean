import FlexRic.Rc.ParamCodec

/-!
# FlexRic.Rc.ActionCodec

Action definitions on the wire: the generated structures, `rc_enc_action_def_asn` and
`rc_dec_action_def_asn`, and what they are made of.

* The encoders of formats 2 and 3 ask for one element of their arrays at least, and leave the upper
  bound to the constraints.
* A policy action may have 65535 parameters; its decoder wants fewer (`decPolicyAction`).
-/

namespace FlexRic

namespace Rc

open Outcome Codec Kpm

/-! ## Generated structures -/

/-- `E2SM_RC_ActionDefinition_Format1_Item_t`, `E2SM_RC_ActionDefinition_Format3_Item_t` and
`E2SM_RC_ActionDefinition_Format4_RANP_Item_t`. -/
structure DefinedParamAsn where
  ranParameterId : UInt64
  ranParameterDefinition : Option DefinitionAsn
  deriving DecidableEq

/-- `RIC_PolicyAction_t`. -/
structure PolicyActionAsn where
  ricPolicyActionId : Int
  ranParametersList : Option (List StructItemAsn)
  ricPolicyDecision : Option Unread

/-- `E2SM_RC_ActionDefinition_Format2_Item_t`. -/
structure ActDefFormat2ItemAsn where
  ricPolicyAction : PolicyActionAsn
  ricPolicyConditionDefinition : Option Unread

/-- `E2SM_RC_ActionDefinition_Format3_t`. -/
structure ActDefFormat3Asn where
  ricInsertIndicationId : Int
  ranPInsertIndicationList : List DefinedParamAsn
  ueId : Option Unread
  deriving DecidableEq

/-- `E2SM_RC_ActionDefinition_Format4_Indication_Item_t`. -/
structure ActDefFormat4IndicationAsn where
  ricInsertIndicationId : Int
  ranPInsertIndicationList : List DefinedParamAsn
  deriving DecidableEq

/-- `E2SM_RC_ActionDefinition_Format4_Style_Item_t`. -/
structure ActDefFormat4StyleAsn where
  requestedInsertStyleType : Int
  ricInsertIndicationList : List ActDefFormat4IndicationAsn
  deriving DecidableEq

/-- `E2SM_RC_ActionDefinition_Format4_t`. -/
structure ActDefFormat4Asn where
  ricInsertStyleList : List ActDefFormat4StyleAsn
  ueId : Option Unread
  deriving DecidableEq

/-- The choice of `E2SM_RC_ActionDefinition_t`. -/
inductive ActDefFormatsAsn where
  | nothing
  | format1 (ranPToBeReportedList : List DefinedParamAsn)
  | format2 (ricPolicyConditionsList : List ActDefFormat2ItemAsn)
  | format3 (f : ActDefFormat3Asn)
  | format4 (f : ActDefFormat4Asn)

/-- `E2SM_RC_ActionDefinition_t`. -/
structure ActionDefinitionAsn where
  ricStyleType : Int
  ricActionDefinitionFormats : ActDefFormatsAsn

/-! ### Constraints -/

def DefinedParamAsn.satisfies (p : DefinedParamAsn) : Bool :=
  p.ranParameterDefinition.all DefinitionAsn.satisfies

def PolicyActionAsn.satisfies (a : PolicyActionAsn) : Bool :=
  a.ranParametersList.all (isSequence 65535 StructItemAsn.satisfies)

def ActDefFormat3Asn.satisfies (f : ActDefFormat3Asn) : Bool :=
  isSequence 65535 DefinedParamAsn.satisfies f.ranPInsertIndicationList

def ActDefFormat4IndicationAsn.satisfies (i : ActDefFormat4IndicationAsn) : Bool :=
  isSequence 65535 DefinedParamAsn.satisfies i.ranPInsertIndicationList

def ActDefFormat4StyleAsn.satisfies (s : ActDefFormat4StyleAsn) : Bool :=
  isSequence 63 ActDefFormat4IndicationAsn.satisfies s.ricInsertIndicationList

def ActDefFormat4Asn.satisfies (f : ActDefFormat4Asn) : Bool :=
  isSequence 63 ActDefFormat4StyleAsn.satisfies f.ricInsertStyleList

def ActDefFormatsAsn.satisfies : ActDefFormatsAsn → Bool
  | nothing => false
  | format1 ps => isSequence 65535 DefinedParamAsn.satisfies ps
  | format2 cs => isSequence 65535 (·.ricPolicyAction.satisfies) cs
  | format3 f => f.satisfies
  | format4 f => f.satisfies

def ActionDefinitionAsn.satisfies (d : ActionDefinitionAsn) : Bool :=
  d.ricActionDefinitionFormats.satisfies

/-! ## Encoders -/

/-- The body of `cp_rc_act_def_frmt_1_it`, `cp_rc_act_def_frmt_3_it` and `enc_ran_param_ins_ind`. -/
def encDefinedParam (id : UInt32) (defn : Option RanParamDef) : Outcome DefinedParamAsn := do
  let id ← encParamId id
  let defn ← opt encRanParamDef defn
  return ⟨id, defn⟩

/-- `cp_rc_act_def_frmt_1_it`. -/
def cpRcActDefFrmt1It (src : ParamReportDef) : Outcome DefinedParamAsn :=
  encDefinedParam src.ranParamId src.ranParamDef

/-- `cp_act_def_frmt_1`. -/
def encActDefFrmt1 (src : ActDefFrmt1) : Outcome (List DefinedParamAsn) :=
  sizedWalk 65536 cpRcActDefFrmt1It src.paramReportDef

/-- `cp_ric_policy_action_ran_param`. -/
def cpRicPolicyActionRanParam : SeqRanParam → Outcome StructItemAsn := encRanParamStruct

/-- `cp_ric_policy_action`; an empty array is left out. -/
def cpRicPolicyAction (src : PolicyAction) : Outcome PolicyActionAsn := do
  let id ← encId src.policyActId
  let params ← encNonempty (walk cpRicPolicyActionRanParam) src.seqRanParam
  let decision ← encAbsent src.polDec
  return ⟨id, params, decision⟩

/-- `cp_rc_act_def_frmt_2_it`. -/
def cpRcActDefFrmt2It (src : PolicyCond) : Outcome ActDefFormat2ItemAsn := do
  let action ← cpRicPolicyAction src.polAct
  let cond ← encAbsent src.pol
  return ⟨action, cond⟩

/-- `cp_act_def_frmt_2`. -/
def encActDefFrmt2 (src : ActDefFrmt2) : Outcome (List ActDefFormat2ItemAsn) := do
  assert (0 < src.policyCond.length) "src->sz_policy_cond > 0"
  walk cpRcActDefFrmt2It src.policyCond

/-- `cp_rc_act_def_frmt_3_it`. -/
def cpRcActDefFrmt3It (src : RanParamIns) : Outcome DefinedParamAsn :=
  encDefinedParam src.ranId src.defn

/-- The array of `cp_act_def_frmt_3`. -/
def encRanParamIns (src : List RanParamIns) : Outcome (List DefinedParamAsn) := do
  assert (0 < src.length) "src->sz_ran_param_ins > 0"
  walk cpRcActDefFrmt3It src

/-- `cp_act_def_frmt_3`. -/
def encActDefFrmt3 (src : ActDefFrmt3) : Outcome ActDefFormat3Asn := do
  let id ← encId src.id
  let params ← encRanParamIns src.ranParam
  let ue ← encAbsent src.ueId
  return ⟨id, params, ue⟩

/-- `enc_ran_param_ins_ind`. -/
def encRanParamInsInd (src : RanParamInsInd) : Outcome DefinedParamAsn :=
  encDefinedParam src.ranParamId src.ranParamDef

/-- `enc_seq_ins_ind_act_def`. -/
def encSeqInsIndActDef (src : SeqInsIndActDef) : Outcome ActDefFormat4IndicationAsn := do
  let id ← encId src.indId
  let params ← sizedWalk 65536 encRanParamInsInd src.ranParamInsInd
  return ⟨id, params⟩

/-- `cp_seq_ins_styles`. -/
def cpSeqInsStyles (src : SeqInsStyle) : Outcome ActDefFormat4StyleAsn := do
  let inds ← sizedWalk 64 encSeqInsIndActDef src.seqInsIndActDef
  return ⟨src.reqInsertStyle.toNat, inds⟩

/-- `cp_act_def_frmt_4`. -/
def encActDefFrmt4 (src : ActDefFrmt4) : Outcome ActDefFormat4Asn := do
  let styles ← sizedWalk 5 cpSeqInsStyles src.seqInsStyle
  let ue ← encAbsent src.ueId
  return ⟨styles, ue⟩

/-- The choice of `rc_enc_action_def_asn`. -/
def encActDefFormat : ActDefFormat → Outcome ActDefFormatsAsn
  | .frmt1 f => do
    let ps ← encActDefFrmt1 f
    return .format1 ps
  | .frmt2 f => do
    let cs ← encActDefFrmt2 f
    return .format2 cs
  | .frmt3 f => do
    let f ← encActDefFrmt3 f
    return .format3 f
  | .frmt4 f => do
    let f ← encActDefFrmt4 f
    return .format4 f

/-- The structure of `rc_enc_action_def_asn`. -/
def actionDefPdu (src : ActionDef) : Outcome ActionDefinitionAsn := do
  let f ← encActDefFormat src.format
  return ⟨src.ricStyleType.toNat, f⟩

/-- `rc_enc_action_def_asn`, into 512 KiB. -/
def rcEncActionDefAsn {Buf : Type} (rt : Asn1c ActionDefinitionAsn Buf) (src : ActionDef) :
    Outcome Buf := do
  let pdu ← actionDefPdu src
  encodeInto (512 * 1024) rt pdu

/-! ## Decoders -/

/-- The body of `dec_param_report_def`, `dec_ran_param_ins` and `dec_ran_param_ins_ind`. -/
def decDefinedParam (src : DefinedParamAsn) : Outcome (UInt32 × Option RanParamDef) := do
  let id ← decParamId src.ranParameterId
  let defn ← opt decRanParamDef src.ranParameterDefinition
  return (id, defn)

/-- `dec_param_report_def`. -/
def decParamReportDef (src : DefinedParamAsn) : Outcome ParamReportDef := do
  let (id, defn) ← decDefinedParam src
  return ⟨id, defn⟩

/-- `dec_act_def_frmt_1`. -/
def decActDefFrmt1 (src : List DefinedParamAsn) : Outcome ActDefFrmt1 := do
  let ps ← sizedWalk 65536 decParamReportDef src
  return ⟨ps⟩

/-- `dec_seq_ran_param`. -/
def decSeqRanParam : StructItemAsn → Outcome SeqRanParam
  | ⟨id, val⟩ => do
    let id ← decParamIdBelow id
    let val ← decRanParamValueType val
    return ⟨id, val⟩

/-- `dec_policy_action`. -/
def decPolicyAction (src : PolicyActionAsn) : Outcome PolicyAction := do
  let id ← decId src.ricPolicyActionId
  let params ← decNonempty (sizedWalk 65535 decSeqRanParam) src.ranParametersList
  let decision ← decAbsent src.ricPolicyDecision
  return ⟨id, params, decision⟩

/-- `dec_policy_cond`. -/
def decPolicyCond (src : ActDefFormat2ItemAsn) : Outcome PolicyCond := do
  let action ← decPolicyAction src.ricPolicyAction
  let cond ← decAbsent src.ricPolicyConditionDefinition
  return ⟨action, cond⟩

/-- `dec_act_def_frmt_2`. -/
def decActDefFrmt2 (src : List ActDefFormat2ItemAsn) : Outcome ActDefFrmt2 := do
  let cs ← sizedWalk 65536 decPolicyCond src
  return ⟨cs⟩

/-- `dec_ran_param_ins`. -/
def decRanParamIns (src : DefinedParamAsn) : Outcome RanParamIns := do
  let (id, defn) ← decDefinedParam src
  return ⟨id, defn⟩

/-- `dec_act_def_frmt_3`. -/
def decActDefFrmt3 (src : ActDefFormat3Asn) : Outcome ActDefFrmt3 := do
  let id ← decId src.ricInsertIndicationId
  let params ← sizedWalk 65536 decRanParamIns src.ranPInsertIndicationList
  let ue ← decAbsent src.ueId
  return ⟨id, params, ue⟩

/-- `dec_ran_param_ins_ind`. -/
def decRanParamInsInd (src : DefinedParamAsn) : Outcome RanParamInsInd := do
  let (id, defn) ← decDefinedParam src
  return ⟨id, defn⟩

/-- `dec_seq_ins_ind_act_def`. -/
def decSeqInsIndActDef (src : ActDefFormat4IndicationAsn) : Outcome SeqInsIndActDef := do
  let id ← decIdOpen src.ricInsertIndicationId
  let params ← sizedWalk 65536 decRanParamInsInd src.ranPInsertIndicationList
  return ⟨id, params⟩

/-- `dec_seq_ins_styles`. -/
def decSeqInsStyles (src : ActDefFormat4StyleAsn) : Outcome SeqInsStyle := do
  let inds ← sizedWalk 64 decSeqInsIndActDef src.ricInsertIndicationList
  return ⟨longToU32 src.requestedInsertStyleType, inds⟩

/-- `dec_act_def_frmt_4`. -/
def decActDefFrmt4 (src : ActDefFormat4Asn) : Outcome ActDefFrmt4 := do
  let styles ← sizedWalk 5 decSeqInsStyles src.ricInsertStyleList
  let ue ← decAbsent src.ueId
  return ⟨styles, ue⟩

/-- The choice of `rc_dec_action_def_asn`. -/
def decActDefFormat : ActDefFormatsAsn → Outcome ActDefFormat
  | .format1 ps => do
    let f ← decActDefFrmt1 ps
    return .frmt1 f
  | .format2 cs => do
    let f ← decActDefFrmt2 cs
    return .frmt2 f
  | .format3 f => do
    let f ← decActDefFrmt3 f
    return .frmt3 f
  | .format4 f => do
    let f ← decActDefFrmt4 f
    return .frmt4 f
  | .nothing => .abort "Unknown type"

/-- What `rc_dec_action_def_asn` makes of the structure. -/
def actionDefOfPdu (src : ActionDefinitionAsn) : Outcome ActionDef := do
  let f ← decActDefFormat src.ricActionDefinitionFormats
  return ⟨longToU32 src.ricStyleType, f⟩

/-- `rc_dec_action_def_asn`. -/
def rcDecActionDefAsn {Buf : Type} (rt : Asn1c ActionDefinitionAsn Buf) (b : Buf) :
    Outcome ActionDef := do
  let pdu ← decodeFrom rt b
  actionDefOfPdu pdu

end Rc

end FlexRic
