import FlexRic.Rc.ParamCodec
import FlexRic.Rc.RcValues

/-!
# FlexRic.Rc.FuncDefCodec

RAN function definitions on the wire: the generated structures, `rc_enc_func_def_asn` and
`rc_dec_func_def_asn`, and what they are made of.

* The ten kinds of RAN parameters have one layout.  Those of insert indications are encoded without
  a look at the length of the name (`encSeqInsInd3`), all the others with one.
* The name of a call process type has to be one octet shorter than the others
  (`encSeqCallProcType`).
* The instance of the function is neither encoded nor decoded.
-/

namespace FlexRic

namespace Rc

open Outcome Codec Kpm

/-! ## Generated structures -/

/-- `L2Parameters_RANParameter_Item_t`, `CallProcessBreakpoint_RANParameter_Item_t`,
`UEIdentification_RANParameter_Item_t`, `CellIdentification_RANParameter_Item_t`,
`Report_RANParameter_Item_t`, `InsertIndication_RANParameter_Item_t`,
`ControlAction_RANParameter_Item_t`, `ControlOutcome_RANParameter_Item_t`,
`PolicyAction_RANParameter_Item_t` and `PolicyCondition_RANParameter_Item_t`. -/
structure NamedParamAsn where
  ranParameterId : UInt64
  ranParameterName : Bytes
  ranParameterDefinition : Option DefinitionAsn
  deriving DecidableEq

/-- `RANFunctionDefinition_EventTrigger_Style_Item_t`. -/
structure EvTrgStyleAsn where
  styleType : Int
  styleName : Bytes
  formatType : Int
  deriving DecidableEq

/-- `RANFunctionDefinition_EventTrigger_Breakpoint_Item_t`. -/
structure BreakpointAsn where
  breakpointId : Int
  breakpointName : Bytes
  parametersList : Option (List NamedParamAsn)
  deriving DecidableEq

/-- `RANFunctionDefinition_EventTrigger_CallProcess_Item_t`. -/
structure CallProcessAsn where
  callProcessTypeId : Int
  callProcessTypeName : Bytes
  breakpointsList : List BreakpointAsn
  deriving DecidableEq

/-- `RANFunctionDefinition_EventTrigger_t`. -/
structure FuncDefEvTrgAsn where
  styleList : List EvTrgStyleAsn
  l2ParametersList : Option (List NamedParamAsn)
  callProcessTypesList : Option (List CallProcessAsn)
  ueIdentificationParametersList : Option (List NamedParamAsn)
  cellIdentificationParametersList : Option (List NamedParamAsn)
  deriving DecidableEq

/-- `RANFunctionDefinition_Report_Item_t`. -/
structure ReportItemAsn where
  styleType : Int
  styleName : Bytes
  supportedEventTriggerStyleType : Int
  actionFormatType : Int
  indicationHeaderFormatType : Int
  indicationMessageFormatType : Int
  parametersList : Option (List NamedParamAsn)
  deriving DecidableEq

/-- `RANFunctionDefinition_Insert_Indication_Item_t` and
`RANFunctionDefinition_Control_Action_Item_t`. -/
structure NamedListAsn where
  id : Int
  name : Bytes
  parametersList : Option (List NamedParamAsn)
  deriving DecidableEq

/-- `RANFunctionDefinition_Insert_Item_t`. -/
structure InsertItemAsn where
  styleType : Int
  styleName : Bytes
  supportedEventTriggerStyleType : Int
  actionDefinitionFormatType : Int
  insertIndicationList : Option (List NamedListAsn)
  indicationHeaderFormatType : Int
  indicationMessageFormatType : Int
  callProcessIdFormatType : Int
  deriving DecidableEq

/-- `RANFunctionDefinition_Control_Item_t`. -/
structure ControlItemAsn where
  styleType : Int
  styleName : Bytes
  controlActionList : Option (List NamedListAsn)
  headerFormatType : Int
  messageFormatType : Int
  callProcessIdFormatType : Option Unread
  outcomeFormatType : Int
  outcomeParametersList : Option (List NamedParamAsn)
  deriving DecidableEq

/-- `RANFunctionDefinition_Policy_Action_Item_t`. -/
structure PolicyActionItemAsn where
  policyActionId : Int
  policyActionName : Bytes
  actionDefinitionFormatType : Int
  actionParametersList : Option (List NamedParamAsn)
  conditionParametersList : Option (List NamedParamAsn)
  deriving DecidableEq

/-- `RANFunctionDefinition_Policy_Item_t`. -/
structure PolicyItemAsn where
  styleType : Int
  styleName : Bytes
  supportedEventTriggerStyleType : Int
  policyActionList : Option (List PolicyActionItemAsn)
  deriving DecidableEq

/-- `E2SM_RC_RANFunctionDefinition_t`. -/
structure FunctionDefinitionAsn where
  ranFunctionName : RanFunctionNameAsn
  eventTrigger : Option FuncDefEvTrgAsn
  report : Option (List ReportItemAsn)
  insert : Option (List InsertItemAsn)
  control : Option (List ControlItemAsn)
  policy : Option (List PolicyItemAsn)
  deriving DecidableEq

/-! ### Constraints -/

def NamedParamAsn.satisfies (p : NamedParamAsn) : Bool :=
  p.ranParameterDefinition.all DefinitionAsn.satisfies

/-- `SEQUENCE (SIZE (1..n)) OF`, of RAN parameters. -/
def namedParams (n : Nat) : Option (List NamedParamAsn) → Bool :=
  Option.all (isSequence n NamedParamAsn.satisfies)

def BreakpointAsn.satisfies (b : BreakpointAsn) : Bool :=
  namedParams 65535 b.parametersList

def CallProcessAsn.satisfies (c : CallProcessAsn) : Bool :=
  isSequence 65535 BreakpointAsn.satisfies c.breakpointsList

def FuncDefEvTrgAsn.satisfies (d : FuncDefEvTrgAsn) : Bool :=
  isSequence 63 (fun _ => true) d.styleList && (namedParams 65535 d.l2ParametersList &&
    (d.callProcessTypesList.all (isSequence 65535 CallProcessAsn.satisfies) &&
      (namedParams 65535 d.ueIdentificationParametersList &&
        namedParams 65535 d.cellIdentificationParametersList)))

def ReportItemAsn.satisfies (r : ReportItemAsn) : Bool :=
  namedParams 65535 r.parametersList

def NamedListAsn.satisfies (l : NamedListAsn) : Bool :=
  namedParams 65535 l.parametersList

def InsertItemAsn.satisfies (i : InsertItemAsn) : Bool :=
  i.insertIndicationList.all (isSequence 65535 NamedListAsn.satisfies)

def ControlItemAsn.satisfies (c : ControlItemAsn) : Bool :=
  c.controlActionList.all (isSequence 65535 NamedListAsn.satisfies) &&
    namedParams 255 c.outcomeParametersList

def PolicyActionItemAsn.satisfies (a : PolicyActionItemAsn) : Bool :=
  namedParams 65535 a.actionParametersList && namedParams 65535 a.conditionParametersList

def PolicyItemAsn.satisfies (p : PolicyItemAsn) : Bool :=
  p.policyActionList.all (isSequence 65535 PolicyActionItemAsn.satisfies)

def FunctionDefinitionAsn.satisfies (d : FunctionDefinitionAsn) : Bool :=
  d.eventTrigger.all FuncDefEvTrgAsn.satisfies &&
    (d.report.all (isSequence 63 ReportItemAsn.satisfies) &&
      (d.insert.all (isSequence 63 InsertItemAsn.satisfies) &&
        (d.control.all (isSequence 63 ControlItemAsn.satisfies) &&
          d.policy.all (isSequence 63 PolicyItemAsn.satisfies))))

/-! ## Encoders -/

/-- An array whose length is asserted, left out where it is empty. -/
def encBelow {α β : Type} (n : Nat) (f : α → Outcome β) (xs : List α) :
    Outcome (Option (List β)) := do
  assert (below n xs) "sz < n"
  encNonempty (walk f) xs

/-- `enc_ran_func_name`. -/
def encRanFuncName (src : RanFunctionName) : Outcome RanFunctionNameAsn := do
  assert src.instanceNo.isNone "not implemented"
  return ⟨src.name, src.oid, src.description, none⟩

/-- `enc_ran_func_def_ev_trg_sty_it`. -/
def encRanFuncDefEvTrgStyIt (src : SeqEvTrgStyle) : Outcome EvTrgStyleAsn := do
  let name ← sizedText 151 src.name
  return ⟨src.style.toNat, name, src.format.toNat⟩

/-- The body of the encoders of RAN parameters. -/
def encNamedParam (src : SeqRanParam3) : Outcome NamedParamAsn := do
  let id ← encParamId src.id
  let name ← sizedText 151 src.name
  let defn ← opt encRanParamDef src.defn
  return ⟨id, name, defn⟩

/-- `enc_seq_ran_param_l2_var`. -/
def encSeqRanParamL2Var : SeqRanParam3 → Outcome NamedParamAsn := encNamedParam

/-- `enc_seq_ran_param_3_2`. -/
def encSeqRanParam32 : SeqRanParam3 → Outcome NamedParamAsn := encNamedParam

/-- `enc_call_proc_break`. -/
def encCallProcBreak (src : CallProcBreak) : Outcome BreakpointAsn := do
  let id ← encId src.id
  let name ← sizedText 151 src.name
  let params ← encNonempty (walk encSeqRanParam32) src.param
  return ⟨id, name, params⟩

/-- `enc_seq_call_proc_type`; a name of 150 octets is refused. -/
def encSeqCallProcType (src : SeqCallProcType) : Outcome CallProcessAsn := do
  let id ← encId src.id
  let name ← sizedText 150 src.name
  let breaks ← sizedWalk 65536 encCallProcBreak src.callProcBreak
  return ⟨id, name, breaks⟩

/-- `enc_seq_ran_param_id_ue`. -/
def encSeqRanParamIdUe : SeqRanParam3 → Outcome NamedParamAsn := encNamedParam

/-- `enc_seq_ran_param_id_cell`. -/
def encSeqRanParamIdCell : SeqRanParam3 → Outcome NamedParamAsn := encNamedParam

/-- `enc_ran_func_def_ev_trg`. -/
def encRanFuncDefEvTrg (src : RanFuncDefEvTrig) : Outcome FuncDefEvTrgAsn := do
  let styles ← sizedWalk 64 encRanFuncDefEvTrgStyIt src.seqEvTrgStyle
  let l2 ← encNonempty (walk encSeqRanParamL2Var) src.seqRanParamL2Var
  let procs ← encNonempty (walk encSeqCallProcType) src.seqCallProcType
  let ues ← encNonempty (walk encSeqRanParamIdUe) src.seqRanParamIdUe
  let cells ← encNonempty (walk encSeqRanParamIdCell) src.seqRanParamIdCell
  return ⟨styles, l2, procs, ues, cells⟩

/-- `enc_seq_report_ran_param_it`. -/
def encSeqReportRanParamIt : SeqRanParam3 → Outcome NamedParamAsn := encNamedParam

/-- `enc_seq_report_sty`. -/
def encSeqReportSty (src : SeqReportSty) : Outcome ReportItemAsn := do
  let name ← sizedText 151 src.name
  let params ← encBelow 65536 encSeqReportRanParamIt src.ranParam
  return ⟨src.reportType.toNat, name, src.evTrigType.toNat, src.actFrmtType.toNat,
    src.indHdrType.toNat, src.indMsgType.toNat, params⟩

/-- `enc_ran_func_def_report`. -/
def encRanFuncDefReport (src : RanFuncDefReport) : Outcome (List ReportItemAsn) :=
  sizedWalk 64 encSeqReportSty src.seqReportSty

/-- `enc_seq_ins_ind_3`; the length of the name is not looked at. -/
def encSeqInsInd3 (src : SeqRanParam3) : Outcome NamedParamAsn := do
  let id ← encParamId src.id
  let defn ← opt encRanParamDef src.defn
  return ⟨id, src.name, defn⟩

/-- `enc_seq_ins_ind`. -/
def encSeqInsInd (src : SeqInsInd) : Outcome NamedListAsn := do
  let id ← encId src.id
  let name ← sizedText 151 src.name
  let params ← encBelow 65536 encSeqInsInd3 src.seqInsInd
  return ⟨id, name, params⟩

/-- `enc_seq_ins_sty`. -/
def encSeqInsSty (src : SeqInsSty) : Outcome InsertItemAsn := do
  let name ← sizedText 151 src.name
  let inds ← encNonempty (walk encSeqInsInd) src.seqInsInd
  return ⟨src.styleType.toNat, name, src.evTrigStyleType.toNat, src.actDefFrmtType.toNat, inds,
    src.indHdrFrmtType.toNat, src.indMsgFrmtType.toNat, src.callProcIdType.toNat⟩

/-- `enc_ran_func_def_insert`. -/
def encRanFuncDefInsert (src : RanFuncDefInsert) : Outcome (List InsertItemAsn) :=
  sizedWalk 64 encSeqInsSty src.seqInsSty

/-- `enc_ctrl_act_ran_param_it`. -/
def encCtrlActRanParamIt : SeqRanParam3 → Outcome NamedParamAsn := encNamedParam

/-- `enc_ran_func_def_ctrl_act_it`. -/
def encRanFuncDefCtrlActIt (src : SeqCtrlAct2) : Outcome NamedListAsn := do
  let id ← encId src.id
  let name ← sizedText 151 src.name
  let params ← encBelow 65536 encCtrlActRanParamIt src.assocRanParam
  return ⟨id, name, params⟩

/-- `enc_ran_func_def_ctrl_param_it`. -/
def encRanFuncDefCtrlParamIt : SeqRanParam3 → Outcome NamedParamAsn := encNamedParam

/-- `enc_ran_func_def_ctrl_it`; more than 255 outcome parameters are beyond the constraint. -/
def encRanFuncDefCtrlIt (src : SeqCtrlStyle) : Outcome ControlItemAsn := do
  let name ← sizedText 151 src.name
  let actions ← encBelow 65536 encRanFuncDefCtrlActIt src.seqCtrlAct
  let proc ← encAbsent src.callProcIdType
  let outs ← encBelow 65536 encRanFuncDefCtrlParamIt src.ranParamCtrlOut
  return ⟨src.styleType.toNat, name, actions, src.hdr.toNat, src.msg.toNat, proc,
    src.outFrmt.toNat, outs⟩

/-- `enc_ran_func_def_ctrl`. -/
def encRanFuncDefCtrl (src : RanFuncDefCtrl) : Outcome (List ControlItemAsn) :=
  sizedWalk 64 encRanFuncDefCtrlIt src.seqCtrlStyle

/-- `enc_ran_func_def_pol_act_it`. -/
def encRanFuncDefPolActIt : SeqRanParam3 → Outcome NamedParamAsn := encNamedParam

/-- `enc_ran_func_def_pol_cnd_it`. -/
def encRanFuncDefPolCndIt : SeqRanParam3 → Outcome NamedParamAsn := encNamedParam

/-- `enc_ran_func_def_pol_act`. -/
def encRanFuncDefPolAct (src : SeqPolAction) : Outcome PolicyActionItemAsn := do
  let name ← sizedText 151 src.name
  let params ← encBelow 65536 encRanFuncDefPolActIt src.seqAssocRpAction
  let conds ← encBelow 65536 encRanFuncDefPolCndIt src.seqAssocRpPolicy
  return ⟨src.actionId.toNat, name, src.frmtType.toNat, params, conds⟩

/-- `enc_ran_func_def_pol_it`. -/
def encRanFuncDefPolIt (src : SeqPolicySty) : Outcome PolicyItemAsn := do
  let name ← sizedText 151 src.name
  let actions ← encBelow 65536 encRanFuncDefPolAct src.seqPolAction
  return ⟨src.styleType.toNat, name, src.evTrgStyleType.toNat, actions⟩

/-- `enc_ran_func_def_policy`. -/
def encRanFuncDefPolicy (src : RanFuncDefPolicy) : Outcome (List PolicyItemAsn) :=
  sizedWalk 64 encRanFuncDefPolIt src.seqPolicySty

/-- The structure of `rc_enc_func_def_asn`. -/
def funcDefPdu (src : FuncDef) : Outcome FunctionDefinitionAsn := do
  let name ← encRanFuncName src.name
  let evTrig ← opt encRanFuncDefEvTrg src.evTrig
  let report ← opt encRanFuncDefReport src.report
  let insert ← opt encRanFuncDefInsert src.insert
  let ctrl ← opt encRanFuncDefCtrl src.ctrl
  let policy ← opt encRanFuncDefPolicy src.policy
  return ⟨name, evTrig, report, insert, ctrl, policy⟩

/-- `rc_enc_func_def_asn`, into 16 KiB. -/
def rcEncFuncDefAsn {Buf : Type} (rt : Asn1c FunctionDefinitionAsn Buf) (src : FuncDef) :
    Outcome Buf := do
  let pdu ← funcDefPdu src
  encodeInto (16 * 1024) rt pdu

/-! ## Decoders -/

/-- An array whose length is asserted where it is there. -/
def decBelow {α β : Type} (n : Nat) (f : α → Outcome β) : Option (List α) → Outcome (List β) :=
  decNonempty fun xs => do
    assert (below n xs) "list.count < n"
    walk f xs

/-- `dec_ran_func_name`; the instance is not looked at. -/
def decRanFuncName (src : RanFunctionNameAsn) : RanFunctionName :=
  ⟨src.shortName, src.e2smOid, src.description, none⟩

/-- `dec_seq_ev_trg_style`. -/
def decSeqEvTrgStyle (src : EvTrgStyleAsn) : Outcome SeqEvTrgStyle := do
  let name ← sizedText 151 src.styleName
  return ⟨longToU32 src.styleType, name, longToU32 src.formatType⟩

/-- The body of the decoders of RAN parameters, whose ids have an upper bound or not. -/
def decNamedParam (decId : UInt64 → Outcome UInt32) (src : NamedParamAsn) :
    Outcome SeqRanParam3 := do
  let id ← decId src.ranParameterId
  let name ← sizedText 151 src.ranParameterName
  let defn ← opt decRanParamDef src.ranParameterDefinition
  return ⟨id, name, defn⟩

/-- `dec_seq_ran_param_l2_var`. -/
def decSeqRanParamL2Var : NamedParamAsn → Outcome SeqRanParam3 := decNamedParam decParamIdBelow

/-- `dec_seq_ran_param_3`. -/
def decSeqRanParam3 : NamedParamAsn → Outcome SeqRanParam3 := decNamedParam decParamIdBelow

/-- `dec_call_proc_break`. -/
def decCallProcBreak (src : BreakpointAsn) : Outcome CallProcBreak := do
  let id ← decId src.breakpointId
  let name ← sizedText 151 src.breakpointName
  let params ← decNonempty (walk decSeqRanParam3) src.parametersList
  return ⟨id, name, params⟩

/-- `dec_seq_call_proc_type`. -/
def decSeqCallProcType (src : CallProcessAsn) : Outcome SeqCallProcType := do
  let id ← decId src.callProcessTypeId
  let name ← sizedText 151 src.callProcessTypeName
  let breaks ← sizedWalk 65536 decCallProcBreak src.breakpointsList
  return ⟨id, name, breaks⟩

/-- `dec_seq_ran_param_id_ue`. -/
def decSeqRanParamIdUe : NamedParamAsn → Outcome SeqRanParam3 := decNamedParam decParamIdBelow

/-- `dec_seq_ran_param_id_cell`. -/
def decSeqRanParamIdCell : NamedParamAsn → Outcome SeqRanParam3 := decNamedParam decParamIdBelow

/-- `dec_ran_fun_def_ev_trg`. -/
def decRanFunDefEvTrg (src : FuncDefEvTrgAsn) : Outcome RanFuncDefEvTrig := do
  let styles ← sizedWalk 64 decSeqEvTrgStyle src.styleList
  let l2 ← decNonempty (walk decSeqRanParamL2Var) src.l2ParametersList
  let procs ← decNonempty (walk decSeqCallProcType) src.callProcessTypesList
  let ues ← decNonempty (walk decSeqRanParamIdUe) src.ueIdentificationParametersList
  let cells ← decNonempty (walk decSeqRanParamIdCell) src.cellIdentificationParametersList
  return ⟨styles, l2, procs, ues, cells⟩

/-- `dec_seq_ran_param_report`. -/
def decSeqRanParamReport : NamedParamAsn → Outcome SeqRanParam3 := decNamedParam decParamId

/-- `dec_seq_report_sty`. -/
def decSeqReportSty (src : ReportItemAsn) : Outcome SeqReportSty := do
  let name ← sizedText 151 src.styleName
  let params ← decBelow 65536 decSeqRanParamReport src.parametersList
  return ⟨longToU32 src.styleType, name, longToU32 src.supportedEventTriggerStyleType,
    longToU32 src.actionFormatType, longToU32 src.indicationHeaderFormatType,
    longToU32 src.indicationMessageFormatType, params⟩

/-- `dec_ran_func_def_report`. -/
def decRanFuncDefReport (src : List ReportItemAsn) : Outcome RanFuncDefReport := do
  let styles ← sizedWalk 64 decSeqReportSty src
  return ⟨styles⟩

/-- `dec_seq_ins_ind_3`. -/
def decSeqInsInd3 : NamedParamAsn → Outcome SeqRanParam3 := decNamedParam decParamId

/-- `dec_seq_ins_ind`. -/
def decSeqInsInd (src : NamedListAsn) : Outcome SeqInsInd := do
  let id ← decIdOpen src.id
  let name ← sizedText 151 src.name
  let params ← decNonempty (walk decSeqInsInd3) src.parametersList
  return ⟨id, name, params⟩

/-- `dec_seq_ins_sty`. -/
def decSeqInsSty (src : InsertItemAsn) : Outcome SeqInsSty := do
  let name ← sizedText 151 src.styleName
  let inds ← decBelow 65536 decSeqInsInd src.insertIndicationList
  return ⟨longToU32 src.styleType, name, longToU32 src.supportedEventTriggerStyleType,
    longToU32 src.actionDefinitionFormatType, inds, longToU32 src.indicationHeaderFormatType,
    longToU32 src.indicationMessageFormatType, longToU32 src.callProcessIdFormatType⟩

/-- `dec_ran_func_def_insert`. -/
def decRanFuncDefInsert (src : List InsertItemAsn) : Outcome RanFuncDefInsert := do
  let styles ← sizedWalk 64 decSeqInsSty src
  return ⟨styles⟩

/-- `dec_assoc_ran_param`. -/
def decAssocRanParam : NamedParamAsn → Outcome SeqRanParam3 := decNamedParam decParamId

/-- `dec_ran_func_ctrl_act`. -/
def decRanFuncCtrlAct (src : NamedListAsn) : Outcome SeqCtrlAct2 := do
  let id ← decId src.id
  let name ← sizedText 151 src.name
  let params ← decBelow 65536 decAssocRanParam src.parametersList
  return ⟨id, name, params⟩

/-- `dec_ran_param_ctrl_out`. -/
def decRanParamCtrlOut : NamedParamAsn → Outcome SeqRanParam3 := decNamedParam decParamId

/-- `dec_ran_func_ctrl_it`. -/
def decRanFuncCtrlIt (src : ControlItemAsn) : Outcome SeqCtrlStyle := do
  let name ← sizedText 151 src.styleName
  let actions ← decBelow 65536 decRanFuncCtrlAct src.controlActionList
  let proc ← decAbsent src.callProcessIdFormatType
  let outs ← decBelow 256 decRanParamCtrlOut src.outcomeParametersList
  return ⟨longToU32 src.styleType, name, actions, longToU32 src.headerFormatType,
    longToU32 src.messageFormatType, proc, longToU32 src.outcomeFormatType, outs⟩

/-- `dec_ran_func_def_ctrl`. -/
def decRanFuncDefCtrl (src : List ControlItemAsn) : Outcome RanFuncDefCtrl := do
  let styles ← sizedWalk 64 decRanFuncCtrlIt src
  return ⟨styles⟩

/-- `dec_pol_act_ran_param_it`. -/
def decPolActRanParamIt : NamedParamAsn → Outcome SeqRanParam3 := decNamedParam decParamId

/-- `dec_pol_cnd_ran_param_it`. -/
def decPolCndRanParamIt : NamedParamAsn → Outcome SeqRanParam3 := decNamedParam decParamId

/-- `dec_seq_pol_action_it`. -/
def decSeqPolActionIt (src : PolicyActionItemAsn) : Outcome SeqPolAction := do
  let name ← sizedText 151 src.policyActionName
  let params ← decBelow 65536 decPolActRanParamIt src.actionParametersList
  let conds ← decBelow 65536 decPolCndRanParamIt src.conditionParametersList
  return ⟨longToU32 src.policyActionId, name, longToU32 src.actionDefinitionFormatType, params,
    conds⟩

/-- `dec_ran_func_def_policy_it`. -/
def decRanFuncDefPolicyIt (src : PolicyItemAsn) : Outcome SeqPolicySty := do
  let name ← sizedText 151 src.styleName
  let actions ← decBelow 65536 decSeqPolActionIt src.policyActionList
  return ⟨longToU32 src.styleType, name, longToU32 src.supportedEventTriggerStyleType, actions⟩

/-- `dec_ran_func_def_policy`. -/
def decRanFuncDefPolicy (src : List PolicyItemAsn) : Outcome RanFuncDefPolicy := do
  let styles ← sizedWalk 64 decRanFuncDefPolicyIt src
  return ⟨styles⟩

/-- What `rc_dec_func_def_asn` makes of the structure. -/
def funcDefOfPdu (src : FunctionDefinitionAsn) : Outcome FuncDef := do
  let name := decRanFuncName src.ranFunctionName
  let evTrig ← opt decRanFunDefEvTrg src.eventTrigger
  let report ← opt decRanFuncDefReport src.report
  let insert ← opt decRanFuncDefInsert src.insert
  let ctrl ← opt decRanFuncDefCtrl src.control
  let policy ← opt decRanFuncDefPolicy src.policy
  return ⟨name, evTrig, report, insert, ctrl, policy⟩

/-- `rc_dec_func_def_asn`. -/
def rcDecFuncDefAsn {Buf : Type} (rt : Asn1c FunctionDefinitionAsn Buf) (b : Buf) :
    Outcome FuncDef := do
  let pdu ← decodeFrom rt b
  funcDefOfPdu pdu

end Rc

end FlexRic
