import FlexRic.Kpm.FunctionDef

/-!
# FlexRic.Rc.RcTypes

The messages of the RC service model as the program holds them (`sm/rc_sm/ie/rc_data_ie.h`,
`sm/rc_sm/ie/ir`).

A pointer that may be NULL is an option, an array with its length is a list, and a union under a
type is a sum.  The values of RAN parameters, the tests of them and their definitions are trees.
-/

namespace FlexRic

namespace Rc

open Ue

/-! ## RAN parameters -/

/-- `ran_parameter_value_e`. -/
inductive RanParameterValueType where
  | boolean
  | integer
  | real
  | bitString
  | octetString
  | printableString
  deriving DecidableEq, Repr

/-- `ran_parameter_value_t`. -/
inductive RanParameterValue where
  | boolRan (v : Bool)
  | intRan (v : Int64)
  | realRan (v : Float)
  | bitStrRan (v : Bytes)
  | octetStrRan (v : Bytes)
  | printableStrRan (v : Bytes)

mutual

/-- `ran_param_val_type_t`; the structure is a `ran_param_struct_t`, the list a
`ran_param_list_t`. -/
inductive RanParamValType where
  | flagTrue (v : RanParameterValue)
  | flagFalse (v : RanParameterValue)
  | strct (s : List SeqRanParam)
  | lst (l : List LstRanParam)

/-- `seq_ran_param_t`. -/
structure SeqRanParam where
  ranParamId : UInt32
  ranParamVal : RanParamValType

/-- `lst_ran_param_t`. -/
structure LstRanParam where
  ranParamStruct : List SeqRanParam

end

/-- `seq_ran_param_2_t`. -/
structure SeqRanParam2 where
  ranParamId : UInt32
  ranParamValue : RanParameterValue

/-- `logical_or_e`. -/
inductive LogicalOr where
  | trueLogicalOr
  | falseLogicalOr
  deriving DecidableEq, Repr

/-- `ran_param_test_cond_comp_e`. -/
inductive RanParamTestCondComp where
  | equal
  | difference
  | greaterthan
  | lessthan
  | contains
  | startsWith
  deriving DecidableEq, Repr

/-- `ran_param_test_cond_presence_e`. -/
inductive RanParamTestCondPresence where
  | present
  | configured
  | rollover
  | nonZero
  deriving DecidableEq, Repr

/-- `ran_param_test_cond_t`. -/
inductive RanParamTestCond where
  | comparison (comp : RanParamTestCondComp)
  | presence (presence : RanParamTestCondPresence)
  deriving DecidableEq, Repr

/-- `ran_param_elm_key_false_t`. -/
structure RanParamElmKeyFalse where
  testCond : RanParamTestCond
  value : Option RanParameterValueType
  logicalOr : Option LogicalOr
  deriving DecidableEq, Repr

mutual

/-- The union of `ran_param_test_t`; lists and structures are arrays of tests. -/
inductive RanParamTestType where
  | lst (tests : List RanParamTest)
  | strct (tests : List RanParamTest)
  | flagTrue (v : RanParameterValue)
  | flagFalse (v : RanParamElmKeyFalse)

/-- `ran_param_test_t`. -/
structure RanParamTest where
  ranParamId : UInt32
  test : RanParamTestType

end

mutual

/-- `ran_param_def_t`; a list or a structure is a `ran_param_type_t`. -/
inductive RanParamDef where
  | lst (params : List RanParamLstStruct)
  | strct (params : List RanParamLstStruct)

/-- `ran_param_lst_struct_t`. -/
structure RanParamLstStruct where
  ranParamId : UInt32
  ranParamName : Bytes
  ranParamDef : Option RanParamDef

end

/-- `seq_ran_param_3_t`. -/
structure SeqRanParam3 where
  id : UInt32
  name : Bytes
  defn : Option RanParamDef

/-! ## Event triggers -/

/-- `network_interface_type_e`. -/
inductive NetworkInterfaceType where
  | ng
  | xn
  | f1
  | e1
  | s1
  | x2
  | w1
  deriving DecidableEq, Repr

/-- `global_en_gnb_id_t`. -/
structure GlobalEnGnbId where
  plmn : E2apPlmn
  enGnbId : UInt32
  deriving DecidableEq

/-- `x2_e2sm_t`. -/
inductive X2E2sm where
  | globalEnbId (id : GlobalEnbId)
  | globalEnGnbId (id : GlobalEnGnbId)
  deriving DecidableEq

/-- `network_interface_id_t`. -/
inductive NetworkInterfaceId where
  | ng (guami : Guami)
  | xn (id : GlobalNgRanNodeId)
  | f1 (globalGnbId : GlobalGnbId) (gnbDuId : UInt64)
  | e1 (globalGnbId : GlobalGnbId) (gnbCuUpId : UInt64)
  | s1 (gummei : Gummei)
  | x2 (id : X2E2sm)
  | w1 (globalNgEnbId : GlobalNgEnbId) (ngEnbDuId : UInt64)
  deriving DecidableEq

/-- `network_interface_msg_id_e`. -/
inductive NetworkInterfaceMsgType where
  | initiatingMessage
  | successfulOutcome
  | unsuccessfulOutcome
  deriving DecidableEq, Repr

/-- `network_interface_msg_id_t`. -/
structure NetworkInterfaceMsgId where
  interfaceProcId : UInt64
  msgType : NetworkInterfaceMsgType
  deriving DecidableEq, Repr

/-- `network_interface_e2rc_t`. -/
structure NetworkInterfaceE2rc where
  niType : NetworkInterfaceType
  niId : Option NetworkInterfaceId
  niMsgId : Option NetworkInterfaceMsgId
  deriving DecidableEq

/-- `lte_rrc_class_e`. -/
inductive LteRrcClass where
  | bcchBch
  | bcchBchMbms
  | bcchDlSch
  | bcchDlSchBr
  | bcchDlSchMbms
  | mcch
  | pcch
  | dlCcch
  | dlDcch
  | ulCcch
  | ulDcch
  | scMcch
  deriving DecidableEq, Repr

/-- `nr_rrc_class_e`. -/
inductive NrRrcClass where
  | bcchBch
  | bcchDlSch
  | dlCcch
  | dlDcch
  | pcch
  | ulCcch
  | ulCcch1
  | ulDcch
  deriving DecidableEq, Repr

/-- The union of `rrc_msg_id_t`. -/
inductive RrcType where
  | lte (c : LteRrcClass)
  | nr (c : NrRrcClass)
  deriving DecidableEq, Repr

/-- `rrc_msg_id_t`. -/
structure RrcMsgId where
  type : RrcType
  rrcMsgId : UInt64
  deriving DecidableEq, Repr

/-- `individual_ue_t`; the parameter is a `ran_param_t`. -/
structure IndividualUe where
  ueId : UeId
  ranParam : List RanParamTest

/-- The union of `assoc_ue_info_t`; a group is a `ran_param_t`. -/
inductive UeType where
  | individualUe (ue : IndividualUe)
  | ueGroup (group : List RanParamTest)

/-- `assoc_ue_info_t`. -/
structure AssocUeInfo where
  evTriggerUeId : UInt16
  ueType : UeType
  logOr : Option LogicalOr

/-- `ev_trigger_ue_info_t`. -/
structure EvTriggerUeInfo where
  assocUeInfo : List AssocUeInfo

/-- `ev_trigger_cell_info_t`. -/
structure EvTriggerCellInfo where
  dummy : UInt32
  deriving DecidableEq, Repr

/-- `e2rc_msg_dir_e`. -/
inductive E2rcMsgDir where
  | incoming
  | outgoing
  deriving DecidableEq, Repr

/-- The union of `msg_ev_trg_t`. -/
inductive MsgTypeEvTrg where
  | networkInterface (net : NetworkInterfaceE2rc)
  | rrcMsg (rrcMsg : RrcMsgId)
  deriving DecidableEq

/-- `msg_ev_trg_t`. -/
structure MsgEvTrg where
  evTriggerCondId : UInt16
  msgType : MsgTypeEvTrg
  msgDir : Option E2rcMsgDir
  assocUeInfo : Option EvTriggerUeInfo
  logOr : Option LogicalOr

/-- `e2sm_rc_ev_trg_frmt_1_t`. -/
structure EvTrgFrmt1 where
  msgEvTrg : List MsgEvTrg
  globalAssocUeInfo : Option EvTriggerUeInfo

/-- `e2sm_rc_ev_trg_frmt_2_t`; the node information is a `ran_param_cond_crit_def_t`. -/
structure EvTrgFrmt2 where
  callProcTypeId : UInt16
  callBreakId : UInt16
  assocE2NodeInfo : Option (List RanParamTest)
  assocUeInfo : Option EvTriggerUeInfo

/-- `e2_node_info_chng_t`. -/
structure E2NodeInfoChng where
  evTriggerCondId : UInt16
  e2NodeInfoChngId : UInt16
  evTriggerCellInfo : Option EvTriggerCellInfo
  logOr : Option LogicalOr
  deriving DecidableEq, Repr

/-- `e2sm_rc_ev_trg_frmt_3_t`. -/
structure EvTrgFrmt3 where
  e2NodeInfoChng : List E2NodeInfoChng
  deriving DecidableEq, Repr

/-- `rrc_state_e2sm_rc_e`. -/
inductive RrcStateE2smRc where
  | connected
  | inactive
  | idle
  | any
  deriving DecidableEq, Repr

/-- `rrc_state_t`. -/
structure RrcState where
  stateChngdTo : RrcStateE2smRc
  logOr : Option LogicalOr
  deriving DecidableEq, Repr

/-- The union of `ue_info_chng_t`; the states are a `rrc_state_lst_t`, the L2 state is a
`ran_param_cond_crit_def_t`. -/
inductive UeInfoChngTrigger where
  | rrcState (states : List RrcState)
  | ueIdChng (id : UInt16)
  | l2State (tests : List RanParamTest)

/-- `ue_info_chng_t`. -/
structure UeInfoChng where
  evTrigCondId : UInt16
  trigger : UeInfoChngTrigger
  assocUeInfo : Option EvTriggerUeInfo
  logOr : Option LogicalOr

/-- `e2sm_rc_ev_trg_frmt_4_t`. -/
structure EvTrgFrmt4 where
  ueInfoChng : List UeInfoChng

/-- `on_demand_frmt_5_e`. -/
inductive OnDemandFrmt5 where
  | trueOnDemand
  deriving DecidableEq, Repr

/-- `e2sm_rc_ev_trg_frmt_5_t`. -/
structure EvTrgFrmt5 where
  onDemand : OnDemandFrmt5
  assocUeInfo : Option EvTriggerUeInfo
  assocCellInfo : Option EvTriggerCellInfo

/-- `e2sm_rc_event_trigger_t`. -/
inductive EventTrigger where
  | frmt1 (frmt : EvTrgFrmt1)
  | frmt2 (frmt : EvTrgFrmt2)
  | frmt3 (frmt : EvTrgFrmt3)
  | frmt4 (frmt : EvTrgFrmt4)
  | frmt5 (frmt : EvTrgFrmt5)

/-- `e2sm_rc_ev_trigger_format_e`. -/
inductive EvTriggerFormat where
  | format1
  | format2
  | format3
  | format4
  | format5
  deriving DecidableEq, Repr

/-- The format of an event trigger. -/
def EventTrigger.format : EventTrigger → EvTriggerFormat
  | frmt1 _ => .format1
  | frmt2 _ => .format2
  | frmt3 _ => .format3
  | frmt4 _ => .format4
  | frmt5 _ => .format5

/-! ## Action definitions -/

/-- `param_report_def_t`. -/
structure ParamReportDef where
  ranParamId : UInt32
  ranParamDef : Option RanParamDef

/-- `e2sm_rc_act_def_frmt_1_t`. -/
structure ActDefFrmt1 where
  paramReportDef : List ParamReportDef

/-- `ric_pol_decision_e`. -/
inductive RicPolDecision where
  | accept
  | reject
  deriving DecidableEq, Repr

/-- `policy_action_t`. -/
structure PolicyAction where
  policyActId : UInt16
  seqRanParam : List SeqRanParam
  polDec : Option RicPolDecision

/-- `policy_cond_t`; the condition is a `ran_param_cond_crit_def_t`. -/
structure PolicyCond where
  polAct : PolicyAction
  pol : Option (List RanParamTest)

/-- `e2sm_rc_act_def_frmt_2_t`. -/
structure ActDefFrmt2 where
  policyCond : List PolicyCond

/-- `ran_param_ins_t`. -/
structure RanParamIns where
  ranId : UInt32
  defn : Option RanParamDef

/-- `e2sm_rc_act_def_frmt_3_t`. -/
structure ActDefFrmt3 where
  id : UInt16
  ranParam : List RanParamIns
  ueId : Option UeId

/-- `ran_param_ins_ind_t`. -/
structure RanParamInsInd where
  ranParamId : UInt32
  ranParamDef : Option RanParamDef

/-- `seq_ins_ind_act_def_t`. -/
structure SeqInsIndActDef where
  indId : UInt16
  ranParamInsInd : List RanParamInsInd

/-- `seq_ins_style_t`. -/
structure SeqInsStyle where
  reqInsertStyle : UInt32
  seqInsIndActDef : List SeqInsIndActDef

/-- `e2sm_rc_act_def_frmt_4_t`. -/
structure ActDefFrmt4 where
  seqInsStyle : List SeqInsStyle
  ueId : Option UeId

/-- The union of `e2sm_rc_action_def_t`. -/
inductive ActDefFormat where
  | frmt1 (frmt : ActDefFrmt1)
  | frmt2 (frmt : ActDefFrmt2)
  | frmt3 (frmt : ActDefFrmt3)
  | frmt4 (frmt : ActDefFrmt4)

/-- `e2sm_rc_action_def_t`. -/
structure ActionDef where
  ricStyleType : UInt32
  format : ActDefFormat

/-! ## Indication headers -/

/-- `e2sm_rc_ind_hdr_frmt_1_t`. -/
structure IndHdrFrmt1 where
  evTriggerId : Option UInt16
  deriving DecidableEq

/-- `e2sm_rc_ind_hdr_frmt_2_t`. -/
structure IndHdrFrmt2 where
  ueId : UeId
  ricStyleType : UInt32
  insIndId : UInt16

/-- `e2sm_rc_ind_hdr_frmt_3_t`. -/
structure IndHdrFrmt3 where
  evTriggerCond : Option UInt16
  ueId : Option UeId

/-- `e2sm_rc_ind_hdr_t`. -/
inductive IndHdr where
  | frmt1 (frmt : IndHdrFrmt1)
  | frmt2 (frmt : IndHdrFrmt2)
  | frmt3 (frmt : IndHdrFrmt3)

/-! ## Indication messages -/

/-- `e2sm_rc_ind_msg_frmt_1_t`. -/
structure IndMsgFrmt1 where
  seqRanParam : List SeqRanParam

/-- `seq_ue_id_t`. -/
structure SeqUeId where
  ueId : UeId
  seqRanParam : List SeqRanParam

/-- `e2sm_rc_ind_msg_frmt_2_t`. -/
structure IndMsgFrmt2 where
  seqUeId : List SeqUeId

/-- `neighbour_rela_tbl_t`. -/
structure NeighbourRelaTbl where
  dummy : UInt32
  deriving DecidableEq, Repr

/-- `seq_cell_info_t`. -/
structure SeqCellInfo where
  cellGlobalId : CellGlobalId
  cellCtxInfo : Option Bytes
  cellDel : Option Bool
  neighbourRelaTbl : Option NeighbourRelaTbl
  deriving DecidableEq

/-- `e2sm_rc_ind_msg_frmt_3_t`. -/
structure IndMsgFrmt3 where
  seqCellInfo : List SeqCellInfo
  deriving DecidableEq

/-- `seq_ue_info_t`. -/
structure SeqUeInfo where
  ueId : UeId
  ueCtxInfo : Option Bytes
  cellGlobalId : CellGlobalId

/-- `seq_cell_info_2_t`. -/
structure SeqCellInfo2 where
  cellGlobalId : CellGlobalId
  cellCtxInfo : Option Bytes
  neighbourRelaTbl : Option NeighbourRelaTbl
  deriving DecidableEq

/-- `e2sm_rc_ind_msg_frmt_4_t`. -/
structure IndMsgFrmt4 where
  seqUeInfo : List SeqUeInfo
  seqCellInfo2 : List SeqCellInfo2

/-- `e2sm_rc_ind_msg_frmt_5_t`. -/
structure IndMsgFrmt5 where
  seqRanParam : List SeqRanParam

/-- `ran_param_req_t`. -/
structure RanParamReq where
  ranParamId : UInt32
  ranParam : RanParamValType

/-- `seq_ins_ind_act_2_t`. -/
structure SeqInsIndAct2 where
  insIndId : UInt16
  ranParamReq : List RanParamReq

/-- `seq_ins_style_2_t`. -/
structure SeqInsStyle2 where
  indInsStyle : UInt32
  seqInsIndAct : List SeqInsIndAct2

/-- `e2sm_rc_ind_msg_frmt_6_t`. -/
structure IndMsgFrmt6 where
  seqInsStyle : List SeqInsStyle2

/-- `e2sm_rc_ind_msg_t`. -/
inductive IndMsg where
  | frmt1 (frmt : IndMsgFrmt1)
  | frmt2 (frmt : IndMsgFrmt2)
  | frmt3 (frmt : IndMsgFrmt3)
  | frmt4 (frmt : IndMsgFrmt4)
  | frmt5 (frmt : IndMsgFrmt5)
  | frmt6 (frmt : IndMsgFrmt6)

/-! ## Control headers -/

/-- `ric_ctrl_decision_e` and `ric_ctrl_dec_ctrl_hdr_frmt_2_e`. -/
inductive RicCtrlDecision where
  | accept
  | reject
  deriving DecidableEq, Repr

/-- `e2sm_rc_ctrl_hdr_frmt_1_t`. -/
structure CtrlHdrFrmt1 where
  ueId : UeId
  ricStyleType : UInt32
  ctrlActId : UInt16
  ricCtrlDecision : Option RicCtrlDecision

/-- `e2sm_rc_ctrl_hdr_frmt_2_t`. -/
structure CtrlHdrFrmt2 where
  ueId : Option UeId
  ricCtrlDec : Option RicCtrlDecision

/-- `e2sm_rc_ctrl_hdr_t`. -/
inductive CtrlHdr where
  | frmt1 (frmt : CtrlHdrFrmt1)
  | frmt2 (frmt : CtrlHdrFrmt2)

/-! ## Control messages -/

/-- `e2sm_rc_ctrl_msg_frmt_1_t`. -/
structure CtrlMsgFrmt1 where
  ranParam : List SeqRanParam

/-- `seq_ctrl_act_t`. -/
structure SeqCtrlAct where
  ctrlActId : UInt16
  ctrlMsgFrmt1 : Option CtrlMsgFrmt1

/-- `seq_ctrl_sma_t`. -/
structure SeqCtrlSma where
  ctrlStyle : UInt32
  seqCtrlAct : List SeqCtrlAct

/-- `e2sm_rc_ctrl_msg_frmt_2_t`. -/
structure CtrlMsgFrmt2 where
  action : List SeqCtrlSma

/-- `e2sm_rc_ctrl_msg_t`. -/
inductive CtrlMsg where
  | frmt1 (frmt : CtrlMsgFrmt1)
  | frmt2 (frmt : CtrlMsgFrmt2)

/-! ## Control outcomes -/

/-- `e2sm_rc_ctrl_out_frmt_1_t`. -/
structure CtrlOutFrmt1 where
  ranParam : List SeqRanParam2

/-- `seq_ctrl_act_out_t`. -/
structure SeqCtrlActOut where
  ctrlActId : UInt16
  ranParam : List SeqRanParam2

/-- `seq_ctrl_sty_mul_out_t`. -/
structure SeqCtrlStyMulOut where
  indCtrlStyle : UInt32
  seqCtrlActOut : List SeqCtrlActOut

/-- `e2sm_rc_ctrl_out_frmt_2_t`. -/
structure CtrlOutFrmt2 where
  seqCtrlStyMulOut : List SeqCtrlStyMulOut

/-- `e2sm_rc_ctrl_out_frmt_3_t`. -/
structure CtrlOutFrmt3 where
  ranParam : List SeqRanParam

/-- `e2sm_rc_ctrl_out_t`. -/
inductive CtrlOut where
  | frmt1 (frmt : CtrlOutFrmt1)
  | frmt2 (frmt : CtrlOutFrmt2)
  | frmt3 (frmt : CtrlOutFrmt3)

/-! ## RAN function definitions -/

/-- `seq_ev_trg_style_t`. -/
structure SeqEvTrgStyle where
  style : UInt32
  name : Bytes
  format : UInt32
  deriving DecidableEq

/-- `call_proc_break_t`. -/
structure CallProcBreak where
  id : UInt16
  name : Bytes
  param : List SeqRanParam3

/-- `seq_call_proc_type_t`. -/
structure SeqCallProcType where
  id : UInt16
  name : Bytes
  callProcBreak : List CallProcBreak

/-- `ran_func_def_ev_trig_t`. -/
structure RanFuncDefEvTrig where
  seqEvTrgStyle : List SeqEvTrgStyle
  seqRanParamL2Var : List SeqRanParam3
  seqCallProcType : List SeqCallProcType
  seqRanParamIdUe : List SeqRanParam3
  seqRanParamIdCell : List SeqRanParam3

/-- `seq_report_sty_t`. -/
structure SeqReportSty where
  reportType : UInt32
  name : Bytes
  evTrigType : UInt32
  actFrmtType : UInt32
  indHdrType : UInt32
  indMsgType : UInt32
  ranParam : List SeqRanParam3

/-- `ran_func_def_report_t`. -/
structure RanFuncDefReport where
  seqReportSty : List SeqReportSty

/-- `seq_ins_ind_t`. -/
structure SeqInsInd where
  id : UInt16
  name : Bytes
  seqInsInd : List SeqRanParam3

/-- `seq_ins_sty_t`. -/
structure SeqInsSty where
  styleType : UInt32
  name : Bytes
  evTrigStyleType : UInt32
  actDefFrmtType : UInt32
  seqInsInd : List SeqInsInd
  indHdrFrmtType : UInt32
  indMsgFrmtType : UInt32
  callProcIdType : UInt32

/-- `ran_func_def_insert_t`. -/
structure RanFuncDefInsert where
  seqInsSty : List SeqInsSty

/-- `seq_ctrl_act_2_t`. -/
structure SeqCtrlAct2 where
  id : UInt16
  name : Bytes
  assocRanParam : List SeqRanParam3

/-- `call_proc_id_frmt_t`. -/
structure CallProcIdFrmt where
  dummy : UInt32
  deriving DecidableEq, Repr

/-- `seq_ctrl_style_t`. -/
structure SeqCtrlStyle where
  styleType : UInt32
  name : Bytes
  seqCtrlAct : List SeqCtrlAct2
  hdr : UInt32
  msg : UInt32
  callProcIdType : Option CallProcIdFrmt
  outFrmt : UInt32
  ranParamCtrlOut : List SeqRanParam3

/-- `ran_func_def_ctrl_t`. -/
structure RanFuncDefCtrl where
  seqCtrlStyle : List SeqCtrlStyle

/-- `seq_pol_action_t`. -/
structure SeqPolAction where
  actionId : UInt32
  name : Bytes
  frmtType : UInt32
  seqAssocRpAction : List SeqRanParam3
  seqAssocRpPolicy : List SeqRanParam3

/-- `seq_policy_sty_t`. -/
structure SeqPolicySty where
  styleType : UInt32
  name : Bytes
  evTrgStyleType : UInt32
  seqPolAction : List SeqPolAction

/-- `ran_func_def_policy_t`. -/
structure RanFuncDefPolicy where
  seqPolicySty : List SeqPolicySty

/-- `e2sm_rc_func_def_t`. -/
structure FuncDef where
  name : Kpm.RanFunctionName
  evTrig : Option RanFuncDefEvTrig
  report : Option RanFuncDefReport
  insert : Option RanFuncDefInsert
  ctrl : Option RanFuncDefCtrl
  policy : Option RanFuncDefPolicy

end Rc

end FlexRic
