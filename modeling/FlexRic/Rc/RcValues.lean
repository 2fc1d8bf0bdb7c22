import FlexRic.Kpm.Comparisons
import FlexRic.Rc.ParamValues

/-!
# FlexRic.Rc.RcValues

The comparisons and copies of event triggers, action definitions, indication and control messages
and RAN function definitions, and the releases of triggers and function definitions
(`sm/rc_sm/ie/rc_data_ie.c`, `sm/rc_sm/ie/ir`).

* `eq_e2sm_rc_event_trigger` looks at the format of the first trigger only, and reads the union of
  the second one in it (`Reread`).
* `eq_e2_node_info_chng` compares nothing, `eq_seq_ins_ind_act_def` not the id.
* `eq_seq_ue_id`, `eq_seq_ins_style_2` and `eq_e2sm_rc_ind_msg_frmt_4` run over an array without a
  look at the length of the other one.
* Many optional fields are asserted to be NULL by all three functions.
-/

namespace FlexRic

namespace Rc

open Outcome Ue

/-- Of a length below `n`. -/
def below {α : Type} (n : Nat) (xs : List α) : Bool := decide (xs.length < n)

/-! ## Event triggers -/

/-- No identifier of the interface or of the message. -/
def NetworkInterfaceE2rc.bare (m : NetworkInterfaceE2rc) : Bool :=
  m.niId.isNone && m.niMsgId.isNone

/-- `eq_network_interface_e2rc`. -/
def eqNetworkInterfaceE2rc (m0 m1 : NetworkInterfaceE2rc) : Outcome Bool :=
  both (.next (m0.niType == m1.niType)) do
    assert (m0.bare && m1.bare) "Not implemented"
    return true

/-- `cp_network_interface_e2rc`. -/
def cpNetworkInterfaceE2rc (src : NetworkInterfaceE2rc) : Outcome NetworkInterfaceE2rc := do
  assert src.bare "Not implemented"
  return ⟨src.niType, none, none⟩

/-- `free_network_interface_e2rc`. -/
def freeNetworkInterfaceE2rc (src : NetworkInterfaceE2rc) : Outcome PUnit.{1} :=
  assert src.bare "Not implemented"

/-- `eq_rrc_msg_id`. -/
def eqRrcMsgId (m0 m1 : RrcMsgId) : Bool := m0.type == m1.type && m0.rrcMsgId == m1.rrcMsgId

/-- `cp_rrc_msg_id`. -/
def cpRrcMsgId (src : RrcMsgId) : RrcMsgId := ⟨src.type, src.rrcMsgId⟩

/-- The union of `eq_msg_ev_trg`. -/
def eqMsgTypeEvTrg : MsgTypeEvTrg → MsgTypeEvTrg → Outcome Bool
  | .networkInterface n0, .networkInterface n1 => eqNetworkInterfaceE2rc n0 n1
  | .rrcMsg r0, .rrcMsg r1 => return eqRrcMsgId r0 r1
  | _, _ => return false

/-- No direction, no UE information and no disjunction. -/
def MsgEvTrg.bare (m : MsgEvTrg) : Bool :=
  m.msgDir.isNone && m.assocUeInfo.isNone && m.logOr.isNone

/-- `eq_msg_ev_trg`. -/
def eqMsgEvTrg (m0 m1 : MsgEvTrg) : Outcome Bool :=
  both (.next (m0.evTriggerCondId == m1.evTriggerCondId)) <|
    both (eqMsgTypeEvTrg m0.msgType m1.msgType) do
      assert (m0.bare && m1.bare) "Not implemented"
      return true

/-- The union of `cp_msg_ev_trg`. -/
def cpMsgTypeEvTrg : MsgTypeEvTrg → Outcome MsgTypeEvTrg
  | .networkInterface n => do
    let n ← cpNetworkInterfaceE2rc n
    return .networkInterface n
  | .rrcMsg r => return .rrcMsg (cpRrcMsgId r)

/-- `cp_msg_ev_trg`. -/
def cpMsgEvTrg (src : MsgEvTrg) : Outcome MsgEvTrg := do
  assert (0 < src.evTriggerCondId) "src->ev_trigger_cond_id > 0"
  let msgType ← cpMsgTypeEvTrg src.msgType
  assert src.bare "Not implemented"
  return ⟨src.evTriggerCondId, msgType, none, none, none⟩

/-- The union of `free_msg_ev_trg`. -/
def freeMsgTypeEvTrg : MsgTypeEvTrg → Outcome PUnit.{1}
  | .networkInterface n => freeNetworkInterfaceE2rc n
  | .rrcMsg _ => return ⟨⟩

/-- `free_msg_ev_trg`. -/
def freeMsgEvTrg (src : MsgEvTrg) : Outcome PUnit.{1} := do
  freeMsgTypeEvTrg src.msgType
  assert src.bare "Not implemented"

/-- `eq_e2sm_rc_ev_trg_frmt_1`. -/
def eqEvTrgFrmt1 (m0 m1 : EvTrgFrmt1) : Outcome Bool := do
  assert (sized 65536 m0.msgEvTrg && sized 65536 m1.msgEvTrg)
    "m0->sz_msg_ev_trg > 0 && m0->sz_msg_ev_trg < 65535 + 1"
  both (allEq eqMsgEvTrg m0.msgEvTrg m1.msgEvTrg) do
    assert (m0.globalAssocUeInfo.isNone && m1.globalAssocUeInfo.isNone) "Not implemented"
    return true

/-- `cp_e2sm_rc_ev_trg_frmt_1`. -/
def cpEvTrgFrmt1 (src : EvTrgFrmt1) : Outcome EvTrgFrmt1 := do
  assert (sized 65536 src.msgEvTrg) "src->sz_msg_ev_trg > 0 && src->sz_msg_ev_trg < 65536"
  let msgEvTrg ← walk cpMsgEvTrg src.msgEvTrg
  assert src.globalAssocUeInfo.isNone "Not implemeneted"
  return ⟨msgEvTrg, none⟩

/-- `free_e2sm_rc_ev_trg_frmt_1`. -/
def freeEvTrgFrmt1 (src : EvTrgFrmt1) : Outcome PUnit.{1} := do
  assert (sized 65536 src.msgEvTrg) "src->sz_msg_ev_trg > 0 && src->sz_msg_ev_trg < 65535 + 1"
  each freeMsgEvTrg src.msgEvTrg
  assert src.globalAssocUeInfo.isNone "Not implemented"

/-- No information on the node or the UE. -/
def EvTrgFrmt2.bare (m : EvTrgFrmt2) : Bool := m.assocE2NodeInfo.isNone && m.assocUeInfo.isNone

/-- `eq_e2sm_rc_ev_trg_frmt_2`. -/
def eqEvTrgFrmt2 (m0 m1 : EvTrgFrmt2) : Outcome Bool := do
  assert (decide (0 < m0.callProcTypeId) && decide (0 < m1.callProcTypeId)) "Out of range"
  both (.next (m0.callProcTypeId == m1.callProcTypeId)) do
    assert (decide (0 < m0.callBreakId) && decide (0 < m1.callBreakId)) "Out of range"
    both (.next (m0.callBreakId == m1.callBreakId)) do
      assert (m0.bare && m1.bare) "Not implemented"
      return true

/-- `cp_e2sm_rc_ev_trg_frmt_2`. -/
def cpEvTrgFrmt2 (src : EvTrgFrmt2) : Outcome EvTrgFrmt2 := do
  assert (0 < src.callProcTypeId) "src->call_proc_type_id > 0"
  assert (0 < src.callBreakId) "src->call_break_id > 0"
  assert src.bare "Not implemented"
  return ⟨src.callProcTypeId, src.callBreakId, none, none⟩

/-- `free_e2sm_rc_ev_trg_frmt_2`. -/
def freeEvTrgFrmt2 (src : EvTrgFrmt2) : Outcome PUnit.{1} := do
  assert (0 < src.callProcTypeId) "src->call_proc_type_id > 0"
  assert (0 < src.callBreakId) "src->call_break_id > 0"
  assert src.bare "Not implemented"

/-- The ids are in their ranges. -/
def E2NodeInfoChng.inRange (m : E2NodeInfoChng) : Bool :=
  decide (0 < m.evTriggerCondId) &&
    (decide (0 < m.e2NodeInfoChngId) && decide (m.e2NodeInfoChngId < 513))

/-- No cell information and no disjunction. -/
def E2NodeInfoChng.bare (m : E2NodeInfoChng) : Bool :=
  m.evTriggerCellInfo.isNone && m.logOr.isNone

/-- `eq_e2_node_info_chng`. -/
def eqE2NodeInfoChng (m0 m1 : E2NodeInfoChng) : Outcome Bool := do
  assert (m0.inRange && m1.inRange)
    "m0->e2_node_info_chng_id > 0 && m0->e2_node_info_chng_id < 513"
  assert (m0.bare && m1.bare) "Not implemented"
  return true

/-- `cp_e2_node_info_chng`. -/
def cpE2NodeInfoChng (src : E2NodeInfoChng) : Outcome E2NodeInfoChng := do
  assert src.inRange "src->e2_node_info_chng_id > 0 && src->e2_node_info_chng_id < 513"
  assert src.bare "Not implemented"
  return ⟨src.evTriggerCondId, src.e2NodeInfoChngId, none, none⟩

/-- `free_e2_node_info_chng`. -/
def freeE2NodeInfoChng (src : E2NodeInfoChng) : Outcome PUnit.{1} :=
  assert src.bare "Not implemented"

/-- `eq_e2sm_rc_ev_trg_frmt_3`. -/
def eqEvTrgFrmt3 (m0 m1 : EvTrgFrmt3) : Outcome Bool := do
  assert (sized 65536 m0.e2NodeInfoChng && sized 65536 m1.e2NodeInfoChng) "Out of range"
  allEq eqE2NodeInfoChng m0.e2NodeInfoChng m1.e2NodeInfoChng

/-- `cp_e2sm_rc_ev_trg_frmt_3`. -/
def cpEvTrgFrmt3 (src : EvTrgFrmt3) : Outcome EvTrgFrmt3 := do
  assert (sized 65536 src.e2NodeInfoChng)
    "src->sz_e2_node_info_chng > 0 && src->sz_e2_node_info_chng < 65536"
  let e2NodeInfoChng ← walk cpE2NodeInfoChng src.e2NodeInfoChng
  return ⟨e2NodeInfoChng⟩

/-- `free_e2sm_rc_ev_trg_frmt_3`. -/
def freeEvTrgFrmt3 (src : EvTrgFrmt3) : Outcome PUnit.{1} := do
  assert (0 < src.e2NodeInfoChng.length) "Not implemented"
  each freeE2NodeInfoChng src.e2NodeInfoChng

/-- `eq_rrc_state`. -/
def eqRrcState (m0 m1 : RrcState) : Outcome Bool :=
  both (.next (m0.stateChngdTo == m1.stateChngdTo)) do
    assert (m0.logOr.isNone && m1.logOr.isNone) "Not implemented"
    return true

/-- `cp_rrc_state`. -/
def cpRrcState (src : RrcState) : Outcome RrcState := do
  assert src.logOr.isNone "Not implemented"
  return ⟨src.stateChngdTo, none⟩

/-- `free_rrc_state`. -/
def freeRrcState (src : RrcState) : Outcome PUnit.{1} := assert src.logOr.isNone "Not implemented"

/-- The id of a change of UE ids is in its range. -/
def ueIdInRange (id : UInt16) : Bool := decide (0 < id) && decide (id < 513)

/-- The union of `eq_ue_info_chng`. -/
def eqUeInfoChngTrigger : UeInfoChngTrigger → UeInfoChngTrigger → Outcome Bool
  | .rrcState s0, .rrcState s1 => sameType (allEq eqRrcState s0 s1)
  | .ueIdChng i0, .ueIdChng i1 => sameType (.next (i0 == i1))
  | .l2State t0, .l2State t1 => sameType (eqRanParamCondCritDef t0 t1)
  | _, _ => return false

/-- The union of `cp_ue_info_chng`. -/
def cpUeInfoChngTrigger : UeInfoChngTrigger → Outcome UeInfoChngTrigger
  | .rrcState s => do
    assert (sized 9 s) "src->sz_rrc_state > 0 && src->sz_rrc_state < 9"
    let s ← walk cpRrcState s
    return .rrcState s
  | .ueIdChng i => do
    assert (ueIdInRange i) "src->ue_id_chng > 0 && src->ue_id_chng < 513"
    return .ueIdChng i
  | .l2State t => do
    let t ← cpRanParamCondCritDef t
    return .l2State t

/-- The union of `free_ue_info_chng`. -/
def freeUeInfoChngTrigger : UeInfoChngTrigger → Outcome PUnit.{1}
  | .rrcState s => do
    assert (sized 9 s) "Out of range"
    each freeRrcState s
  | .ueIdChng i => assert (ueIdInRange i) "src-> ue_id_chng > 0 && src->ue_id_chng < 513"
  | .l2State t => freeRanParamCondCritDef t

/-- No UE information and no disjunction. -/
def UeInfoChng.bare (m : UeInfoChng) : Bool := m.assocUeInfo.isNone && m.logOr.isNone

/-- `eq_ue_info_chng`. -/
def eqUeInfoChng (m0 m1 : UeInfoChng) : Outcome Bool := do
  assert (decide (0 < m0.evTrigCondId) && decide (0 < m1.evTrigCondId)) "m0->ev_trig_cond_id > 0"
  both (.next (m0.evTrigCondId == m1.evTrigCondId)) <|
    both (eqUeInfoChngTrigger m0.trigger m1.trigger) do
      assert (m0.bare && m1.bare) "Not implemented"
      return true

/-- `cp_ue_info_chng`. -/
def cpUeInfoChng (src : UeInfoChng) : Outcome UeInfoChng := do
  assert (0 < src.evTrigCondId) "src->ev_trig_cond_id > 0"
  let trigger ← cpUeInfoChngTrigger src.trigger
  assert src.bare "Not implemented"
  return ⟨src.evTrigCondId, trigger, none, none⟩

/-- `free_ue_info_chng`. -/
def freeUeInfoChng (src : UeInfoChng) : Outcome PUnit.{1} := do
  freeUeInfoChngTrigger src.trigger
  assert src.bare "Not implemented"

/-- `eq_e2sm_rc_ev_trg_frmt_4`. -/
def eqEvTrgFrmt4 (m0 m1 : EvTrgFrmt4) : Outcome Bool := do
  assert (sized 65536 m0.ueInfoChng && sized 65536 m1.ueInfoChng)
    "m0->sz_ue_info_chng > 0 && m0->sz_ue_info_chng < 65535 + 1"
  allEq eqUeInfoChng m0.ueInfoChng m1.ueInfoChng

/-- `cp_e2sm_rc_ev_trg_frmt_4`. -/
def cpEvTrgFrmt4 (src : EvTrgFrmt4) : Outcome EvTrgFrmt4 := do
  assert (sized 65536 src.ueInfoChng) "src->sz_ue_info_chng > 0 && src->sz_ue_info_chng < 65536"
  let ueInfoChng ← walk cpUeInfoChng src.ueInfoChng
  return ⟨ueInfoChng⟩

/-- `free_e2sm_rc_ev_trg_frmt_4`. -/
def freeEvTrgFrmt4 (src : EvTrgFrmt4) : Outcome PUnit.{1} := do
  assert (sized 65536 src.ueInfoChng) "src->sz_ue_info_chng > 0 && src->sz_ue_info_chng < 65535 + 1"
  each freeUeInfoChng src.ueInfoChng

/-- No information on UEs or cells. -/
def EvTrgFrmt5.bare (m : EvTrgFrmt5) : Bool := m.assocUeInfo.isNone && m.assocCellInfo.isNone

/-- `eq_e2sm_rc_ev_trg_frmt_5`. -/
def eqEvTrgFrmt5 (m0 m1 : EvTrgFrmt5) : Outcome Bool :=
  both (.next (m0.onDemand == m1.onDemand)) do
    assert (m0.bare && m1.bare) "Not implemented"
    return true

/-- `cp_e2sm_rc_ev_trg_frmt_5`. -/
def cpEvTrgFrmt5 (src : EvTrgFrmt5) : Outcome EvTrgFrmt5 := do
  assert src.bare "Not implemented"
  return ⟨src.onDemand, none, none⟩

/-- `free_e2sm_rc_ev_trg_frmt_5`. -/
def freeEvTrgFrmt5 (src : EvTrgFrmt5) : Outcome PUnit.{1} := assert src.bare "Not implemented"

/-- What the bytes of a trigger's union are in a format; they need not be a value of it. -/
structure Reread where
  frmt1 : EventTrigger → Option EvTrgFrmt1
  frmt2 : EventTrigger → Option EvTrgFrmt2
  frmt3 : EventTrigger → Option EvTrgFrmt3
  frmt4 : EventTrigger → Option EvTrgFrmt4
  frmt5 : EventTrigger → Option EvTrgFrmt5

/-- A comparison with what is read, if it is a value. -/
def eqRead {α : Type} (eq : α → α → Outcome Bool) (m0 : α) (m1 : Option α) : Outcome Bool := do
  let m1 ← expect m1 "no value of the format"
  eq m0 m1

/-- `eq_e2sm_rc_event_trigger`: the format of `m1` is not looked at. -/
def eqEventTrigger (rr : Reread) : EventTrigger → EventTrigger → Outcome Bool
  | .frmt1 f0, .frmt1 f1 => eqEvTrgFrmt1 f0 f1
  | .frmt2 f0, .frmt2 f1 => eqEvTrgFrmt2 f0 f1
  | .frmt3 f0, .frmt3 f1 => eqEvTrgFrmt3 f0 f1
  | .frmt4 f0, .frmt4 f1 => eqEvTrgFrmt4 f0 f1
  | .frmt5 f0, .frmt5 f1 => eqEvTrgFrmt5 f0 f1
  | .frmt1 f0, m1 => eqRead eqEvTrgFrmt1 f0 (rr.frmt1 m1)
  | .frmt2 f0, m1 => eqRead eqEvTrgFrmt2 f0 (rr.frmt2 m1)
  | .frmt3 f0, m1 => eqRead eqEvTrgFrmt3 f0 (rr.frmt3 m1)
  | .frmt4 f0, m1 => eqRead eqEvTrgFrmt4 f0 (rr.frmt4 m1)
  | .frmt5 f0, m1 => eqRead eqEvTrgFrmt5 f0 (rr.frmt5 m1)

/-- `cp_e2sm_rc_event_trigger`. -/
def cpEventTrigger : EventTrigger → Outcome EventTrigger
  | .frmt1 f => do
    let f ← cpEvTrgFrmt1 f
    return .frmt1 f
  | .frmt2 f => do
    let f ← cpEvTrgFrmt2 f
    return .frmt2 f
  | .frmt3 f => do
    let f ← cpEvTrgFrmt3 f
    return .frmt3 f
  | .frmt4 f => do
    let f ← cpEvTrgFrmt4 f
    return .frmt4 f
  | .frmt5 f => do
    let f ← cpEvTrgFrmt5 f
    return .frmt5 f

/-- `free_e2sm_rc_event_trigger`. -/
def freeEventTrigger : EventTrigger → Outcome PUnit.{1}
  | .frmt1 f => freeEvTrgFrmt1 f
  | .frmt2 f => freeEvTrgFrmt2 f
  | .frmt3 f => freeEvTrgFrmt3 f
  | .frmt4 f => freeEvTrgFrmt4 f
  | .frmt5 f => freeEvTrgFrmt5 f

/-! ## Action definitions -/

/-- `eq_param_report_def`. -/
def eqParamReportDef (m0 m1 : ParamReportDef) : Outcome Bool := do
  assert (decide (0 < m0.ranParamId) && decide (0 < m1.ranParamId)) "m0->ran_param_id > 0"
  both (.next (m0.ranParamId == m1.ranParamId)) <|
    eqOptional eqRanParamDef m0.ranParamDef m1.ranParamDef

/-- `cp_param_report_def`. -/
def cpParamReportDef (src : ParamReportDef) : Outcome ParamReportDef := do
  assert (0 < src.ranParamId) "src->ran_param_id > 0"
  let ranParamDef ← opt cpRanParamDef src.ranParamDef
  return ⟨src.ranParamId, ranParamDef⟩

/-- `eq_e2sm_rc_act_def_frmt_1`. -/
def eqActDefFrmt1 (m0 m1 : ActDefFrmt1) : Outcome Bool := do
  assert (decide (0 < m0.paramReportDef.length) && decide (0 < m1.paramReportDef.length))
    "m0->sz_param_report_def > 0"
  allEqMust eqParamReportDef m0.paramReportDef m1.paramReportDef

/-- `cp_e2sm_rc_act_def_frmt_1`. -/
def cpActDefFrmt1 (src : ActDefFrmt1) : Outcome ActDefFrmt1 := do
  assert (sized 65536 src.paramReportDef)
    "src->sz_param_report_def > 0 && src->sz_param_report_def < 65536"
  let paramReportDef ← walk cpParamReportDef src.paramReportDef
  return ⟨paramReportDef⟩

/-- `eq_policy_action`. -/
def eqPolicyAction (m0 m1 : PolicyAction) : Outcome Bool := do
  assert (decide (0 < m0.policyActId) && decide (0 < m1.policyActId)) "m0->policy_act_id > 0"
  both (.next (m0.policyActId == m1.policyActId)) do
    assert (below 65535 m0.seqRanParam && below 65535 m1.seqRanParam)
      "m0->sz_seq_ran_param < 65535"
    both (allEq eqSeqRanParam m0.seqRanParam m1.seqRanParam) do
      assert (m0.polDec.isNone && m1.polDec.isNone) "Not implemented"
      return true

/-- `cp_policy_action`. -/
def cpPolicyAction (src : PolicyAction) : Outcome PolicyAction := do
  assert (0 < src.policyActId) "src->policy_act_id > 0"
  assert (below 65536 src.seqRanParam) "src->sz_seq_ran_param < 65536"
  let seqRanParam ← walk cpSeqRanParam src.seqRanParam
  assert src.polDec.isNone "Not implemented"
  return ⟨src.policyActId, seqRanParam, none⟩

/-- `eq_policy_cond`. -/
def eqPolicyCond (m0 m1 : PolicyCond) : Outcome Bool :=
  both (eqPolicyAction m0.polAct m1.polAct) do
    assert (m0.pol.isNone && m1.pol.isNone) "Not implmented"
    return true

/-- `cp_policy_cond`. -/
def cpPolicyCond (src : PolicyCond) : Outcome PolicyCond := do
  let polAct ← cpPolicyAction src.polAct
  assert src.pol.isNone "Not implemented"
  return ⟨polAct, none⟩

/-- `eq_e2sm_rc_act_def_frmt_2`. -/
def eqActDefFrmt2 (m0 m1 : ActDefFrmt2) : Outcome Bool := do
  assert (sized 65536 m0.policyCond && sized 65536 m1.policyCond)
    "m0->sz_policy_cond > 0 && m0->sz_policy_cond < 65535 +1"
  allEqMust eqPolicyCond m0.policyCond m1.policyCond

/-- `cp_e2sm_rc_act_def_frmt_2`. -/
def cpActDefFrmt2 (src : ActDefFrmt2) : Outcome ActDefFrmt2 := do
  assert (sized 65536 src.policyCond) "src->sz_policy_cond > 0 && src->sz_policy_cond < 65536"
  let policyCond ← walk cpPolicyCond src.policyCond
  return ⟨policyCond⟩

/-- `eq_ran_param_ins`. -/
def eqRanParamIns (m0 m1 : RanParamIns) : Outcome Bool :=
  both (.next (m0.ranId == m1.ranId)) do
    assert (m0.defn.isNone && m1.defn.isNone) "Not implemented"
    return true

/-- `cp_ran_param_ins`. -/
def cpRanParamIns (src : RanParamIns) : Outcome RanParamIns := do
  assert (0 < src.ranId) "src->ran_id > 0"
  assert src.defn.isNone "Not implemented"
  return ⟨src.ranId, none⟩

/-- `eq_e2sm_rc_act_def_frmt_3`. -/
def eqActDefFrmt3 (m0 m1 : ActDefFrmt3) : Outcome Bool :=
  both (.next (m0.id == m1.id)) do
    assert (decide (0 < m0.ranParam.length) && decide (0 < m1.ranParam.length))
      "m0->sz_ran_param_ins > 0"
    both (allEqMust eqRanParamIns m0.ranParam m1.ranParam) do
      assert (m0.ueId.isNone && m1.ueId.isNone) "Not implemented"
      return true

/-- `cp_e2sm_rc_act_def_frmt_3`. -/
def cpActDefFrmt3 (src : ActDefFrmt3) : Outcome ActDefFrmt3 := do
  assert (0 < src.id) "src->id > 0"
  assert (sized 65536 src.ranParam) "src->sz_ran_param_ins > 0 && src->sz_ran_param_ins < 65536"
  let ranParam ← walk cpRanParamIns src.ranParam
  return ⟨src.id, ranParam, src.ueId.map cpUeIdE2sm⟩

/-- `eq_ran_param_ins_ind`. -/
def eqRanParamInsInd (m0 m1 : RanParamInsInd) : Outcome Bool := do
  assert (decide (0 < m0.ranParamId) && decide (0 < m1.ranParamId)) "m0->ran_param_id > 0"
  both (.next (m0.ranParamId == m1.ranParamId)) do
    assert (m0.ranParamDef.isNone && m1.ranParamDef.isNone) "Not implemented"
    return true

/-- `cp_ran_param_ins_ind`. -/
def cpRanParamInsInd (src : RanParamInsInd) : Outcome RanParamInsInd := do
  assert (0 < src.ranParamId) "src->ran_param_id > 0"
  assert src.ranParamDef.isNone "Not implemented"
  return ⟨src.ranParamId, none⟩

/-- `eq_seq_ins_ind_act_def`: the ids are asserted to be positive, and not compared. -/
def eqSeqInsIndActDef (m0 m1 : SeqInsIndActDef) : Outcome Bool := do
  assert (decide (0 < m0.indId) && decide (0 < m1.indId)) "m0->ind_id > 0"
  allEq eqRanParamInsInd m0.ranParamInsInd m1.ranParamInsInd

/-- `cp_seq_ins_ind_act_def`. -/
def cpSeqInsIndActDef (src : SeqInsIndActDef) : Outcome SeqInsIndActDef := do
  assert (0 < src.indId) "src->ind_id > 0"
  assert (below 65536 src.ranParamInsInd) "src->sz_ran_param_ins_ind < 65536"
  let ranParamInsInd ← walk cpRanParamInsInd src.ranParamInsInd
  return ⟨src.indId, ranParamInsInd⟩

/-- `eq_seq_ins_style`. -/
def eqSeqInsStyle (m0 m1 : SeqInsStyle) : Outcome Bool :=
  both (.next (m0.reqInsertStyle == m1.reqInsertStyle)) do
    assert (sized 64 m0.seqInsIndActDef && sized 64 m1.seqInsIndActDef)
      "m0->sz_seq_ins_ind_act_def > 0 && m0->sz_seq_ins_ind_act_def < 64"
    allEq eqSeqInsIndActDef m0.seqInsIndActDef m1.seqInsIndActDef

/-- `cp_seq_ins_style`. -/
def cpSeqInsStyle (src : SeqInsStyle) : Outcome SeqInsStyle := do
  assert (sized 64 src.seqInsIndActDef)
    "src->sz_seq_ins_ind_act_def > 0 && src->sz_seq_ins_ind_act_def < 64"
  let seqInsIndActDef ← walk cpSeqInsIndActDef src.seqInsIndActDef
  return ⟨src.reqInsertStyle, seqInsIndActDef⟩

/-- `eq_e2sm_rc_act_def_frmt_4`. -/
def eqActDefFrmt4 (m0 m1 : ActDefFrmt4) : Outcome Bool := do
  assert (sized 5 m0.seqInsStyle && sized 5 m1.seqInsStyle)
    "m0->sz_seq_ins_style > 0 && m0->sz_seq_ins_style < 5"
  both (allEqMust eqSeqInsStyle m0.seqInsStyle m1.seqInsStyle) do
    assert (m0.ueId.isNone && m1.ueId.isNone) "Not implemented"
    return true

/-- `cp_e2sm_rc_act_def_frmt_4`. -/
def cpActDefFrmt4 (src : ActDefFrmt4) : Outcome ActDefFrmt4 := do
  assert (sized 5 src.seqInsStyle) "src->sz_seq_ins_style > 0 && src->sz_seq_ins_style < 5"
  let seqInsStyle ← walk cpSeqInsStyle src.seqInsStyle
  return ⟨seqInsStyle, src.ueId.map cpUeIdE2sm⟩

/-- The union of `eq_e2sm_rc_action_def`. -/
def eqActDefFormat : ActDefFormat → ActDefFormat → Outcome Bool
  | .frmt1 f0, .frmt1 f1 => eqActDefFrmt1 f0 f1
  | .frmt2 f0, .frmt2 f1 => eqActDefFrmt2 f0 f1
  | .frmt3 f0, .frmt3 f1 => eqActDefFrmt3 f0 f1
  | .frmt4 f0, .frmt4 f1 => eqActDefFrmt4 f0 f1
  | _, _ => return false

/-- `eq_e2sm_rc_action_def`. -/
def eqActionDef (m0 m1 : ActionDef) : Outcome Bool :=
  both (.next (m0.ricStyleType == m1.ricStyleType)) (eqActDefFormat m0.format m1.format)

/-- The union of `cp_e2sm_rc_action_def`. -/
def cpActDefFormat : ActDefFormat → Outcome ActDefFormat
  | .frmt1 f => do
    let f ← cpActDefFrmt1 f
    return .frmt1 f
  | .frmt2 f => do
    let f ← cpActDefFrmt2 f
    return .frmt2 f
  | .frmt3 f => do
    let f ← cpActDefFrmt3 f
    return .frmt3 f
  | .frmt4 f => do
    let f ← cpActDefFrmt4 f
    return .frmt4 f

/-- `cp_e2sm_rc_action_def`. -/
def cpActionDef (src : ActionDef) : Outcome ActionDef := do
  let format ← cpActDefFormat src.format
  return ⟨src.ricStyleType, format⟩

/-! ## Indication messages -/

/-- `eq_e2sm_rc_ind_msg_frmt_1`. -/
def eqIndMsgFrmt1 (m0 m1 : IndMsgFrmt1) : Outcome Bool :=
  allEqMust eqSeqRanParam m0.seqRanParam m1.seqRanParam

/-- `cp_e2sm_rc_ind_msg_frmt_1`. -/
def cpIndMsgFrmt1 (src : IndMsgFrmt1) : Outcome IndMsgFrmt1 := do
  assert (0 < src.seqRanParam.length) "src->sz_seq_ran_param > 0"
  let seqRanParam ← walk cpSeqRanParam src.seqRanParam
  return ⟨seqRanParam⟩

/-- `eq_seq_ue_id`: the lengths are not compared. -/
def eqSeqUeId (m0 m1 : SeqUeId) : Outcome Bool :=
  both (eqUeIdE2sm m0.ueId m1.ueId) do
    assert (sized 65536 m0.seqRanParam && sized 65536 m1.seqRanParam)
      "m0->sz_seq_ran_param > 0 && m0->sz_seq_ran_param < 65535+1"
    allEqUpTo eqSeqRanParam m0.seqRanParam m1.seqRanParam

/-- `cp_seq_ue_id`. -/
def cpSeqUeId (src : SeqUeId) : Outcome SeqUeId := do
  assert (0 < src.seqRanParam.length) "src->sz_seq_ran_param > 0"
  let seqRanParam ← walk cpSeqRanParam src.seqRanParam
  return ⟨cpUeIdE2sm src.ueId, seqRanParam⟩

/-- `eq_e2sm_rc_ind_msg_frmt_2`. -/
def eqIndMsgFrmt2 (m0 m1 : IndMsgFrmt2) : Outcome Bool := allEqMust eqSeqUeId m0.seqUeId m1.seqUeId

/-- `cp_e2sm_rc_ind_msg_frmt_2`. -/
def cpIndMsgFrmt2 (src : IndMsgFrmt2) : Outcome IndMsgFrmt2 := do
  assert (sized 65536 src.seqUeId) "src->sz_seq_ue_id > 0 && src->sz_seq_ue_id < 65536"
  let seqUeId ← walk cpSeqUeId src.seqUeId
  return ⟨seqUeId⟩

/-- No context of the cell, no deletion and no neighbours. -/
def SeqCellInfo.bare (m : SeqCellInfo) : Bool :=
  m.cellCtxInfo.isNone && m.cellDel.isNone && m.neighbourRelaTbl.isNone

/-- `eq_seq_cell_info`. -/
def eqSeqCellInfo (m0 m1 : SeqCellInfo) : Outcome Bool :=
  both (.next (eqCellGlobalId m0.cellGlobalId m1.cellGlobalId)) do
    assert (m0.bare && m1.bare) "Not implemented"
    return true

/-- `cp_seq_cell_info`. -/
def cpSeqCellInfo (src : SeqCellInfo) : Outcome SeqCellInfo := do
  assert src.bare "Not implemented"
  return ⟨cpCellGlobalId src.cellGlobalId, none, none, none⟩

/-- `eq_e2sm_rc_ind_msg_frmt_3`. -/
def eqIndMsgFrmt3 (m0 m1 : IndMsgFrmt3) : Outcome Bool :=
  allEqMust eqSeqCellInfo m0.seqCellInfo m1.seqCellInfo

/-- `cp_e2sm_rc_ind_msg_frmt_3`. -/
def cpIndMsgFrmt3 (src : IndMsgFrmt3) : Outcome IndMsgFrmt3 := do
  assert (sized 65536 src.seqCellInfo) "src->sz_seq_cell_info > 0 && src->sz_seq_cell_info < 65536"
  let seqCellInfo ← walk cpSeqCellInfo src.seqCellInfo
  return ⟨seqCellInfo⟩

/-- `eq_seq_ue_info`. -/
def eqSeqUeInfo (m0 m1 : SeqUeInfo) : Outcome Bool :=
  both (eqUeIdE2sm m0.ueId m1.ueId) do
    assert (m0.ueCtxInfo.isNone && m1.ueCtxInfo.isNone) "Not implemented"
    return eqCellGlobalId m0.cellGlobalId m1.cellGlobalId

/-- `cp_seq_ue_info`. -/
def cpSeqUeInfo (src : SeqUeInfo) : Outcome SeqUeInfo := do
  assert src.ueCtxInfo.isNone "Not implemented"
  return ⟨cpUeIdE2sm src.ueId, none, cpCellGlobalId src.cellGlobalId⟩

/-- No context of the cell and no neighbours. -/
def SeqCellInfo2.bare (m : SeqCellInfo2) : Bool :=
  m.cellCtxInfo.isNone && m.neighbourRelaTbl.isNone

/-- `eq_seq_cell_info_2`. -/
def eqSeqCellInfo2 (m0 m1 : SeqCellInfo2) : Outcome Bool :=
  both (.next (eqCellGlobalId m0.cellGlobalId m1.cellGlobalId)) do
    assert (m0.bare && m1.bare) "Not implemented"
    return true

/-- `cp_seq_cell_info_2`. -/
def cpSeqCellInfo2 (src : SeqCellInfo2) : Outcome SeqCellInfo2 := do
  assert src.bare "Not implemented"
  return ⟨cpCellGlobalId src.cellGlobalId, none, none⟩

/-- `eq_e2sm_rc_ind_msg_frmt_4`: the numbers of cells are not compared. -/
def eqIndMsgFrmt4 (m0 m1 : IndMsgFrmt4) : Outcome Bool := do
  assert (below 65536 m0.seqUeInfo && below 65536 m1.seqUeInfo) "m0->sz_seq_ue_info < 65535+1"
  both (allEqMust eqSeqUeInfo m0.seqUeInfo m1.seqUeInfo) do
    assert (below 65536 m0.seqCellInfo2 && below 65536 m1.seqCellInfo2)
      "m0->sz_seq_cell_info_2 < 65535+1"
    must (allEqUpTo eqSeqCellInfo2 m0.seqCellInfo2 m1.seqCellInfo2)
    return true

/-- `cp_e2sm_rc_ind_msg_frmt_4`. -/
def cpIndMsgFrmt4 (src : IndMsgFrmt4) : Outcome IndMsgFrmt4 := do
  let seqUeInfo ← walk cpSeqUeInfo src.seqUeInfo
  let seqCellInfo2 ← walk cpSeqCellInfo2 src.seqCellInfo2
  return ⟨seqUeInfo, seqCellInfo2⟩

/-- `eq_e2sm_rc_ind_msg_frmt_5`. -/
def eqIndMsgFrmt5 (m0 m1 : IndMsgFrmt5) : Outcome Bool :=
  allEqMust eqSeqRanParam m0.seqRanParam m1.seqRanParam

/-- `cp_e2sm_rc_ind_msg_frmt_5`. -/
def cpIndMsgFrmt5 (src : IndMsgFrmt5) : Outcome IndMsgFrmt5 := do
  let seqRanParam ← walk cpSeqRanParam src.seqRanParam
  return ⟨seqRanParam⟩

/-- `eq_ran_param_req`. -/
def eqRanParamReq (m0 m1 : RanParamReq) : Outcome Bool := do
  assert (decide (0 < m0.ranParamId) && decide (0 < m1.ranParamId)) "m0->ran_param_id > 0"
  both (.next (m0.ranParamId == m1.ranParamId)) (eqRanParamValType m0.ranParam m1.ranParam)

/-- `cp_ran_param_req`. -/
def cpRanParamReq (src : RanParamReq) : Outcome RanParamReq := do
  assert (0 < src.ranParamId) "src->ran_param_id > 0"
  let ranParam ← cpRanParamValType src.ranParam
  return ⟨src.ranParamId, ranParam⟩

/-- `eq_seq_ins_ind_act_2`. -/
def eqSeqInsIndAct2 (m0 m1 : SeqInsIndAct2) : Outcome Bool :=
  both (.next (m0.insIndId == m1.insIndId)) do
    assert (below 65536 m0.ranParamReq && below 65536 m1.ranParamReq)
      "m0->sz_ran_param_req < 65536"
    allEq eqRanParamReq m0.ranParamReq m1.ranParamReq

/-- `cp_seq_ins_ind_act_2`. -/
def cpSeqInsIndAct2 (src : SeqInsIndAct2) : Outcome SeqInsIndAct2 := do
  assert (0 < src.insIndId) "src->ins_ind_id > 0"
  let ranParamReq ← walk cpRanParamReq src.ranParamReq
  return ⟨src.insIndId, ranParamReq⟩

/-- `eq_seq_ins_style_2`: the lengths are not compared. -/
def eqSeqInsStyle2 (m0 m1 : SeqInsStyle2) : Outcome Bool :=
  both (.next (m0.indInsStyle == m1.indInsStyle)) do
    assert (sized 64 m0.seqInsIndAct && sized 64 m1.seqInsIndAct)
      "m0->sz_seq_ins_ind_act_2 > 0 && m0->sz_seq_ins_ind_act_2 < 64"
    allEqUpTo eqSeqInsIndAct2 m0.seqInsIndAct m1.seqInsIndAct

/-- `cp_seq_ins_style_2`. -/
def cpSeqInsStyle2 (src : SeqInsStyle2) : Outcome SeqInsStyle2 := do
  assert (sized 64 src.seqInsIndAct)
    "src->sz_seq_ins_ind_act_2 > 0 && src->sz_seq_ins_ind_act_2 < 64"
  let seqInsIndAct ← walk cpSeqInsIndAct2 src.seqInsIndAct
  return ⟨src.indInsStyle, seqInsIndAct⟩

/-- `eq_e2sm_rc_ind_msg_frmt_6`. -/
def eqIndMsgFrmt6 (m0 m1 : IndMsgFrmt6) : Outcome Bool := do
  assert (sized 64 m0.seqInsStyle && sized 64 m1.seqInsStyle)
    "m0->sz_seq_ins_style_ind_msg > 0 && m0->sz_seq_ins_style_ind_msg < 64"
  allEqMust eqSeqInsStyle2 m0.seqInsStyle m1.seqInsStyle

/-- `cp_e2sm_rc_ind_msg_frmt_6`. -/
def cpIndMsgFrmt6 (src : IndMsgFrmt6) : Outcome IndMsgFrmt6 := do
  assert (sized 64 src.seqInsStyle)
    "src->sz_seq_ins_style_ind_msg > 0 && src->sz_seq_ins_style_ind_msg < 64"
  let seqInsStyle ← walk cpSeqInsStyle2 src.seqInsStyle
  return ⟨seqInsStyle⟩

/-- `eq_e2sm_rc_ind_msg`. -/
def eqIndMsg : IndMsg → IndMsg → Outcome Bool
  | .frmt1 f0, .frmt1 f1 => eqIndMsgFrmt1 f0 f1
  | .frmt2 f0, .frmt2 f1 => eqIndMsgFrmt2 f0 f1
  | .frmt3 f0, .frmt3 f1 => eqIndMsgFrmt3 f0 f1
  | .frmt4 f0, .frmt4 f1 => eqIndMsgFrmt4 f0 f1
  | .frmt5 f0, .frmt5 f1 => eqIndMsgFrmt5 f0 f1
  | .frmt6 f0, .frmt6 f1 => eqIndMsgFrmt6 f0 f1
  | _, _ => return false

/-- `cp_e2sm_rc_ind_msg`. -/
def cpIndMsg : IndMsg → Outcome IndMsg
  | .frmt1 f => do
    let f ← cpIndMsgFrmt1 f
    return .frmt1 f
  | .frmt2 f => do
    let f ← cpIndMsgFrmt2 f
    return .frmt2 f
  | .frmt3 f => do
    let f ← cpIndMsgFrmt3 f
    return .frmt3 f
  | .frmt4 f => do
    let f ← cpIndMsgFrmt4 f
    return .frmt4 f
  | .frmt5 f => do
    let f ← cpIndMsgFrmt5 f
    return .frmt5 f
  | .frmt6 f => do
    let f ← cpIndMsgFrmt6 f
    return .frmt6 f

/-! ## Control messages -/

/-- `eq_e2sm_rc_ctrl_msg_frmt_1`. -/
def eqCtrlMsgFrmt1 (m0 m1 : CtrlMsgFrmt1) : Outcome Bool :=
  allEq eqSeqRanParam m0.ranParam m1.ranParam

/-- `cp_e2sm_rc_ctrl_msg_frmt_1`. -/
def cpCtrlMsgFrmt1 (src : CtrlMsgFrmt1) : Outcome CtrlMsgFrmt1 := do
  assert (below 65536 src.ranParam) "src->sz_ran_param < 65536"
  let ranParam ← walk cpSeqRanParam src.ranParam
  return ⟨ranParam⟩

/-- `eq_seq_ctrl_act`. -/
def eqSeqCtrlAct (m0 m1 : SeqCtrlAct) : Outcome Bool := do
  assert (decide (0 < m0.ctrlActId) && decide (0 < m1.ctrlActId)) "m0->ctrl_act_id > 0"
  both (.next (m0.ctrlActId == m1.ctrlActId)) <|
    eqOptional eqCtrlMsgFrmt1 m0.ctrlMsgFrmt1 m1.ctrlMsgFrmt1

/-- `cp_seq_ctrl_act`. -/
def cpSeqCtrlAct (src : SeqCtrlAct) : Outcome SeqCtrlAct := do
  assert (0 < src.ctrlActId) "src->ctrl_act_id > 0"
  let ctrlMsgFrmt1 ← opt cpCtrlMsgFrmt1 src.ctrlMsgFrmt1
  return ⟨src.ctrlActId, ctrlMsgFrmt1⟩

/-- `eq_seq_ctrl_sma`. -/
def eqSeqCtrlSma (m0 m1 : SeqCtrlSma) : Outcome Bool :=
  both (.next (m0.ctrlStyle == m1.ctrlStyle)) do
    assert (sized 64 m0.seqCtrlAct && sized 64 m1.seqCtrlAct)
      "m0->sz_seq_ctrl_act > 0 && m0->sz_seq_ctrl_act < 64"
    allEq eqSeqCtrlAct m0.seqCtrlAct m1.seqCtrlAct

/-- `cp_seq_ctrl_sma`. -/
def cpSeqCtrlSma (src : SeqCtrlSma) : Outcome SeqCtrlSma := do
  assert (sized 64 src.seqCtrlAct) "src->sz_seq_ctrl_act > 0 && src->sz_seq_ctrl_act < 64"
  let seqCtrlAct ← walk cpSeqCtrlAct src.seqCtrlAct
  return ⟨src.ctrlStyle, seqCtrlAct⟩

/-- `eq_e2sm_rc_ctrl_msg_frmt_2`. -/
def eqCtrlMsgFrmt2 (m0 m1 : CtrlMsgFrmt2) : Outcome Bool := do
  assert (sized 64 m0.action && sized 64 m1.action)
    "m0->sz_seq_ctrl_sma > 0 && m0->sz_seq_ctrl_sma < 64"
  allEq eqSeqCtrlSma m0.action m1.action

/-- `cp_e2sm_rc_ctrl_msg_frmt_2`. -/
def cpCtrlMsgFrmt2 (src : CtrlMsgFrmt2) : Outcome CtrlMsgFrmt2 := do
  assert (sized 64 src.action) "src->sz_seq_ctrl_sma > 0 && src->sz_seq_ctrl_sma < 64"
  let action ← walk cpSeqCtrlSma src.action
  return ⟨action⟩

/-- `eq_e2sm_rc_ctrl_msg`. -/
def eqCtrlMsg : CtrlMsg → CtrlMsg → Outcome Bool
  | .frmt1 f0, .frmt1 f1 => eqCtrlMsgFrmt1 f0 f1
  | .frmt2 f0, .frmt2 f1 => eqCtrlMsgFrmt2 f0 f1
  | _, _ => return false

/-- `cp_e2sm_rc_ctrl_msg`. -/
def cpCtrlMsg : CtrlMsg → Outcome CtrlMsg
  | .frmt1 f => do
    let f ← cpCtrlMsgFrmt1 f
    return .frmt1 f
  | .frmt2 f => do
    let f ← cpCtrlMsgFrmt2 f
    return .frmt2 f

/-! ## RAN function definitions -/

/-- `eq_seq_ev_trg_style`. -/
def eqSeqEvTrgStyle (m0 m1 : SeqEvTrgStyle) : Outcome Bool :=
  both (.next (m0.style == m1.style)) do
    assert (sized 151 m0.name && sized 151 m1.name) "m0->name.len > 0 && m0->name.len < 151"
    return m0.name == m1.name && m0.format == m1.format

/-- `cp_seq_ev_trg_style`. -/
def cpSeqEvTrgStyle (src : SeqEvTrgStyle) : Outcome SeqEvTrgStyle := do
  assert (sized 151 src.name) "src->name.len > 0 && src->name.len < 151"
  return ⟨src.style, src.name, src.format⟩

/-- `free_seq_ev_trg_style`. -/
def freeSeqEvTrgStyle (src : SeqEvTrgStyle) : Outcome PUnit.{1} :=
  assert (sized 151 src.name) "src->name.len > 0 && src->name.len < 151"

/-- `eq_call_proc_break`. -/
def eqCallProcBreak (m0 m1 : CallProcBreak) : Outcome Bool := do
  assert (decide (0 < m0.id) && decide (0 < m1.id)) "m0->id > 0"
  both (.next (m0.id == m1.id)) do
    assert (sized 151 m0.name && sized 151 m1.name) "m0->name.len > 0 && m0->name.len < 151"
    both (.next (m0.name == m1.name)) (allEq eqSeqRanParam3 m0.param m1.param)

/-- `cp_call_proc_break`. -/
def cpCallProcBreak (src : CallProcBreak) : Outcome CallProcBreak := do
  assert (0 < src.id) "src->id > 0"
  assert (sized 151 src.name) "src->name.len > 0 && src->name.len < 151"
  let param ← walk cpSeqRanParam3 src.param
  return ⟨src.id, src.name, param⟩

/-- `free_call_proc_break`. -/
def freeCallProcBreak (src : CallProcBreak) : Outcome PUnit.{1} := do
  assert (0 < src.id) "src->id > 0"
  assert (sized 151 src.name) "src->name.len > 0 && src->name.len < 151"
  each freeSeqRanParam3 src.param

/-- `eq_seq_call_proc_type`. -/
def eqSeqCallProcType (m0 m1 : SeqCallProcType) : Outcome Bool := do
  assert (decide (0 < m0.id) && decide (0 < m1.id)) "m0->id > 0"
  both (.next (m0.id == m1.id)) do
    assert (sized 151 m0.name && sized 151 m1.name) "m0->name.len > 0 && m0->name.len < 151"
    both (.next (m0.name == m1.name)) do
      assert (sized 65536 m0.callProcBreak && sized 65536 m1.callProcBreak)
        "m0->sz_call_proc_break > 0 && m0->sz_call_proc_break < 65536"
      allEq eqCallProcBreak m0.callProcBreak m1.callProcBreak

/-- `cp_seq_call_proc_type`. -/
def cpSeqCallProcType (src : SeqCallProcType) : Outcome SeqCallProcType := do
  assert (0 < src.id) "src->id > 0"
  assert (sized 151 src.name) "src->name.len > 0 && src->name.len < 151"
  assert (sized 65536 src.callProcBreak)
    "src->sz_call_proc_break > 0 && src->sz_call_proc_break < 65536"
  let callProcBreak ← walk cpCallProcBreak src.callProcBreak
  return ⟨src.id, src.name, callProcBreak⟩

/-- `free_seq_call_proc_type`. -/
def freeSeqCallProcType (src : SeqCallProcType) : Outcome PUnit.{1} := do
  assert (0 < src.id) "src->id > 0"
  assert (sized 151 src.name) "src->name.len > 0 && src->name.len < 151"
  assert (sized 65536 src.callProcBreak)
    "src->sz_call_proc_break > 0 && src->sz_call_proc_break < 65536"
  each freeCallProcBreak src.callProcBreak

/-- `eq_ran_func_def_ev_trig`: all differences are asserted away. -/
def eqRanFuncDefEvTrig (m0 m1 : RanFuncDefEvTrig) : Outcome Bool := do
  assert (sized 64 m0.seqEvTrgStyle && sized 64 m1.seqEvTrgStyle)
    "m0->sz_seq_ev_trg_style > 0 && m0->sz_seq_ev_trg_style < 64"
  must (allEq eqSeqEvTrgStyle m0.seqEvTrgStyle m1.seqEvTrgStyle)
  must (allEq eqSeqRanParam3 m0.seqRanParamL2Var m1.seqRanParamL2Var)
  must (allEq eqSeqCallProcType m0.seqCallProcType m1.seqCallProcType)
  must (allEq eqSeqRanParam3 m0.seqRanParamIdUe m1.seqRanParamIdUe)
  must (allEq eqSeqRanParam3 m0.seqRanParamIdCell m1.seqRanParamIdCell)
  return true

/-- `cp_ran_func_def_ev_trig`. -/
def cpRanFuncDefEvTrig (src : RanFuncDefEvTrig) : Outcome RanFuncDefEvTrig := do
  assert (sized 64 src.seqEvTrgStyle) "src->sz_seq_ev_trg_style > 0 && src->sz_seq_ev_trg_style < 64"
  let seqEvTrgStyle ← walk cpSeqEvTrgStyle src.seqEvTrgStyle
  assert (below 65536 src.seqRanParamL2Var) "src-> sz_seq_ran_param_l2_var < 65536"
  let seqRanParamL2Var ← walk cpSeqRanParam3 src.seqRanParamL2Var
  assert (below 65536 src.seqCallProcType) "src->sz_seq_call_proc_type < 65536"
  let seqCallProcType ← walk cpSeqCallProcType src.seqCallProcType
  assert (below 65536 src.seqRanParamIdUe) "src->sz_seq_ran_param_id_ue < 65536"
  let seqRanParamIdUe ← walk cpSeqRanParam3 src.seqRanParamIdUe
  assert (below 65536 src.seqRanParamIdCell) "src-> sz_seq_ran_param_id_cell < 65536"
  let seqRanParamIdCell ← walk cpSeqRanParam3 src.seqRanParamIdCell
  return ⟨seqEvTrgStyle, seqRanParamL2Var, seqCallProcType, seqRanParamIdUe, seqRanParamIdCell⟩

/-- `free_ran_func_def_ev_trig`. -/
def freeRanFuncDefEvTrig (src : RanFuncDefEvTrig) : Outcome PUnit.{1} := do
  assert (sized 64 src.seqEvTrgStyle) "src->sz_seq_ev_trg_style > 0 && src-> sz_seq_ev_trg_style < 64"
  each freeSeqEvTrgStyle src.seqEvTrgStyle
  each freeSeqRanParam3 src.seqRanParamL2Var
  each freeSeqCallProcType src.seqCallProcType
  each freeSeqRanParam3 src.seqRanParamIdUe
  each freeSeqRanParam3 src.seqRanParamIdCell

/-- `eq_seq_report_sty`. -/
def eqSeqReportSty (m0 m1 : SeqReportSty) : Outcome Bool :=
  both (.next (m0.reportType == m1.reportType)) do
    assert (sized 151 m0.name && sized 151 m1.name) "m0->name.len > 0 && m0->name.len < 151"
    both (.next (m0.name == m1.name && m0.evTrigType == m1.evTrigType &&
        m0.actFrmtType == m1.actFrmtType && m0.indHdrType == m1.indHdrType &&
        m0.indMsgType == m1.indMsgType)) do
      assert (below 65536 m0.ranParam && below 65536 m1.ranParam) "m0->sz_seq_ran_param < 65536"
      allEq eqSeqRanParam3 m0.ranParam m1.ranParam

/-- `cp_seq_report_sty`. -/
def cpSeqReportSty (src : SeqReportSty) : Outcome SeqReportSty := do
  assert (sized 151 src.name) "src->name.len > 0 && src->name.len < 151"
  assert (below 65536 src.ranParam) "src->sz_seq_ran_param < 65536"
  let ranParam ← walk cpSeqRanParam3 src.ranParam
  return { src with ranParam }

/-- `free_seq_report_sty`. -/
def freeSeqReportSty (src : SeqReportSty) : Outcome PUnit.{1} := do
  assert (sized 151 src.name) "src->name.len > 0 && src->name.len < 151"
  assert (below 65536 src.ranParam) "src->sz_seq_ran_param < 65536"
  each freeSeqRanParam3 src.ranParam

/-- `eq_ran_func_def_report`. -/
def eqRanFuncDefReport (m0 m1 : RanFuncDefReport) : Outcome Bool :=
  allEq eqSeqReportSty m0.seqReportSty m1.seqReportSty

/-- `cp_ran_func_def_report`. -/
def cpRanFuncDefReport (src : RanFuncDefReport) : Outcome RanFuncDefReport := do
  assert (sized 64 src.seqReportSty) "src->sz_seq_report_sty > 0 && src->sz_seq_report_sty < 64"
  let seqReportSty ← walk cpSeqReportSty src.seqReportSty
  return ⟨seqReportSty⟩

/-- `free_ran_func_def_report`. -/
def freeRanFuncDefReport (src : RanFuncDefReport) : Outcome PUnit.{1} := do
  assert (sized 64 src.seqReportSty) "src->sz_seq_report_sty > 0 && src->sz_seq_report_sty < 64"
  each freeSeqReportSty src.seqReportSty

/-- `eq_seq_ins_ind`. -/
def eqSeqInsInd (m0 m1 : SeqInsInd) : Outcome Bool := do
  assert (decide (0 < m0.id) && decide (0 < m1.id)) "m0->id > 0"
  both (.next (m0.id == m1.id)) do
    assert (sized 151 m0.name && sized 151 m1.name) "m0->name.len > 0 && m0->name.len < 151"
    both (.next (m0.name == m1.name)) do
      assert (below 65536 m0.seqInsInd && below 65536 m1.seqInsInd) "m0->sz_seq_ins_ind < 65536"
      allEq eqSeqRanParam3 m0.seqInsInd m1.seqInsInd

/-- `cp_seq_ins_ind`. -/
def cpSeqInsInd (src : SeqInsInd) : Outcome SeqInsInd := do
  assert (0 < src.id) "src ->id > 0"
  assert (sized 151 src.name) "src->name.len > 0 && src->name.len < 151"
  assert (below 65536 src.seqInsInd) "src->sz_seq_ins_ind < 65536"
  let seqInsInd ← walk cpSeqRanParam3 src.seqInsInd
  return ⟨src.id, src.name, seqInsInd⟩

/-- `free_seq_ins_ind`. -/
def freeSeqInsInd (src : SeqInsInd) : Outcome PUnit.{1} := do
  assert (0 < src.id) "src->id > 0"
  assert (sized 151 src.name) "src->name.len > 0 && src->name.len < 151"
  assert (below 65536 src.seqInsInd) "src->sz_seq_ins_ind < 65536"
  each freeSeqRanParam3 src.seqInsInd

/-- `eq_seq_ins_sty`. -/
def eqSeqInsSty (m0 m1 : SeqInsSty) : Outcome Bool :=
  both (.next (m0.styleType == m1.styleType)) do
    assert (sized 151 m0.name && sized 151 m1.name) "m0->name.len > 0 && m0->name.len < 151"
    both (.next (m0.name == m1.name && m0.evTrigStyleType == m1.evTrigStyleType &&
        m0.actDefFrmtType == m1.actDefFrmtType)) do
      assert (below 65536 m0.seqInsInd && below 65536 m1.seqInsInd) "m0->sz_seq_ins_ind < 65536"
      both (allEq eqSeqInsInd m0.seqInsInd m1.seqInsInd) <|
        .next (m0.indHdrFrmtType == m1.indHdrFrmtType && m0.indMsgFrmtType == m1.indMsgFrmtType &&
          m0.callProcIdType == m1.callProcIdType)

/-- `cp_seq_ins_sty`. -/
def cpSeqInsSty (src : SeqInsSty) : Outcome SeqInsSty := do
  assert (sized 151 src.name) "src->name.len > 0 && src->name.len < 151"
  assert (below 65536 src.seqInsInd) "src->sz_seq_ins_ind < 65536"
  let seqInsInd ← walk cpSeqInsInd src.seqInsInd
  return { src with seqInsInd }

/-- `free_seq_ins_sty`. -/
def freeSeqInsSty (src : SeqInsSty) : Outcome PUnit.{1} := do
  assert (sized 151 src.name) "src->name.len > 0 && src->name.len < 151"
  each freeSeqInsInd src.seqInsInd

/-- `eq_ran_func_def_insert`. -/
def eqRanFuncDefInsert (m0 m1 : RanFuncDefInsert) : Outcome Bool := do
  assert (sized 64 m0.seqInsSty && sized 64 m1.seqInsSty)
    "m0->sz_seq_ins_sty > 0 && m0->sz_seq_ins_sty < 64"
  allEq eqSeqInsSty m0.seqInsSty m1.seqInsSty

/-- `cp_ran_func_def_insert`. -/
def cpRanFuncDefInsert (src : RanFuncDefInsert) : Outcome RanFuncDefInsert := do
  assert (sized 64 src.seqInsSty) "src->sz_seq_ins_sty > 0 && src->sz_seq_ins_sty < 64"
  let seqInsSty ← walk cpSeqInsSty src.seqInsSty
  return ⟨seqInsSty⟩

/-- `free_ran_func_def_insert`. -/
def freeRanFuncDefInsert (src : RanFuncDefInsert) : Outcome PUnit.{1} := do
  assert (sized 64 src.seqInsSty) "src->sz_seq_ins_sty > 0 && src->sz_seq_ins_sty < 64"
  each freeSeqInsSty src.seqInsSty

/-- `eq_seq_ctrl_act_2`. -/
def eqSeqCtrlAct2 (m0 m1 : SeqCtrlAct2) : Outcome Bool := do
  assert (decide (0 < m0.id) && decide (0 < m1.id)) "m0->id > 0"
  both (.next (m0.id == m1.id)) do
    assert (sized 151 m0.name && sized 151 m1.name) "m0->name.len > 0 && m0->name.len < 151"
    both (.next (m0.name == m1.name)) do
      assert (below 65536 m0.assocRanParam && below 65536 m1.assocRanParam)
        "m0->sz_seq_assoc_ran_param < 65536"
      allEq eqSeqRanParam3 m0.assocRanParam m1.assocRanParam

/-- `cp_seq_ctrl_act_2`. -/
def cpSeqCtrlAct2 (src : SeqCtrlAct2) : Outcome SeqCtrlAct2 := do
  assert (0 < src.id) "src->id > 0"
  assert (sized 151 src.name) "src->name.len > 0 && src->name.len < 151"
  assert (below 65536 src.assocRanParam) "src->sz_seq_assoc_ran_param < 65536"
  let assocRanParam ← walk cpSeqRanParam3 src.assocRanParam
  return ⟨src.id, src.name, assocRanParam⟩

/-- `free_seq_ctrl_act_2`. -/
def freeSeqCtrlAct2 (src : SeqCtrlAct2) : Outcome PUnit.{1} := do
  assert (0 < src.id) "src->id > 0"
  assert (sized 151 src.name) "src->name.len > 0 && src->name.len < 151"
  assert (below 65536 src.assocRanParam) "src-> sz_seq_assoc_ran_param < 65536"
  each freeSeqRanParam3 src.assocRanParam

/-- `eq_seq_ctrl_style`. -/
def eqSeqCtrlStyle (m0 m1 : SeqCtrlStyle) : Outcome Bool :=
  both (.next (m0.styleType == m1.styleType)) do
    assert (sized 151 m0.name && sized 151 m1.name) "m0->name.len > 0 && m0->name.len < 151"
    both (.next (m0.name == m1.name)) do
      assert (below 65536 m0.seqCtrlAct && below 65536 m1.seqCtrlAct) "m0->sz_seq_ctrl_act < 65536"
      both (allEq eqSeqCtrlAct2 m0.seqCtrlAct m1.seqCtrlAct) <|
        both (.next (m0.hdr == m1.hdr && m0.msg == m1.msg)) do
          assert (m0.callProcIdType.isNone && m1.callProcIdType.isNone) "Not implemented"
          both (.next (m0.outFrmt == m1.outFrmt)) do
            assert (below 256 m0.ranParamCtrlOut && below 256 m1.ranParamCtrlOut)
              "m0->sz_ran_param_ctrl_out < 256"
            allEq eqSeqRanParam3 m0.ranParamCtrlOut m1.ranParamCtrlOut

/-- `cp_seq_ctrl_style`. -/
def cpSeqCtrlStyle (src : SeqCtrlStyle) : Outcome SeqCtrlStyle := do
  assert (sized 151 src.name) "src->name.len > 0 && src->name.len < 151"
  assert (below 65535 src.seqCtrlAct) "src->sz_seq_ctrl_act < 65535"
  let seqCtrlAct ← walk cpSeqCtrlAct2 src.seqCtrlAct
  assert src.callProcIdType.isNone "Not implemented"
  assert (below 256 src.ranParamCtrlOut) "src->sz_ran_param_ctrl_out < 256"
  let ranParamCtrlOut ← walk cpSeqRanParam3 src.ranParamCtrlOut
  return { src with seqCtrlAct, callProcIdType := none, ranParamCtrlOut }

/-- `free_seq_ctrl_style`. -/
def freeSeqCtrlStyle (src : SeqCtrlStyle) : Outcome PUnit.{1} := do
  assert (sized 151 src.name) "src->name.len > 0 && src->name.len < 151"
  assert (below 65536 src.seqCtrlAct) "src->sz_seq_ctrl_act < 65536"
  each freeSeqCtrlAct2 src.seqCtrlAct
  assert src.callProcIdType.isNone "Not implemented"
  assert (below 256 src.ranParamCtrlOut) "src->sz_ran_param_ctrl_out < 256"
  each freeSeqRanParam3 src.ranParamCtrlOut

/-- `eq_ran_func_def_ctrl`. -/
def eqRanFuncDefCtrl (m0 m1 : RanFuncDefCtrl) : Outcome Bool := do
  assert (sized 64 m0.seqCtrlStyle && sized 64 m1.seqCtrlStyle)
    "m0->sz_seq_ctrl_style > 0 && m0->sz_seq_ctrl_style < 64"
  allEq eqSeqCtrlStyle m0.seqCtrlStyle m1.seqCtrlStyle

/-- `cp_ran_func_def_ctrl`. -/
def cpRanFuncDefCtrl (src : RanFuncDefCtrl) : Outcome RanFuncDefCtrl := do
  assert (sized 64 src.seqCtrlStyle) "src->sz_seq_ctrl_style > 0 && src->sz_seq_ctrl_style < 64"
  let seqCtrlStyle ← walk cpSeqCtrlStyle src.seqCtrlStyle
  return ⟨seqCtrlStyle⟩

/-- `free_ran_func_def_ctrl`. -/
def freeRanFuncDefCtrl (src : RanFuncDefCtrl) : Outcome PUnit.{1} := do
  assert (sized 64 src.seqCtrlStyle) "src-> sz_seq_ctrl_style > 0 && src->sz_seq_ctrl_style < 64"
  each freeSeqCtrlStyle src.seqCtrlStyle

/-- `eq_seq_pol_action`. -/
def eqSeqPolAction (m0 m1 : SeqPolAction) : Outcome Bool :=
  both (.next (m0.actionId == m1.actionId)) do
    assert (sized 151 m0.name && sized 151 m1.name) "m0->name.len > 0 && m0->name.len < 151"
    both (.next (m0.name == m1.name && m0.frmtType == m1.frmtType)) do
      assert (below 65536 m0.seqAssocRpAction && below 65536 m1.seqAssocRpAction)
        "m0->sz_seq_assoc_rp_action < 65536"
      both (allEq eqSeqRanParam3 m0.seqAssocRpAction m1.seqAssocRpAction) do
        assert (below 65536 m0.seqAssocRpPolicy && below 65536 m1.seqAssocRpPolicy)
          "m0-> sz_seq_assoc_rp_policy< 65536"
        allEq eqSeqRanParam3 m0.seqAssocRpPolicy m1.seqAssocRpPolicy

/-- `cp_seq_pol_action`. -/
def cpSeqPolAction (src : SeqPolAction) : Outcome SeqPolAction := do
  assert (sized 151 src.name) "src->name.len > 0 && src->name.len < 151"
  assert (below 65536 src.seqAssocRpAction) "src->sz_seq_assoc_rp_action < 65536"
  let seqAssocRpAction ← walk cpSeqRanParam3 src.seqAssocRpAction
  assert (below 65536 src.seqAssocRpPolicy) "src->sz_seq_assoc_rp_policy < 65536"
  let seqAssocRpPolicy ← walk cpSeqRanParam3 src.seqAssocRpPolicy
  return { src with seqAssocRpAction, seqAssocRpPolicy }

/-- `free_seq_pol_action`. -/
def freeSeqPolAction (src : SeqPolAction) : Outcome PUnit.{1} := do
  assert (sized 151 src.name) "src->name.len > 0 && src->name.len < 151"
  assert (below 65536 src.seqAssocRpAction) "src-> sz_seq_assoc_rp_action < 65536"
  each freeSeqRanParam3 src.seqAssocRpAction
  assert (below 65536 src.seqAssocRpPolicy) "src-> sz_seq_assoc_rp_policy < 65536"
  each freeSeqRanParam3 src.seqAssocRpPolicy

/-- `eq_seq_policy_sty`. -/
def eqSeqPolicySty (m0 m1 : SeqPolicySty) : Outcome Bool :=
  both (.next (m0.styleType == m1.styleType)) do
    assert (sized 151 m0.name && sized 151 m1.name) "m0->name.len > 0 && m0->name.len < 151"
    both (.next (m0.name == m1.name && m0.evTrgStyleType == m1.evTrgStyleType)) do
      assert (below 65536 m0.seqPolAction && below 65536 m1.seqPolAction)
        "m0->sz_seq_pol_action < 65536"
      allEq eqSeqPolAction m0.seqPolAction m1.seqPolAction

/-- `cp_seq_policy_sty`. -/
def cpSeqPolicySty (src : SeqPolicySty) : Outcome SeqPolicySty := do
  assert (sized 151 src.name) "src->name.len > 0 && src->name.len < 151"
  assert (below 65536 src.seqPolAction) "src->sz_seq_pol_action < 65536"
  let seqPolAction ← walk cpSeqPolAction src.seqPolAction
  return { src with seqPolAction }

/-- `free_seq_policy_sty`. -/
def freeSeqPolicySty (src : SeqPolicySty) : Outcome PUnit.{1} := do
  assert (sized 151 src.name) "src->name.len > 0 && src->name.len < 151"
  assert (below 65536 src.seqPolAction) "src->sz_seq_pol_action < 65536"
  each freeSeqPolAction src.seqPolAction

/-- `eq_ran_func_def_policy`. -/
def eqRanFuncDefPolicy (m0 m1 : RanFuncDefPolicy) : Outcome Bool := do
  assert (sized 64 m0.seqPolicySty && sized 64 m1.seqPolicySty)
    "m0->sz_policy_styles > 0 && m0->sz_policy_styles < 64"
  allEq eqSeqPolicySty m0.seqPolicySty m1.seqPolicySty

/-- `cp_ran_func_def_policy`. -/
def cpRanFuncDefPolicy (src : RanFuncDefPolicy) : Outcome RanFuncDefPolicy := do
  assert (sized 64 src.seqPolicySty) "src->sz_policy_styles > 0 && src->sz_policy_styles < 64"
  let seqPolicySty ← walk cpSeqPolicySty src.seqPolicySty
  return ⟨seqPolicySty⟩

/-- `free_ran_func_def_policy`. -/
def freeRanFuncDefPolicy (src : RanFuncDefPolicy) : Outcome PUnit.{1} := do
  assert (sized 64 src.seqPolicySty) "src->sz_policy_styles > 0 && src->sz_policy_styles < 64"
  each freeSeqPolicySty src.seqPolicySty

/-- `cp_ran_function_name`. -/
def cpRanFunctionName (src : Kpm.RanFunctionName) : Outcome Kpm.RanFunctionName := do
  assert (sized 151 src.name) "src->name.len > 0 && src->name.len < 151"
  assert (sized 1001 src.oid) "src->oid.len > 0 && src->oid.len < 1001"
  assert (sized 151 src.description) "src->description.len > 0 && src->description.len < 151"
  assert src.instanceNo.isNone "Not implemented"
  return ⟨src.name, src.oid, src.description, none⟩

/-- `eq_e2sm_rc_func_def`. -/
def eqFuncDef (m0 m1 : FuncDef) : Outcome Bool :=
  both (Kpm.eqRanFunctionName m0.name m1.name) <|
    both (eqOptional eqRanFuncDefEvTrig m0.evTrig m1.evTrig) <|
    both (eqOptional eqRanFuncDefReport m0.report m1.report) <|
    both (eqOptional eqRanFuncDefInsert m0.insert m1.insert) <|
    both (eqOptional eqRanFuncDefCtrl m0.ctrl m1.ctrl) <|
    eqOptional eqRanFuncDefPolicy m0.policy m1.policy

/-- `cp_e2sm_rc_func_def`. -/
def cpFuncDef (src : FuncDef) : Outcome FuncDef := do
  let name ← cpRanFunctionName src.name
  let evTrig ← opt cpRanFuncDefEvTrig src.evTrig
  let report ← opt cpRanFuncDefReport src.report
  let insert ← opt cpRanFuncDefInsert src.insert
  let ctrl ← opt cpRanFuncDefCtrl src.ctrl
  let policy ← opt cpRanFuncDefPolicy src.policy
  return ⟨name, evTrig, report, insert, ctrl, policy⟩

/-- The release of an optional part. -/
def freeOptional {α : Type} (free : α → Outcome PUnit.{1}) : Option α → Outcome PUnit.{1}
  | none => return ⟨⟩
  | some a => free a

/-- `free_e2sm_rc_func_def`. -/
def freeFuncDef (src : FuncDef) : Outcome PUnit.{1} := do
  freeOptional freeRanFuncDefEvTrig src.evTrig
  freeOptional freeRanFuncDefReport src.report
  freeOptional freeRanFuncDefInsert src.insert
  freeOptional freeRanFuncDefCtrl src.ctrl
  freeOptional freeRanFuncDefPolicy src.policy

end Rc

end FlexRic
