import FlexRic.Rc.ParamPlans
import FlexRic.Rc.RcValues

/-!
# FlexRic.Rc.FuncDefPlans

What the comparison of RAN function definitions looks at.

* Each difference between two definitions of event triggers is asserted away.
* A part that only one definition has tells the two apart.
* `answer_eqFuncDef`: the comparison of the source does what the plan says.
-/

namespace FlexRic

namespace Rc

open Outcome Answers

/-! ## Event triggers -/

/-- `eq_seq_ev_trg_style`. -/
def SeqEvTrgStyle.plan : Plan fun m0 m1 : SeqEvTrgStyle => m0 = m1 :=
  ((Plan.equal.on style).both <| Plan.given (fun m => sized 151 m.name) <|
    (Plan.equal.on name).both <| Plan.equal.on format).congr
      fun m0 m1 => by cases m0; cases m1; simp

/-- A trigger style: its type, its name and its format. -/
theorem answer_eqSeqEvTrgStyle (m0 m1 : SeqEvTrgStyle) :
    (eqSeqEvTrgStyle m0 m1).answer = SeqEvTrgStyle.plan.eq m0 m1 := by
  simp only [eqSeqEvTrgStyle, answer_both, answer_next, Plan.answer_assert, andThen_if,
    answer_pure, some_and, ← Plan.equal_eq]
  rfl

/-- `eq_call_proc_break`. -/
def CallProcBreak.plan : Plan fun m0 m1 : CallProcBreak => m0 = m1 :=
  (Plan.given (fun m => decide (0 < m.id)) <| (Plan.equal.on id).both <|
    Plan.given (fun m => sized 151 m.name) <| (Plan.equal.on name).both <|
    SeqRanParam3.plan.array.on param).congr fun m0 m1 => by cases m0; cases m1; simp

/-- A breakpoint: its id, its name and its parameters. -/
theorem answer_eqCallProcBreak (m0 m1 : CallProcBreak) :
    (eqCallProcBreak m0 m1).answer = CallProcBreak.plan.eq m0 m1 := by
  simp only [eqCallProcBreak, answer_both, answer_next, Plan.answer_assert, andThen_if,
    Plan.answer_array answer_eqSeqRanParam3, ← Plan.equal_eq]
  rfl

/-- `eq_seq_call_proc_type`. -/
def SeqCallProcType.plan : Plan fun m0 m1 : SeqCallProcType => m0 = m1 :=
  (Plan.given (fun m => decide (0 < m.id)) <| (Plan.equal.on id).both <|
    Plan.given (fun m => sized 151 m.name) <| (Plan.equal.on name).both <|
    Plan.given (fun m => sized 65536 m.callProcBreak) <|
    CallProcBreak.plan.array.on callProcBreak).congr fun m0 m1 => by cases m0; cases m1; simp

/-- A call process: its id, its name and its breakpoints. -/
theorem answer_eqSeqCallProcType (m0 m1 : SeqCallProcType) :
    (eqSeqCallProcType m0 m1).answer = SeqCallProcType.plan.eq m0 m1 := by
  simp only [eqSeqCallProcType, answer_both, answer_next, Plan.answer_assert, andThen_if,
    Plan.answer_array answer_eqCallProcBreak, ← Plan.equal_eq]
  rfl

/-- `eq_ran_func_def_ev_trig`. -/
def RanFuncDefEvTrig.plan : Plan fun m0 m1 : RanFuncDefEvTrig => m0 = m1 :=
  (Plan.given (fun m => sized 64 m.seqEvTrgStyle) <|
    (SeqEvTrgStyle.plan.array.insist.on seqEvTrgStyle).both <|
    (SeqRanParam3.plan.array.insist.on seqRanParamL2Var).both <|
    (SeqCallProcType.plan.array.insist.on seqCallProcType).both <|
    (SeqRanParam3.plan.array.insist.on seqRanParamIdUe).both <|
    SeqRanParam3.plan.array.insist.on seqRanParamIdCell).congr
      fun m0 m1 => by cases m0; cases m1; simp

/-- **The event triggers**: five arrays, in the order of the source. -/
theorem answer_eqRanFuncDefEvTrig (m0 m1 : RanFuncDefEvTrig) :
    (eqRanFuncDefEvTrig m0 m1).answer = RanFuncDefEvTrig.plan.eq m0 m1 := by
  have hparams (xs ys : List SeqRanParam3) (y : Outcome Bool) :=
    Plan.answer_must (Plan.answer_array answer_eqSeqRanParam3 xs ys) y
  simp only [eqRanFuncDefEvTrig, Plan.answer_assert, andThen_if, hparams,
    Plan.answer_must (Plan.answer_array answer_eqSeqEvTrgStyle _ _),
    Plan.answer_must (Plan.answer_array answer_eqSeqCallProcType _ _), answer_pure, andThen_true]
  rfl

/-! ## Reports, inserts, controls and policies -/

/-- `eq_seq_report_sty`. -/
def SeqReportSty.plan : Plan fun m0 m1 : SeqReportSty => m0 = m1 :=
  ((Plan.equal.on reportType).both <| Plan.given (fun m => sized 151 m.name) <|
    (Plan.equal.on name).both <| (Plan.equal.on evTrigType).both <|
    (Plan.equal.on actFrmtType).both <| (Plan.equal.on indHdrType).both <|
    (Plan.equal.on indMsgType).both <| Plan.given (fun m => below 65536 m.ranParam) <|
    SeqRanParam3.plan.array.on ranParam).congr fun m0 m1 => by cases m0; cases m1; simp

/-- A report style: its types, its name and its parameters. -/
theorem answer_eqSeqReportSty (m0 m1 : SeqReportSty) :
    (eqSeqReportSty m0 m1).answer = SeqReportSty.plan.eq m0 m1 := by
  simp only [eqSeqReportSty, answer_both, answer_next, some_and, andThen_assoc,
    Plan.answer_assert, andThen_if, Plan.answer_array answer_eqSeqRanParam3, ← Plan.equal_eq]
  rfl

/-- `eq_ran_func_def_report`. -/
def RanFuncDefReport.plan : Plan fun m0 m1 : RanFuncDefReport => m0 = m1 :=
  (SeqReportSty.plan.array.on seqReportSty).congr fun m0 m1 => by cases m0; cases m1; simp

/-- **The reports**: the styles in order. -/
theorem answer_eqRanFuncDefReport (m0 m1 : RanFuncDefReport) :
    (eqRanFuncDefReport m0 m1).answer = RanFuncDefReport.plan.eq m0 m1 :=
  Plan.answer_array answer_eqSeqReportSty m0.seqReportSty m1.seqReportSty

/-- `eq_seq_ins_ind`. -/
def SeqInsInd.plan : Plan fun m0 m1 : SeqInsInd => m0 = m1 :=
  (Plan.given (fun m => decide (0 < m.id)) <| (Plan.equal.on id).both <|
    Plan.given (fun m => sized 151 m.name) <| (Plan.equal.on name).both <|
    Plan.given (fun m => below 65536 m.seqInsInd) <| SeqRanParam3.plan.array.on seqInsInd).congr
      fun m0 m1 => by cases m0; cases m1; simp

/-- An insert indication: its id, its name and its parameters. -/
theorem answer_eqSeqInsInd (m0 m1 : SeqInsInd) :
    (eqSeqInsInd m0 m1).answer = SeqInsInd.plan.eq m0 m1 := by
  simp only [eqSeqInsInd, answer_both, answer_next, Plan.answer_assert, andThen_if,
    Plan.answer_array answer_eqSeqRanParam3, ← Plan.equal_eq]
  rfl

/-- `eq_seq_ins_sty`. -/
def SeqInsSty.plan : Plan fun m0 m1 : SeqInsSty => m0 = m1 :=
  ((Plan.equal.on styleType).both <| Plan.given (fun m => sized 151 m.name) <|
    (Plan.equal.on name).both <| (Plan.equal.on evTrigStyleType).both <|
    (Plan.equal.on actDefFrmtType).both <| Plan.given (fun m => below 65536 m.seqInsInd) <|
    (SeqInsInd.plan.array.on seqInsInd).both <| (Plan.equal.on indHdrFrmtType).both <|
    (Plan.equal.on indMsgFrmtType).both <| Plan.equal.on callProcIdType).congr
      fun m0 m1 => by cases m0; cases m1; simp

theorem answer_eqSeqInsSty (m0 m1 : SeqInsSty) :
    (eqSeqInsSty m0 m1).answer = SeqInsSty.plan.eq m0 m1 := by
  simp only [eqSeqInsSty, answer_both, answer_next, some_and, andThen_assoc, Plan.answer_assert,
    andThen_if, Plan.answer_array answer_eqSeqInsInd, ← Plan.equal_eq]
  rfl

/-- `eq_ran_func_def_insert`. -/
def RanFuncDefInsert.plan : Plan fun m0 m1 : RanFuncDefInsert => m0 = m1 :=
  (Plan.given (fun m => sized 64 m.seqInsSty) <| SeqInsSty.plan.array.on seqInsSty).congr
    fun m0 m1 => by cases m0; cases m1; simp

/-- **The inserts**: the styles in order. -/
theorem answer_eqRanFuncDefInsert (m0 m1 : RanFuncDefInsert) :
    (eqRanFuncDefInsert m0 m1).answer = RanFuncDefInsert.plan.eq m0 m1 := by
  simp only [eqRanFuncDefInsert, Plan.answer_assert, andThen_if,
    Plan.answer_array answer_eqSeqInsSty]
  rfl

/-- `eq_seq_ctrl_act_2`. -/
def SeqCtrlAct2.plan : Plan fun m0 m1 : SeqCtrlAct2 => m0 = m1 :=
  (Plan.given (fun m => decide (0 < m.id)) <| (Plan.equal.on id).both <|
    Plan.given (fun m => sized 151 m.name) <| (Plan.equal.on name).both <|
    Plan.given (fun m => below 65536 m.assocRanParam) <|
    SeqRanParam3.plan.array.on assocRanParam).congr fun m0 m1 => by cases m0; cases m1; simp

theorem answer_eqSeqCtrlAct2 (m0 m1 : SeqCtrlAct2) :
    (eqSeqCtrlAct2 m0 m1).answer = SeqCtrlAct2.plan.eq m0 m1 := by
  simp only [eqSeqCtrlAct2, answer_both, answer_next, Plan.answer_assert, andThen_if,
    Plan.answer_array answer_eqSeqRanParam3, ← Plan.equal_eq]
  rfl

/-- `eq_seq_ctrl_style`. -/
def SeqCtrlStyle.plan : Plan fun m0 m1 : SeqCtrlStyle => m0 = m1 :=
  ((Plan.equal.on styleType).both <| Plan.given (fun m => sized 151 m.name) <|
    (Plan.equal.on name).both <| Plan.given (fun m => below 65536 m.seqCtrlAct) <|
    (SeqCtrlAct2.plan.array.on seqCtrlAct).both <| (Plan.equal.on hdr).both <|
    (Plan.equal.on msg).both <| (Plan.absent.on callProcIdType).both <|
    (Plan.equal.on outFrmt).both <| Plan.given (fun m => below 256 m.ranParamCtrlOut) <|
    SeqRanParam3.plan.array.on ranParamCtrlOut).congr fun m0 m1 => by cases m0; cases m1; simp

/-- A control style: fewer than 65536 actions on both sides. -/
theorem answer_eqSeqCtrlStyle (m0 m1 : SeqCtrlStyle) :
    (eqSeqCtrlStyle m0 m1).answer = SeqCtrlStyle.plan.eq m0 m1 := by
  have hlast : (do
      assert (below 256 m0.ranParamCtrlOut && below 256 m1.ranParamCtrlOut)
        "m0->sz_ran_param_ctrl_out < 256"
      allEq eqSeqRanParam3 m0.ranParamCtrlOut m1.ranParamCtrlOut : Outcome Bool).answer =
        if (below 256 m0.ranParamCtrlOut && below 256 m1.ranParamCtrlOut) = true then
          SeqRanParam3.plan.array.eq m0.ranParamCtrlOut m1.ranParamCtrlOut else none := by
    rw [Plan.answer_assert, andThen_if, Plan.answer_array answer_eqSeqRanParam3]
  rw [eqSeqCtrlStyle, answer_both, Plan.answer_assert, andThen_if, answer_both, Plan.answer_assert,
    andThen_if, answer_both, Plan.answer_array answer_eqSeqCtrlAct2, answer_both,
    Plan.answer_assert, answer_both, hlast]
  simp only [answer_next, some_and, andThen_assoc, ← Plan.equal_eq]
  rfl

/-- `eq_ran_func_def_ctrl`. -/
def RanFuncDefCtrl.plan : Plan fun m0 m1 : RanFuncDefCtrl => m0 = m1 :=
  (Plan.given (fun m => sized 64 m.seqCtrlStyle) <| SeqCtrlStyle.plan.array.on seqCtrlStyle).congr
    fun m0 m1 => by cases m0; cases m1; simp

/-- **The controls**: the styles in order. -/
theorem answer_eqRanFuncDefCtrl (m0 m1 : RanFuncDefCtrl) :
    (eqRanFuncDefCtrl m0 m1).answer = RanFuncDefCtrl.plan.eq m0 m1 := by
  simp only [eqRanFuncDefCtrl, Plan.answer_assert, andThen_if,
    Plan.answer_array answer_eqSeqCtrlStyle]
  rfl

/-- `eq_seq_pol_action`. -/
def SeqPolAction.plan : Plan fun m0 m1 : SeqPolAction => m0 = m1 :=
  ((Plan.equal.on actionId).both <| Plan.given (fun m => sized 151 m.name) <|
    (Plan.equal.on name).both <| (Plan.equal.on frmtType).both <|
    Plan.given (fun m => below 65536 m.seqAssocRpAction) <|
    (SeqRanParam3.plan.array.on seqAssocRpAction).both <|
    Plan.given (fun m => below 65536 m.seqAssocRpPolicy) <|
    SeqRanParam3.plan.array.on seqAssocRpPolicy).congr fun m0 m1 => by cases m0; cases m1; simp

/-- A policy action: both its arrays of parameters. -/
theorem answer_eqSeqPolAction (m0 m1 : SeqPolAction) :
    (eqSeqPolAction m0 m1).answer = SeqPolAction.plan.eq m0 m1 := by
  simp only [eqSeqPolAction, answer_both, answer_next, some_and, andThen_assoc,
    Plan.answer_assert, andThen_if, Plan.answer_array answer_eqSeqRanParam3, ← Plan.equal_eq]
  rfl

/-- `eq_seq_policy_sty`. -/
def SeqPolicySty.plan : Plan fun m0 m1 : SeqPolicySty => m0 = m1 :=
  ((Plan.equal.on styleType).both <| Plan.given (fun m => sized 151 m.name) <|
    (Plan.equal.on name).both <| (Plan.equal.on evTrgStyleType).both <|
    Plan.given (fun m => below 65536 m.seqPolAction) <|
    SeqPolAction.plan.array.on seqPolAction).congr fun m0 m1 => by cases m0; cases m1; simp

theorem answer_eqSeqPolicySty (m0 m1 : SeqPolicySty) :
    (eqSeqPolicySty m0 m1).answer = SeqPolicySty.plan.eq m0 m1 := by
  simp only [eqSeqPolicySty, answer_both, answer_next, some_and, andThen_assoc,
    Plan.answer_assert, andThen_if, Plan.answer_array answer_eqSeqPolAction, ← Plan.equal_eq]
  rfl

/-- `eq_ran_func_def_policy`. -/
def RanFuncDefPolicy.plan : Plan fun m0 m1 : RanFuncDefPolicy => m0 = m1 :=
  (Plan.given (fun m => sized 64 m.seqPolicySty) <| SeqPolicySty.plan.array.on seqPolicySty).congr
    fun m0 m1 => by cases m0; cases m1; simp

/-- **The policies**: the styles in order. -/
theorem answer_eqRanFuncDefPolicy (m0 m1 : RanFuncDefPolicy) :
    (eqRanFuncDefPolicy m0 m1).answer = RanFuncDefPolicy.plan.eq m0 m1 := by
  simp only [eqRanFuncDefPolicy, Plan.answer_assert, andThen_if,
    Plan.answer_array answer_eqSeqPolicySty]
  rfl

/-! ## The definitions -/

/-- `eq_e2sm_rc_func_def`. -/
def FuncDef.plan : Plan fun m0 m1 : FuncDef => m0 = m1 :=
  ((Kpm.RanFunctionName.plan.on name).both <| (RanFuncDefEvTrig.plan.optional.on evTrig).both <|
    (RanFuncDefReport.plan.optional.on report).both <|
    (RanFuncDefInsert.plan.optional.on insert).both <|
    (RanFuncDefCtrl.plan.optional.on ctrl).both <| RanFuncDefPolicy.plan.optional.on policy).congr
      fun m0 m1 => by cases m0; cases m1; simp

/-- **The comparison of two function definitions** is what its plan says. -/
theorem answer_eqFuncDef (m0 m1 : FuncDef) : (eqFuncDef m0 m1).answer = FuncDef.plan.eq m0 m1 := by
  simp only [eqFuncDef, answer_both, Kpm.answer_eqRanFunctionName,
    Plan.answer_eqOptional answer_eqRanFuncDefEvTrig,
    Plan.answer_eqOptional answer_eqRanFuncDefReport,
    Plan.answer_eqOptional answer_eqRanFuncDefInsert,
    Plan.answer_eqOptional answer_eqRanFuncDefCtrl,
    Plan.answer_eqOptional answer_eqRanFuncDefPolicy]
  rfl

end Rc

end FlexRic
