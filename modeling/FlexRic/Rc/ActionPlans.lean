import FlexRic.Rc.ParamPlans
import FlexRic.Rc.RcValues

/-!
# FlexRic.Rc.ActionPlans

What the comparison of action definitions looks at.

* Of an insert indication, the id is not looked at.
* Differences in an array of reports, policies or parameters to insert are asserted away, and so are
  policy decisions, policy conditions and UE identities.
* `answer_eqActionDef`: the comparison of the source does what the plan says.
-/

namespace FlexRic

namespace Rc

open Outcome Ue Answers

/-- `eq_param_report_def`. -/
def ParamReportDef.plan : Plan fun m0 m1 : ParamReportDef => m0 = m1 :=
  (Plan.given (fun m => decide (0 < m.ranParamId)) <| (Plan.equal.on ranParamId).both <|
    RanParamDef.plan.optional.on ranParamDef).congr fun m0 m1 => by cases m0; cases m1; simp

/-- A parameter to report: its id and its definition. -/
theorem answer_eqParamReportDef (m0 m1 : ParamReportDef) :
    (eqParamReportDef m0 m1).answer = ParamReportDef.plan.eq m0 m1 := by
  simp only [eqParamReportDef, Plan.answer_assert, andThen_if, answer_both, answer_next,
    Plan.answer_eqOptional answer_eqRanParamDef, ← Plan.equal_eq]
  rfl

/-- `eq_e2sm_rc_act_def_frmt_1`. -/
def ActDefFrmt1.plan : Plan fun m0 m1 : ActDefFrmt1 => m0 = m1 :=
  (Plan.given (fun m => decide (0 < m.paramReportDef.length)) <|
    ParamReportDef.plan.arrayMust.on paramReportDef).congr
      fun m0 m1 => by cases m0; cases m1; simp

/-- **Format 1**: the parameters in order. -/
theorem answer_eqActDefFrmt1 (m0 m1 : ActDefFrmt1) :
    (eqActDefFrmt1 m0 m1).answer = ActDefFrmt1.plan.eq m0 m1 := by
  simp only [eqActDefFrmt1, Plan.answer_assert, andThen_if,
    Plan.answer_allEqMust answer_eqParamReportDef]
  rfl

/-- `eq_policy_action`. -/
def PolicyAction.plan : Plan fun m0 m1 : PolicyAction => m0 = m1 :=
  (Plan.given (fun m => decide (0 < m.policyActId)) <| (Plan.equal.on policyActId).both <|
    Plan.given (fun m => below 65535 m.seqRanParam) <|
    (SeqRanParam.plan.array.on seqRanParam).both <| Plan.absent.on polDec).congr
      fun m0 m1 => by cases m0; cases m1; simp

/-- A policy action: its id and its parameters. -/
theorem answer_eqPolicyAction (m0 m1 : PolicyAction) :
    (eqPolicyAction m0 m1).answer = PolicyAction.plan.eq m0 m1 := by
  simp only [eqPolicyAction, Plan.answer_assert, andThen_if, answer_both, answer_next,
    Plan.answer_array answer_eqSeqRanParam, answer_pure, andThen_true, ← Plan.equal_eq]
  rfl

/-- `eq_policy_cond`. -/
def PolicyCond.plan : Plan fun m0 m1 : PolicyCond => m0 = m1 :=
  ((PolicyAction.plan.on polAct).both <| Plan.absent.on pol).congr
    fun m0 m1 => by cases m0; cases m1; simp

theorem answer_eqPolicyCond (m0 m1 : PolicyCond) :
    (eqPolicyCond m0 m1).answer = PolicyCond.plan.eq m0 m1 := by
  simp only [eqPolicyCond, answer_both, answer_eqPolicyAction, Plan.answer_assert, answer_pure,
    andThen_true]
  rfl

/-- `eq_e2sm_rc_act_def_frmt_2`. -/
def ActDefFrmt2.plan : Plan fun m0 m1 : ActDefFrmt2 => m0 = m1 :=
  (Plan.given (fun m => sized 65536 m.policyCond) <|
    PolicyCond.plan.arrayMust.on policyCond).congr fun m0 m1 => by cases m0; cases m1; simp

/-- **Format 2**: the policies in order. -/
theorem answer_eqActDefFrmt2 (m0 m1 : ActDefFrmt2) :
    (eqActDefFrmt2 m0 m1).answer = ActDefFrmt2.plan.eq m0 m1 := by
  simp only [eqActDefFrmt2, Plan.answer_assert, andThen_if,
    Plan.answer_allEqMust answer_eqPolicyCond]
  rfl

/-- `eq_ran_param_ins`. -/
def RanParamIns.plan : Plan fun m0 m1 : RanParamIns => m0 = m1 :=
  ((Plan.equal.on ranId).both <| Plan.absent.on defn).congr
    fun m0 m1 => by cases m0; cases m1; simp

/-- A parameter to insert: its id. -/
theorem answer_eqRanParamIns (m0 m1 : RanParamIns) :
    (eqRanParamIns m0 m1).answer = RanParamIns.plan.eq m0 m1 := by
  simp only [eqRanParamIns, answer_both, answer_next, Plan.answer_assert, answer_pure,
    andThen_true, ← Plan.equal_eq]
  rfl

/-- `eq_e2sm_rc_act_def_frmt_3`. -/
def ActDefFrmt3.plan : Plan fun m0 m1 : ActDefFrmt3 => m0 = m1 :=
  ((Plan.equal.on id).both <| Plan.given (fun m => decide (0 < m.ranParam.length)) <|
    (RanParamIns.plan.arrayMust.on ranParam).both <| Plan.absent.on ueId).congr
      fun m0 m1 => by cases m0; cases m1; simp

/-- **Format 3**: the id, the parameters, then the UE identity. -/
theorem answer_eqActDefFrmt3 (m0 m1 : ActDefFrmt3) :
    (eqActDefFrmt3 m0 m1).answer = ActDefFrmt3.plan.eq m0 m1 := by
  simp only [eqActDefFrmt3, answer_both, answer_next, Plan.answer_assert, andThen_if,
    Plan.answer_allEqMust answer_eqRanParamIns, answer_pure, andThen_true, ← Plan.equal_eq]
  rfl

/-- `eq_ran_param_ins_ind`. -/
def RanParamInsInd.plan : Plan fun m0 m1 : RanParamInsInd => m0 = m1 :=
  (Plan.given (fun m => decide (0 < m.ranParamId)) <| (Plan.equal.on ranParamId).both <|
    Plan.absent.on ranParamDef).congr fun m0 m1 => by cases m0; cases m1; simp

theorem answer_eqRanParamInsInd (m0 m1 : RanParamInsInd) :
    (eqRanParamInsInd m0 m1).answer = RanParamInsInd.plan.eq m0 m1 := by
  simp only [eqRanParamInsInd, Plan.answer_assert, andThen_if, answer_both, answer_next,
    answer_pure, andThen_true, ← Plan.equal_eq]
  rfl

/-- `eq_seq_ins_ind_act_def`: the ids are not compared. -/
def SeqInsIndActDef.plan : Plan fun m0 m1 : SeqInsIndActDef => m0 = m1 :=
  (Plan.given (fun m => decide (0 < m.indId)) <| ((Plan.unseen (· = ·)).on indId).both <|
    RanParamInsInd.plan.array.on ranParamInsInd).congr fun m0 m1 => by cases m0; cases m1; simp

/-- An indication: its id and its parameters. -/
theorem answer_eqSeqInsIndActDef (m0 m1 : SeqInsIndActDef) :
    (eqSeqInsIndActDef m0 m1).answer = SeqInsIndActDef.plan.eq m0 m1 := by
  simp only [eqSeqInsIndActDef, Plan.answer_assert, andThen_if,
    Plan.answer_array answer_eqRanParamInsInd]
  rfl

/-- `eq_seq_ins_style`. -/
def SeqInsStyle.plan : Plan fun m0 m1 : SeqInsStyle => m0 = m1 :=
  ((Plan.equal.on reqInsertStyle).both <| Plan.given (fun m => sized 64 m.seqInsIndActDef) <|
    SeqInsIndActDef.plan.array.on seqInsIndActDef).congr
      fun m0 m1 => by cases m0; cases m1; simp

theorem answer_eqSeqInsStyle (m0 m1 : SeqInsStyle) :
    (eqSeqInsStyle m0 m1).answer = SeqInsStyle.plan.eq m0 m1 := by
  simp only [eqSeqInsStyle, answer_both, answer_next, Plan.answer_assert, andThen_if,
    Plan.answer_array answer_eqSeqInsIndActDef, ← Plan.equal_eq]
  rfl

/-- `eq_e2sm_rc_act_def_frmt_4`. -/
def ActDefFrmt4.plan : Plan fun m0 m1 : ActDefFrmt4 => m0 = m1 :=
  (Plan.given (fun m => sized 5 m.seqInsStyle) <|
    (SeqInsStyle.plan.arrayMust.on seqInsStyle).both <| Plan.absent.on ueId).congr
      fun m0 m1 => by cases m0; cases m1; simp

/-- **Format 4**: the styles, then the UE identity. -/
theorem answer_eqActDefFrmt4 (m0 m1 : ActDefFrmt4) :
    (eqActDefFrmt4 m0 m1).answer = ActDefFrmt4.plan.eq m0 m1 := by
  simp only [eqActDefFrmt4, Plan.answer_assert, andThen_if, answer_both,
    Plan.answer_allEqMust answer_eqSeqInsStyle, answer_pure, andThen_true]
  rfl

/-- The kinds of action definitions. -/
def ActDefFormat.kind : ActDefFormat → ActDefFrmt1 ⊕ ActDefFrmt2 ⊕ ActDefFrmt3 ⊕ ActDefFrmt4
  | frmt1 f => .inl f
  | frmt2 f => .inr (.inl f)
  | frmt3 f => .inr (.inr (.inl f))
  | frmt4 f => .inr (.inr (.inr f))

/-- The format of a definition has the definition in it. -/
theorem ActDefFormat.kind_inj {m0 m1 : ActDefFormat} : m0.kind = m1.kind ↔ m0 = m1 := by
  cases m0 <;> cases m1 <;> simp [kind]

/-- The union of `eq_e2sm_rc_action_def`. -/
def ActDefFormat.plan : Plan fun m0 m1 : ActDefFormat => m0 = m1 :=
  ((ActDefFrmt1.plan.kinds <| ActDefFrmt2.plan.kinds <| ActDefFrmt3.plan.kinds
    ActDefFrmt4.plan).on kind).congr fun _ _ => kind_inj

/-- Definitions of two formats are told apart at once. -/
theorem answer_eqActDefFormat (m0 m1 : ActDefFormat) :
    (eqActDefFormat m0 m1).answer = ActDefFormat.plan.eq m0 m1 := by
  cases m0 <;> cases m1
  case frmt1.frmt1 f0 f1 => exact answer_eqActDefFrmt1 f0 f1
  case frmt2.frmt2 f0 f1 => exact answer_eqActDefFrmt2 f0 f1
  case frmt3.frmt3 f0 f1 => exact answer_eqActDefFrmt3 f0 f1
  case frmt4.frmt4 f0 f1 => exact answer_eqActDefFrmt4 f0 f1
  all_goals rfl

/-- `eq_e2sm_rc_action_def`. -/
def ActionDef.plan : Plan fun m0 m1 : ActionDef => m0 = m1 :=
  ((Plan.equal.on ricStyleType).both <| ActDefFormat.plan.on format).congr
    fun m0 m1 => by cases m0; cases m1; simp

/-- **The comparison of two action definitions** is what its plan says. -/
theorem answer_eqActionDef (m0 m1 : ActionDef) :
    (eqActionDef m0 m1).answer = ActionDef.plan.eq m0 m1 := by
  rw [eqActionDef, answer_both, answer_next, answer_eqActDefFormat, ← Plan.equal_eq]
  rfl

end Rc

end FlexRic
