import FlexRic.Rc.ParamPlans
import FlexRic.Rc.RcValues

/-!
# FlexRic.Rc.MessagePlans

What the comparisons of indication and control messages look at.

* The parameters of a UE, the indications of an insert style and the cells of format 4 are compared
  over the length of the first array.
* Differences in most arrays are asserted away, and so are contexts and neighbours of cells.
* `answer_eqIndMsg`, `answer_eqCtrlMsg`: the comparisons of the source do what the plans say.
-/

namespace FlexRic

namespace Rc

open Outcome Ue Answers

/-! ## Indication messages -/

/-- `eq_e2sm_rc_ind_msg_frmt_1`. -/
def IndMsgFrmt1.plan : Plan fun m0 m1 : IndMsgFrmt1 => m0 = m1 :=
  (SeqRanParam.plan.arrayMust.on seqRanParam).congr fun m0 m1 => by cases m0; cases m1; simp

/-- `eq_seq_ue_id`: the second array is read over the length of the first one. -/
def SeqUeId.plan : Plan fun m0 m1 : SeqUeId => m0 = m1 :=
  ((UeId.plan.on ueId).both <| Plan.given (fun m => sized 65536 m.seqRanParam) <|
    SeqRanParam.plan.arrayUpTo.on seqRanParam).congr fun m0 m1 => by cases m0; cases m1; simp

/-- The identity of the UE first, then its parameters. -/
theorem answer_eqSeqUeId (m0 m1 : SeqUeId) :
    (eqSeqUeId m0 m1).answer = SeqUeId.plan.eq m0 m1 := by
  simp only [eqSeqUeId, answer_both, answer_eqUeIdE2sm, Plan.answer_assert, andThen_if,
    Plan.answer_arrayUpTo answer_eqSeqRanParam]
  rfl

/-- `eq_e2sm_rc_ind_msg_frmt_2`. -/
def IndMsgFrmt2.plan : Plan fun m0 m1 : IndMsgFrmt2 => m0 = m1 :=
  (SeqUeId.plan.arrayMust.on seqUeId).congr fun m0 m1 => by cases m0; cases m1; simp

/-- The optional fields of a cell. -/
def SeqCellInfo.extras (m : SeqCellInfo) := (m.cellCtxInfo, m.cellDel, m.neighbourRelaTbl)

theorem SeqCellInfo.extras_of_bare {m : SeqCellInfo} (h : m.bare = true) :
    m.extras = (none, none, none) := by
  simp only [bare, Bool.and_eq_true, Option.isNone_iff_eq_none] at h
  simp only [extras, h]

/-- `eq_seq_cell_info`. -/
def SeqCellInfo.plan : Plan fun m0 m1 : SeqCellInfo => m0 = m1 :=
  ((Kpm.cellGlobalId.on cellGlobalId).both <| Plan.bare bare extras fun _ => extras_of_bare).congr
    fun m0 m1 => by cases m0; cases m1; simp [extras]

/-- A cell is compared by its id. -/
theorem answer_eqSeqCellInfo (m0 m1 : SeqCellInfo) :
    (eqSeqCellInfo m0 m1).answer = SeqCellInfo.plan.eq m0 m1 := by
  simp only [eqSeqCellInfo, answer_both, Plan.answer_assert, answer_pure, andThen_true]
  rfl

/-- `eq_e2sm_rc_ind_msg_frmt_3`. -/
def IndMsgFrmt3.plan : Plan fun m0 m1 : IndMsgFrmt3 => m0 = m1 :=
  (SeqCellInfo.plan.arrayMust.on seqCellInfo).congr fun m0 m1 => by cases m0; cases m1; simp

/-- `eq_seq_ue_info`. -/
def SeqUeInfo.plan : Plan fun m0 m1 : SeqUeInfo => m0 = m1 :=
  ((UeId.plan.on ueId).both <| (Plan.absent.on ueCtxInfo).both <|
    Kpm.cellGlobalId.on cellGlobalId).congr fun m0 m1 => by cases m0; cases m1; simp

/-- A UE is compared by its identity. -/
theorem answer_eqSeqUeInfo (m0 m1 : SeqUeInfo) :
    (eqSeqUeInfo m0 m1).answer = SeqUeInfo.plan.eq m0 m1 := by
  simp only [eqSeqUeInfo, answer_both, answer_eqUeIdE2sm, Plan.answer_assert]
  rfl

/-- The optional fields of a cell. -/
def SeqCellInfo2.extras (m : SeqCellInfo2) := (m.cellCtxInfo, m.neighbourRelaTbl)

theorem SeqCellInfo2.extras_of_bare {m : SeqCellInfo2} (h : m.bare = true) :
    m.extras = (none, none) := by
  simp only [bare, Bool.and_eq_true, Option.isNone_iff_eq_none] at h
  simp only [extras, h]

/-- `eq_seq_cell_info_2`. -/
def SeqCellInfo2.plan : Plan fun m0 m1 : SeqCellInfo2 => m0 = m1 :=
  ((Kpm.cellGlobalId.on cellGlobalId).both <| Plan.bare bare extras fun _ => extras_of_bare).congr
    fun m0 m1 => by cases m0; cases m1; simp [extras]

theorem answer_eqSeqCellInfo2 (m0 m1 : SeqCellInfo2) :
    (eqSeqCellInfo2 m0 m1).answer = SeqCellInfo2.plan.eq m0 m1 := by
  simp only [eqSeqCellInfo2, answer_both, Plan.answer_assert, answer_pure, andThen_true]
  rfl

/-- `eq_e2sm_rc_ind_msg_frmt_4`: the cells are read over the number of the first ones. -/
def IndMsgFrmt4.plan : Plan fun m0 m1 : IndMsgFrmt4 => m0 = m1 :=
  (Plan.given (fun m => below 65536 m.seqUeInfo) <|
    (SeqUeInfo.plan.arrayMust.on seqUeInfo).both <|
    Plan.given (fun m => below 65536 m.seqCellInfo2) <|
    SeqCellInfo2.plan.arrayUpTo.insist.on seqCellInfo2).congr
      fun m0 m1 => by cases m0; cases m1; simp

/-- **Format 4**: the UEs, then the cells, each array counted in 16 bits. -/
theorem answer_eqIndMsgFrmt4 (m0 m1 : IndMsgFrmt4) :
    (eqIndMsgFrmt4 m0 m1).answer = IndMsgFrmt4.plan.eq m0 m1 := by
  have hcells (y : Outcome Bool) := Plan.answer_must
    (Plan.answer_arrayUpTo answer_eqSeqCellInfo2 m0.seqCellInfo2 m1.seqCellInfo2) y
  simp only [eqIndMsgFrmt4, Plan.answer_assert, andThen_if, answer_both,
    Plan.answer_allEqMust answer_eqSeqUeInfo, hcells, answer_pure, andThen_true]
  rfl

/-- `eq_e2sm_rc_ind_msg_frmt_5`. -/
def IndMsgFrmt5.plan : Plan fun m0 m1 : IndMsgFrmt5 => m0 = m1 :=
  (SeqRanParam.plan.arrayMust.on seqRanParam).congr fun m0 m1 => by cases m0; cases m1; simp

/-- `eq_ran_param_req`. -/
def RanParamReq.plan : Plan fun m0 m1 : RanParamReq => m0 = m1 :=
  (Plan.given (fun m => decide (0 < m.ranParamId)) <| (Plan.equal.on ranParamId).both <|
    RanParamValType.plan.on ranParam).congr fun m0 m1 => by cases m0; cases m1; simp

/-- A parameter that is requested: its id, asserted positive, and its value. -/
theorem answer_eqRanParamReq (m0 m1 : RanParamReq) :
    (eqRanParamReq m0 m1).answer = RanParamReq.plan.eq m0 m1 := by
  simp only [eqRanParamReq, Plan.answer_assert, andThen_if, answer_both, answer_next,
    answer_eqRanParamValType, ← Plan.equal_eq]
  rfl

/-- `eq_seq_ins_ind_act_2`. -/
def SeqInsIndAct2.plan : Plan fun m0 m1 : SeqInsIndAct2 => m0 = m1 :=
  ((Plan.equal.on insIndId).both <| Plan.given (fun m => below 65536 m.ranParamReq) <|
    RanParamReq.plan.array.on ranParamReq).congr fun m0 m1 => by cases m0; cases m1; simp

/-- An insert indication: its id and its parameters. -/
theorem answer_eqSeqInsIndAct2 (m0 m1 : SeqInsIndAct2) :
    (eqSeqInsIndAct2 m0 m1).answer = SeqInsIndAct2.plan.eq m0 m1 := by
  simp only [eqSeqInsIndAct2, answer_both, answer_next, Plan.answer_assert, andThen_if,
    Plan.answer_array answer_eqRanParamReq, ← Plan.equal_eq]
  rfl

/-- `eq_seq_ins_style_2`: the second array is read over the length of the first one. -/
def SeqInsStyle2.plan : Plan fun m0 m1 : SeqInsStyle2 => m0 = m1 :=
  ((Plan.equal.on indInsStyle).both <| Plan.given (fun m => sized 64 m.seqInsIndAct) <|
    SeqInsIndAct2.plan.arrayUpTo.on seqInsIndAct).congr fun m0 m1 => by cases m0; cases m1; simp

/-- A style: its type and its indications. -/
theorem answer_eqSeqInsStyle2 (m0 m1 : SeqInsStyle2) :
    (eqSeqInsStyle2 m0 m1).answer = SeqInsStyle2.plan.eq m0 m1 := by
  simp only [eqSeqInsStyle2, answer_both, answer_next, Plan.answer_assert, andThen_if,
    Plan.answer_arrayUpTo answer_eqSeqInsIndAct2, ← Plan.equal_eq]
  rfl

/-- `eq_e2sm_rc_ind_msg_frmt_6`. -/
def IndMsgFrmt6.plan : Plan fun m0 m1 : IndMsgFrmt6 => m0 = m1 :=
  (Plan.given (fun m => sized 64 m.seqInsStyle) <|
    SeqInsStyle2.plan.arrayMust.on seqInsStyle).congr fun m0 m1 => by cases m0; cases m1; simp

/-- **Format 6**: the styles in order. -/
theorem answer_eqIndMsgFrmt6 (m0 m1 : IndMsgFrmt6) :
    (eqIndMsgFrmt6 m0 m1).answer = IndMsgFrmt6.plan.eq m0 m1 := by
  simp only [eqIndMsgFrmt6, Plan.answer_assert, andThen_if,
    Plan.answer_allEqMust answer_eqSeqInsStyle2]
  rfl

/-- The kinds of indication messages. -/
def IndMsg.kind : IndMsg →
    IndMsgFrmt1 ⊕ IndMsgFrmt2 ⊕ IndMsgFrmt3 ⊕ IndMsgFrmt4 ⊕ IndMsgFrmt5 ⊕ IndMsgFrmt6
  | frmt1 f => .inl f
  | frmt2 f => .inr (.inl f)
  | frmt3 f => .inr (.inr (.inl f))
  | frmt4 f => .inr (.inr (.inr (.inl f)))
  | frmt5 f => .inr (.inr (.inr (.inr (.inl f))))
  | frmt6 f => .inr (.inr (.inr (.inr (.inr f))))

/-- The format of a message has the message in it. -/
theorem IndMsg.kind_inj {m0 m1 : IndMsg} : m0.kind = m1.kind ↔ m0 = m1 := by
  cases m0 <;> cases m1 <;> simp [kind]

/-- `eq_e2sm_rc_ind_msg`. -/
def IndMsg.plan : Plan fun m0 m1 : IndMsg => m0 = m1 :=
  ((IndMsgFrmt1.plan.kinds <| IndMsgFrmt2.plan.kinds <| IndMsgFrmt3.plan.kinds <|
    IndMsgFrmt4.plan.kinds <| IndMsgFrmt5.plan.kinds IndMsgFrmt6.plan).on kind).congr
      fun _ _ => kind_inj

/-- **The comparison of two indication messages** is what its plan says. -/
theorem answer_eqIndMsg (m0 m1 : IndMsg) : (eqIndMsg m0 m1).answer = IndMsg.plan.eq m0 m1 := by
  cases m0 <;> cases m1
  case frmt1.frmt1 => exact Plan.answer_allEqMust answer_eqSeqRanParam _ _
  case frmt2.frmt2 => exact Plan.answer_allEqMust answer_eqSeqUeId _ _
  case frmt3.frmt3 => exact Plan.answer_allEqMust answer_eqSeqCellInfo _ _
  case frmt4.frmt4 f0 f1 => exact answer_eqIndMsgFrmt4 f0 f1
  case frmt5.frmt5 => exact Plan.answer_allEqMust answer_eqSeqRanParam _ _
  case frmt6.frmt6 f0 f1 => exact answer_eqIndMsgFrmt6 f0 f1
  all_goals rfl

/-! ## Control messages -/

/-- `eq_e2sm_rc_ctrl_msg_frmt_1`. -/
def CtrlMsgFrmt1.plan : Plan fun m0 m1 : CtrlMsgFrmt1 => m0 = m1 :=
  (SeqRanParam.plan.array.on ranParam).congr fun m0 m1 => by cases m0; cases m1; simp

/-- **Format 1**: the parameters in order. -/
theorem answer_eqCtrlMsgFrmt1 (m0 m1 : CtrlMsgFrmt1) :
    (eqCtrlMsgFrmt1 m0 m1).answer = CtrlMsgFrmt1.plan.eq m0 m1 :=
  Plan.answer_array answer_eqSeqRanParam m0.ranParam m1.ranParam

/-- `eq_seq_ctrl_act`. -/
def SeqCtrlAct.plan : Plan fun m0 m1 : SeqCtrlAct => m0 = m1 :=
  (Plan.given (fun m => decide (0 < m.ctrlActId)) <| (Plan.equal.on ctrlActId).both <|
    CtrlMsgFrmt1.plan.optional.on ctrlMsgFrmt1).congr fun m0 m1 => by cases m0; cases m1; simp

/-- An action: its id, and its message if both have one. -/
theorem answer_eqSeqCtrlAct (m0 m1 : SeqCtrlAct) :
    (eqSeqCtrlAct m0 m1).answer = SeqCtrlAct.plan.eq m0 m1 := by
  simp only [eqSeqCtrlAct, Plan.answer_assert, andThen_if, answer_both, answer_next,
    Plan.answer_eqOptional answer_eqCtrlMsgFrmt1, ← Plan.equal_eq]
  rfl

/-- `eq_seq_ctrl_sma`. -/
def SeqCtrlSma.plan : Plan fun m0 m1 : SeqCtrlSma => m0 = m1 :=
  ((Plan.equal.on ctrlStyle).both <| Plan.given (fun m => sized 64 m.seqCtrlAct) <|
    SeqCtrlAct.plan.array.on seqCtrlAct).congr fun m0 m1 => by cases m0; cases m1; simp

/-- A style: its type and its actions. -/
theorem answer_eqSeqCtrlSma (m0 m1 : SeqCtrlSma) :
    (eqSeqCtrlSma m0 m1).answer = SeqCtrlSma.plan.eq m0 m1 := by
  simp only [eqSeqCtrlSma, answer_both, answer_next, Plan.answer_assert, andThen_if,
    Plan.answer_array answer_eqSeqCtrlAct, ← Plan.equal_eq]
  rfl

/-- `eq_e2sm_rc_ctrl_msg_frmt_2`. -/
def CtrlMsgFrmt2.plan : Plan fun m0 m1 : CtrlMsgFrmt2 => m0 = m1 :=
  (Plan.given (fun m => sized 64 m.action) <| SeqCtrlSma.plan.array.on action).congr
    fun m0 m1 => by cases m0; cases m1; simp

/-- **Format 2**: the styles in order. -/
theorem answer_eqCtrlMsgFrmt2 (m0 m1 : CtrlMsgFrmt2) :
    (eqCtrlMsgFrmt2 m0 m1).answer = CtrlMsgFrmt2.plan.eq m0 m1 := by
  simp only [eqCtrlMsgFrmt2, Plan.answer_assert, andThen_if,
    Plan.answer_array answer_eqSeqCtrlSma]
  rfl

/-- The kinds of control messages. -/
def CtrlMsg.kind : CtrlMsg → CtrlMsgFrmt1 ⊕ CtrlMsgFrmt2
  | frmt1 f => .inl f
  | frmt2 f => .inr f

theorem CtrlMsg.kind_inj {m0 m1 : CtrlMsg} : m0.kind = m1.kind ↔ m0 = m1 := by
  cases m0 <;> cases m1 <;> simp [kind]

/-- `eq_e2sm_rc_ctrl_msg`. -/
def CtrlMsg.plan : Plan fun m0 m1 : CtrlMsg => m0 = m1 :=
  ((CtrlMsgFrmt1.plan.kinds CtrlMsgFrmt2.plan).on kind).congr fun _ _ => kind_inj

/-- **The comparison of two control messages** is what its plan says. -/
theorem answer_eqCtrlMsg (m0 m1 : CtrlMsg) :
    (eqCtrlMsg m0 m1).answer = CtrlMsg.plan.eq m0 m1 := by
  cases m0 <;> cases m1
  case frmt1.frmt1 f0 f1 => exact answer_eqCtrlMsgFrmt1 f0 f1
  case frmt2.frmt2 f0 f1 => exact answer_eqCtrlMsgFrmt2 f0 f1
  all_goals rfl

end Rc

end FlexRic
