import FlexRic.Rc.ParamPlans
import FlexRic.Rc.RcValues

/-!
# FlexRic.Rc.EventTriggerPlans

What the comparison of event triggers looks at.

* Of the information on changes of the node, nothing is looked at.
* Of two formats, the second trigger is read in the format of the first one, and the answer is the
  one to what is read.
* `answer_eqEventTrigger`: the comparison of the source does what the plan says.
-/

namespace FlexRic

namespace Rc

open Outcome Ue Answers

/-- The optional fields of an interface. -/
def NetworkInterfaceE2rc.extras (m : NetworkInterfaceE2rc) := (m.niId, m.niMsgId)

theorem NetworkInterfaceE2rc.extras_of_bare {m : NetworkInterfaceE2rc} (h : m.bare = true) :
    m.extras = (none, none) := by
  simp only [bare, Bool.and_eq_true, Option.isNone_iff_eq_none] at h
  simp only [extras, h]

/-- `eq_network_interface_e2rc`. -/
def NetworkInterfaceE2rc.plan : Plan fun m0 m1 : NetworkInterfaceE2rc => m0 = m1 :=
  ((Plan.equal.on niType).both <| Plan.bare bare extras fun _ => extras_of_bare).congr
    fun m0 m1 => by cases m0; cases m1; simp [extras]

/-- The interface, and nothing that is not implemented. -/
theorem answer_eqNetworkInterfaceE2rc (m0 m1 : NetworkInterfaceE2rc) :
    (eqNetworkInterfaceE2rc m0 m1).answer = NetworkInterfaceE2rc.plan.eq m0 m1 := by
  simp only [eqNetworkInterfaceE2rc, answer_both, answer_next, Plan.answer_assert, answer_pure,
    andThen_true, ← Plan.equal_eq]
  rfl

/-- Two RRC messages are equal in type and id. -/
theorem eqRrcMsgId_iff {m0 m1 : RrcMsgId} : eqRrcMsgId m0 m1 = true ↔ m0 = m1 := by
  cases m0
  cases m1
  simp [eqRrcMsgId]

/-- The kinds of messages. -/
def MsgTypeEvTrg.kind : MsgTypeEvTrg → NetworkInterfaceE2rc ⊕ RrcMsgId
  | networkInterface n => .inl n
  | rrcMsg r => .inr r

/-- The kind of a message has the message in it. -/
theorem MsgTypeEvTrg.kind_inj {m0 m1 : MsgTypeEvTrg} : m0.kind = m1.kind ↔ m0 = m1 := by
  cases m0 <;> cases m1 <;> simp [kind]

/-- The union of `eq_msg_ev_trg`. -/
def MsgTypeEvTrg.plan : Plan fun m0 m1 : MsgTypeEvTrg => m0 = m1 :=
  ((NetworkInterfaceE2rc.plan.kinds <| .ofBool eqRrcMsgId fun _ _ => eqRrcMsgId_iff).on kind).congr
    fun _ _ => kind_inj

theorem answer_eqMsgTypeEvTrg (m0 m1 : MsgTypeEvTrg) :
    (eqMsgTypeEvTrg m0 m1).answer = MsgTypeEvTrg.plan.eq m0 m1 := by
  cases m0 <;> cases m1
  case networkInterface.networkInterface n0 n1 => exact answer_eqNetworkInterfaceE2rc n0 n1
  all_goals rfl

/-- The optional fields of a message. -/
def MsgEvTrg.extras (m : MsgEvTrg) := (m.msgDir, m.assocUeInfo, m.logOr)

theorem MsgEvTrg.extras_of_bare {m : MsgEvTrg} (h : m.bare = true) :
    m.extras = (none, none, none) := by
  simp only [bare, Bool.and_eq_true, Option.isNone_iff_eq_none] at h
  simp only [extras, h]

/-- `eq_msg_ev_trg`. -/
def MsgEvTrg.plan : Plan fun m0 m1 : MsgEvTrg => m0 = m1 :=
  ((Plan.equal.on evTriggerCondId).both <| (MsgTypeEvTrg.plan.on msgType).both <|
    Plan.bare bare extras fun _ => extras_of_bare).congr
    fun m0 m1 => by cases m0; cases m1; simp [extras]

/-- A message under its condition's id. -/
theorem answer_eqMsgEvTrg (m0 m1 : MsgEvTrg) :
    (eqMsgEvTrg m0 m1).answer = MsgEvTrg.plan.eq m0 m1 := by
  simp only [eqMsgEvTrg, answer_both, answer_next, answer_eqMsgTypeEvTrg, Plan.answer_assert,
    answer_pure, andThen_true, ← Plan.equal_eq]
  rfl

/-- `eq_e2sm_rc_ev_trg_frmt_1`. -/
def EvTrgFrmt1.plan : Plan fun m0 m1 : EvTrgFrmt1 => m0 = m1 :=
  (Plan.given (fun m => sized 65536 m.msgEvTrg) <| (MsgEvTrg.plan.array.on msgEvTrg).both <|
    Plan.absent.on globalAssocUeInfo).congr fun m0 m1 => by cases m0; cases m1; simp

/-- **Format 1 is compared as its plan says**: the messages in order, then the UE info. -/
theorem answer_eqEvTrgFrmt1 (m0 m1 : EvTrgFrmt1) :
    (eqEvTrgFrmt1 m0 m1).answer = EvTrgFrmt1.plan.eq m0 m1 := by
  simp only [eqEvTrgFrmt1, Plan.answer_assert, andThen_if, answer_both,
    Plan.answer_array answer_eqMsgEvTrg, answer_pure, andThen_true]
  rfl

/-- The optional fields of format 2. -/
def EvTrgFrmt2.extras (m : EvTrgFrmt2) := (m.assocE2NodeInfo, m.assocUeInfo)

theorem EvTrgFrmt2.extras_of_bare {m : EvTrgFrmt2} (h : m.bare = true) :
    m.extras = (none, none) := by
  simp only [bare, Bool.and_eq_true, Option.isNone_iff_eq_none] at h
  simp only [extras, h]

/-- `eq_e2sm_rc_ev_trg_frmt_2`. -/
def EvTrgFrmt2.plan : Plan fun m0 m1 : EvTrgFrmt2 => m0 = m1 :=
  (Plan.given (fun m => decide (0 < m.callProcTypeId)) <| (Plan.equal.on callProcTypeId).both <|
    Plan.given (fun m => decide (0 < m.callBreakId)) <| (Plan.equal.on callBreakId).both <|
    Plan.bare bare extras fun _ => extras_of_bare).congr
    fun m0 m1 => by cases m0; cases m1; simp [extras]

/-- **Format 2**: two ids, asserted positive first. -/
theorem answer_eqEvTrgFrmt2 (m0 m1 : EvTrgFrmt2) :
    (eqEvTrgFrmt2 m0 m1).answer = EvTrgFrmt2.plan.eq m0 m1 := by
  simp only [eqEvTrgFrmt2, Plan.answer_assert, andThen_if, answer_both, answer_next, answer_pure,
    andThen_true, ← Plan.equal_eq]
  rfl

/-- The ids of a change. -/
def E2NodeInfoChng.ids (m : E2NodeInfoChng) := (m.evTriggerCondId, m.e2NodeInfoChngId)

/-- The optional fields of a change. -/
def E2NodeInfoChng.extras (m : E2NodeInfoChng) := (m.evTriggerCellInfo, m.logOr)

theorem E2NodeInfoChng.extras_of_bare {m : E2NodeInfoChng} (h : m.bare = true) :
    m.extras = (none, none) := by
  simp only [bare, Bool.and_eq_true, Option.isNone_iff_eq_none] at h
  simp only [extras, h]

/-- `eq_e2_node_info_chng`: the ids are not compared. -/
def E2NodeInfoChng.plan : Plan fun m0 m1 : E2NodeInfoChng => m0 = m1 :=
  (Plan.given inRange <| ((Plan.unseen (· = ·)).on ids).both <|
    Plan.bare bare extras fun _ => extras_of_bare).congr
    fun m0 m1 => by cases m0; cases m1; simp [ids, extras, and_assoc]

/-- A change's two ids; what is not implemented is asserted absent on both sides. -/
theorem answer_eqE2NodeInfoChng (m0 m1 : E2NodeInfoChng) :
    (eqE2NodeInfoChng m0 m1).answer = E2NodeInfoChng.plan.eq m0 m1 := by
  simp only [eqE2NodeInfoChng, Plan.answer_assert, andThen_if, answer_pure]
  rfl

/-- `eq_e2sm_rc_ev_trg_frmt_3`. -/
def EvTrgFrmt3.plan : Plan fun m0 m1 : EvTrgFrmt3 => m0 = m1 :=
  (Plan.given (fun m => sized 65536 m.e2NodeInfoChng) <|
    E2NodeInfoChng.plan.array.on e2NodeInfoChng).congr fun m0 m1 => by cases m0; cases m1; simp

/-- **Format 3**: the changes in order. -/
theorem answer_eqEvTrgFrmt3 (m0 m1 : EvTrgFrmt3) :
    (eqEvTrgFrmt3 m0 m1).answer = EvTrgFrmt3.plan.eq m0 m1 := by
  simp only [eqEvTrgFrmt3, Plan.answer_assert, andThen_if,
    Plan.answer_array answer_eqE2NodeInfoChng]
  rfl

/-- `eq_rrc_state`. -/
def RrcState.plan : Plan fun m0 m1 : RrcState => m0 = m1 :=
  ((Plan.equal.on stateChngdTo).both <| Plan.absent.on logOr).congr
    fun m0 m1 => by cases m0; cases m1; simp

/-- The state, and no logical or. -/
theorem answer_eqRrcState (m0 m1 : RrcState) :
    (eqRrcState m0 m1).answer = RrcState.plan.eq m0 m1 := by
  simp only [eqRrcState, answer_both, answer_next, Plan.answer_assert, answer_pure, andThen_true,
    ← Plan.equal_eq]
  rfl

/-- The kinds of changes of a UE. -/
def UeInfoChngTrigger.kind : UeInfoChngTrigger → List RrcState ⊕ UInt16 ⊕ List RanParamTest
  | rrcState s => .inl s
  | ueIdChng i => .inr (.inl i)
  | l2State t => .inr (.inr t)

theorem UeInfoChngTrigger.kind_inj {m0 m1 : UeInfoChngTrigger} : m0.kind = m1.kind ↔ m0 = m1 := by
  cases m0 <;> cases m1 <;> simp [kind]

/-- The union of `eq_ue_info_chng`. -/
def UeInfoChngTrigger.plan : Plan fun m0 m1 : UeInfoChngTrigger => m0 = m1 :=
  ((RrcState.plan.array.insist.kinds <| Plan.equal.insist.kinds
    RanParamTest.plan.array.insist).on kind).congr fun _ _ => kind_inj

/-- A trigger is compared with one of its type. -/
theorem answer_eqUeInfoChngTrigger (m0 m1 : UeInfoChngTrigger) :
    (eqUeInfoChngTrigger m0 m1).answer = UeInfoChngTrigger.plan.eq m0 m1 := by
  cases m0 <;> cases m1
  case rrcState.rrcState s0 s1 =>
    exact answer_sameType (Plan.answer_array answer_eqRrcState s0 s1)
  case ueIdChng.ueIdChng i0 i1 =>
    have h : (Outcome.next (i0 == i1)).answer = Plan.equal.eq i0 i1 := (Plan.equal_eq i0 i1).symm
    exact answer_sameType h
  case l2State.l2State t0 t1 => exact answer_sameType (answer_eqRanParamCondCritDef t0 t1)
  all_goals rfl

/-- The optional fields of a change. -/
def UeInfoChng.extras (m : UeInfoChng) := (m.assocUeInfo, m.logOr)

theorem UeInfoChng.extras_of_bare {m : UeInfoChng} (h : m.bare = true) :
    m.extras = (none, none) := by
  simp only [bare, Bool.and_eq_true, Option.isNone_iff_eq_none] at h
  simp only [extras, h]

/-- `eq_ue_info_chng`. -/
def UeInfoChng.plan : Plan fun m0 m1 : UeInfoChng => m0 = m1 :=
  (Plan.given (fun m => decide (0 < m.evTrigCondId)) <| (Plan.equal.on evTrigCondId).both <|
    (UeInfoChngTrigger.plan.on trigger).both <|
    Plan.bare bare extras fun _ => extras_of_bare).congr
    fun m0 m1 => by cases m0; cases m1; simp [extras]

/-- A change of a UE: its id and its trigger. -/
theorem answer_eqUeInfoChng (m0 m1 : UeInfoChng) :
    (eqUeInfoChng m0 m1).answer = UeInfoChng.plan.eq m0 m1 := by
  simp only [eqUeInfoChng, Plan.answer_assert, andThen_if, answer_both, answer_next,
    answer_eqUeInfoChngTrigger, answer_pure, andThen_true, ← Plan.equal_eq]
  rfl

/-- `eq_e2sm_rc_ev_trg_frmt_4`. -/
def EvTrgFrmt4.plan : Plan fun m0 m1 : EvTrgFrmt4 => m0 = m1 :=
  (Plan.given (fun m => sized 65536 m.ueInfoChng) <| UeInfoChng.plan.array.on ueInfoChng).congr
    fun m0 m1 => by cases m0; cases m1; simp

/-- **Format 4**: the changes of UEs in order. -/
theorem answer_eqEvTrgFrmt4 (m0 m1 : EvTrgFrmt4) :
    (eqEvTrgFrmt4 m0 m1).answer = EvTrgFrmt4.plan.eq m0 m1 := by
  simp only [eqEvTrgFrmt4, Plan.answer_assert, andThen_if, Plan.answer_array answer_eqUeInfoChng]
  rfl

/-- The optional fields of format 5. -/
def EvTrgFrmt5.extras (m : EvTrgFrmt5) := (m.assocUeInfo, m.assocCellInfo)

theorem EvTrgFrmt5.extras_of_bare {m : EvTrgFrmt5} (h : m.bare = true) :
    m.extras = (none, none) := by
  simp only [bare, Bool.and_eq_true, Option.isNone_iff_eq_none] at h
  simp only [extras, h]

/-- `eq_e2sm_rc_ev_trg_frmt_5`. -/
def EvTrgFrmt5.plan : Plan fun m0 m1 : EvTrgFrmt5 => m0 = m1 :=
  ((Plan.equal.on onDemand).both <|
    Plan.bare bare extras fun _ => extras_of_bare).congr
    fun m0 m1 => by cases m0; cases m1; simp [extras]

/-- **Format 5**: the flag. -/
theorem answer_eqEvTrgFrmt5 (m0 m1 : EvTrgFrmt5) :
    (eqEvTrgFrmt5 m0 m1).answer = EvTrgFrmt5.plan.eq m0 m1 := by
  simp only [eqEvTrgFrmt5, answer_both, answer_next, Plan.answer_assert, answer_pure, andThen_true,
    ← Plan.equal_eq]
  rfl

namespace EventTrigger

/-- The kinds of event triggers. -/
def kind : EventTrigger → EvTrgFrmt1 ⊕ EvTrgFrmt2 ⊕ EvTrgFrmt3 ⊕ EvTrgFrmt4 ⊕ EvTrgFrmt5
  | frmt1 f => .inl f
  | frmt2 f => .inr (.inl f)
  | frmt3 f => .inr (.inr (.inl f))
  | frmt4 f => .inr (.inr (.inr (.inl f)))
  | frmt5 f => .inr (.inr (.inr (.inr f)))

/-- The format of a trigger has the trigger in it. -/
theorem kind_inj {m0 m1 : EventTrigger} : m0.kind = m1.kind ↔ m0 = m1 := by
  cases m0 <;> cases m1 <;> simp [kind]

/-- Two triggers of one format. -/
def formatPlan : Plan fun m0 m1 : EventTrigger => m0 = m1 :=
  ((EvTrgFrmt1.plan.kinds <| EvTrgFrmt2.plan.kinds <| EvTrgFrmt3.plan.kinds <|
    EvTrgFrmt4.plan.kinds EvTrgFrmt5.plan).on kind).congr fun _ _ => kind_inj

variable (rr : Reread)

/-- The answer to a trigger and what is read of another one in its format. -/
def eqReread : EventTrigger → EventTrigger → Option Bool
  | frmt1 f0, m1 => (rr.frmt1 m1).bind (EvTrgFrmt1.plan.eq f0)
  | frmt2 f0, m1 => (rr.frmt2 m1).bind (EvTrgFrmt2.plan.eq f0)
  | frmt3 f0, m1 => (rr.frmt3 m1).bind (EvTrgFrmt3.plan.eq f0)
  | frmt4 f0, m1 => (rr.frmt4 m1).bind (EvTrgFrmt4.plan.eq f0)
  | frmt5 f0, m1 => (rr.frmt5 m1).bind (EvTrgFrmt5.plan.eq f0)

/-- What is read can be compared. -/
def SafeReread : EventTrigger → EventTrigger → Prop
  | frmt1 f0, m1 => ∃ f1, rr.frmt1 m1 = some f1 ∧ EvTrgFrmt1.plan.safe f0 f1
  | frmt2 f0, m1 => ∃ f1, rr.frmt2 m1 = some f1 ∧ EvTrgFrmt2.plan.safe f0 f1
  | frmt3 f0, m1 => ∃ f1, rr.frmt3 m1 = some f1 ∧ EvTrgFrmt3.plan.safe f0 f1
  | frmt4 f0, m1 => ∃ f1, rr.frmt4 m1 = some f1 ∧ EvTrgFrmt4.plan.safe f0 f1
  | frmt5 f0, m1 => ∃ f1, rr.frmt5 m1 = some f1 ∧ EvTrgFrmt5.plan.safe f0 f1

/-- What is read agrees with the trigger. -/
def AgreeReread : EventTrigger → EventTrigger → Prop
  | frmt1 f0, m1 => ∃ f1, rr.frmt1 m1 = some f1 ∧ EvTrgFrmt1.plan.agree f0 f1
  | frmt2 f0, m1 => ∃ f1, rr.frmt2 m1 = some f1 ∧ EvTrgFrmt2.plan.agree f0 f1
  | frmt3 f0, m1 => ∃ f1, rr.frmt3 m1 = some f1 ∧ EvTrgFrmt3.plan.agree f0 f1
  | frmt4 f0, m1 => ∃ f1, rr.frmt4 m1 = some f1 ∧ EvTrgFrmt4.plan.agree f0 f1
  | frmt5 f0, m1 => ∃ f1, rr.frmt5 m1 = some f1 ∧ EvTrgFrmt5.plan.agree f0 f1

/-- **The check of a trigger that was read back** judges the two of them. -/
theorem judges_eqReread (m0 m1 : EventTrigger) :
    Judges (eqReread rr m0 m1) (SafeReread rr m0 m1) (AgreeReread rr m0 m1) := by
  cases m0 with
  | frmt1 f0 => exact EvTrgFrmt1.plan.judges_read f0 _
  | frmt2 f0 => exact EvTrgFrmt2.plan.judges_read f0 _
  | frmt3 f0 => exact EvTrgFrmt3.plan.judges_read f0 _
  | frmt4 f0 => exact EvTrgFrmt4.plan.judges_read f0 _
  | frmt5 f0 => exact EvTrgFrmt5.plan.judges_read f0 _

/-- `eq_e2sm_rc_event_trigger`. -/
def plan : Plan fun m0 m1 : EventTrigger => m0 = m1 :=
  formatPlan.oneFormat format (eqReread rr) (SafeReread rr) (AgreeReread rr) (judges_eqReread rr)
    fun _ _ h => congrArg format h

end EventTrigger

/-- A comparison with what may not have been read. -/
theorem answer_eqRead {α : Type} {eq : α → α → Outcome Bool} {p : Plan fun a b : α => a = b}
    (h : ∀ a b, (eq a b).answer = p.eq a b) (a : α) (o : Option α) :
    (eqRead eq a o).answer = o.bind (p.eq a) := by
  cases o with
  | none => rfl
  | some b => exact h a b

/-- **The comparison of two event triggers** is what its plan says. -/
theorem answer_eqEventTrigger (rr : Reread) (m0 m1 : EventTrigger) :
    (eqEventTrigger rr m0 m1).answer = (EventTrigger.plan rr).eq m0 m1 := by
  show _ = if m0.format = m1.format then EventTrigger.formatPlan.eq m0 m1
    else EventTrigger.eqReread rr m0 m1
  cases m0 <;> cases m1
  case frmt1.frmt1 f0 f1 => exact answer_eqEvTrgFrmt1 f0 f1
  case frmt2.frmt2 f0 f1 => exact answer_eqEvTrgFrmt2 f0 f1
  case frmt3.frmt3 f0 f1 => exact answer_eqEvTrgFrmt3 f0 f1
  case frmt4.frmt4 f0 f1 => exact answer_eqEvTrgFrmt4 f0 f1
  case frmt5.frmt5 f0 f1 => exact answer_eqEvTrgFrmt5 f0 f1
  all_goals rw [if_neg (fun h => nomatch h)]
  case frmt1.frmt2 | frmt1.frmt3 | frmt1.frmt4 | frmt1.frmt5 =>
    exact answer_eqRead answer_eqEvTrgFrmt1 _ _
  case frmt2.frmt1 | frmt2.frmt3 | frmt2.frmt4 | frmt2.frmt5 =>
    exact answer_eqRead answer_eqEvTrgFrmt2 _ _
  case frmt3.frmt1 | frmt3.frmt2 | frmt3.frmt4 | frmt3.frmt5 =>
    exact answer_eqRead answer_eqEvTrgFrmt3 _ _
  case frmt4.frmt1 | frmt4.frmt2 | frmt4.frmt3 | frmt4.frmt5 =>
    exact answer_eqRead answer_eqEvTrgFrmt4 _ _
  case frmt5.frmt1 | frmt5.frmt2 | frmt5.frmt3 | frmt5.frmt4 =>
    exact answer_eqRead answer_eqEvTrgFrmt5 _ _

end Rc

end FlexRic
