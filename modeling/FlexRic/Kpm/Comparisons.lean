import FlexRic.Kpm.FunctionDef
import FlexRic.Kpm.KpmPlans

/-!
# FlexRic.Kpm.Comparisons

The comparison of KPM RAN function definitions, and when the comparisons of KPM values and of UE
identities are right.

* A function definition is compared where it is in memory: `eq_meas_info_for_action_lst` compares
  the pointers to two ids and not the ids, and an item with itself is equal to itself.
* `Pair`: what is compared.  `kpmEq_told`: when the answer is right, whatever is compared.
-/

namespace FlexRic

namespace Kpm

open Outcome Ue Answers

/-! ## Function definitions in memory -/

/-- Where an object is. -/
abbrev Address := Nat

/-- `meas_info_for_action_lst_t`, with its pointer to the id. -/
structure MeasInfoForActionAt where
  name : Bytes
  id : Option Address
  binRangeDef : Option BinRangeDef

/-- `ric_report_style_item_t`, with its pointer to the array. -/
structure RicReportStyleItemAt where
  reportStyleType : RicServiceReport
  reportStyleName : Bytes
  actDefFormatType : FormatActionDef
  measInfoForActionLst : Address
  indHdrFormatType : FormatIndHdr
  indMsgFormatType : FormatIndMsg

/-- `kpm_ran_function_def_t`, with its pointer to the report styles. -/
structure RanFunctionDefAt where
  name : RanFunctionName
  ricEventTriggerStyleList : Option (List RicEventTriggerStyleItem)
  ricReportStyleList : Option Address

/-- What the pointers point to. -/
structure Memory where
  id : Address → UInt16
  measInfoForActionLst : Address → List MeasInfoForActionAt
  ricReportStyleList : Address → List RicReportStyleItemAt

section

variable (mem : Memory)

/-- The value that is there. -/
def MeasInfoForActionAt.read (m : MeasInfoForActionAt) : MeasInfoForAction :=
  ⟨m.name, m.id.map mem.id, m.binRangeDef⟩

def RicReportStyleItemAt.read (m : RicReportStyleItemAt) : RicReportStyleItem where
  reportStyleType := m.reportStyleType
  reportStyleName := m.reportStyleName
  actDefFormatType := m.actDefFormatType
  measInfoForActionLst :=
    (mem.measInfoForActionLst m.measInfoForActionLst).map (MeasInfoForActionAt.read mem)
  indHdrFormatType := m.indHdrFormatType
  indMsgFormatType := m.indMsgFormatType

def RanFunctionDefAt.read (m : RanFunctionDefAt) : RanFunctionDef :=
  ⟨m.name, m.ricEventTriggerStyleList,
    m.ricReportStyleList.map fun a =>
      (mem.ricReportStyleList a).map (RicReportStyleItemAt.read mem)⟩

/-- `eq_ran_function_name`: the instance of the second name is read where the first one has an
instance. -/
def eqRanFunctionName (m0 m1 : RanFunctionName) : Outcome Bool :=
  both (.next (m0.name == m1.name && m0.oid == m1.oid && m0.description == m1.description))
    (match m0.instanceNo, m1.instanceNo with
    | none, _ => .next true
    | some _, none => .abort "*m1->instance"
    | some i0, some i1 => .next (i0 == i1))

/-- `eq_ric_event_trigger_style_list`. -/
def eqRicEventTriggerStyleList (m0 m1 : RicEventTriggerStyleItem) : Bool :=
  m0.styleType == m1.styleType && m0.styleName == m1.styleName && m0.formatType == m1.formatType

/-- `eq_meas_info_for_action_lst`, of two items that are one object if they are `here`. -/
def eqMeasInfoForActionLst (here : Bool) (m0 m1 : MeasInfoForActionAt) : Outcome Bool :=
  if here then .next true
  else
    both (.next (m0.name == m1.name && m0.id == m1.id))
      (match m0.binRangeDef, m1.binRangeDef with
      | none, none => .next true
      | some d0, some d1 => eqKpmBinRangeDef d0 d1
      | _, _ => .next false)

/-- An array of measurements for an action. -/
def RicReportStyleItemAt.sized (m : RicReportStyleItemAt) : Bool :=
  0 < (mem.measInfoForActionLst m.measInfoForActionLst).length &&
    (mem.measInfoForActionLst m.measInfoForActionLst).length < 65536

/-- `eq_ric_report_style_item`, of two items that are one object if they are `here`. -/
def eqRicReportStyleItem (here : Bool) (m0 m1 : RicReportStyleItemAt) : Outcome Bool :=
  if here then .next true
  else
    both (.next (m0.reportStyleType == m1.reportStyleType &&
        m0.reportStyleName == m1.reportStyleName && m0.actDefFormatType == m1.actDefFormatType)) do
      assert (m0.sized mem && m1.sized mem)
        "m0->meas_info_for_action_lst_len > 0 && m0->meas_info_for_action_lst_len <  65536"
      both (allEq (eqMeasInfoForActionLst (m0.measInfoForActionLst == m1.measInfoForActionLst))
          (mem.measInfoForActionLst m0.measInfoForActionLst)
          (mem.measInfoForActionLst m1.measInfoForActionLst)) <|
        .next (m0.indHdrFormatType == m1.indHdrFormatType &&
          m0.indMsgFormatType == m1.indMsgFormatType)

/-- The report styles, of which there are none without an array. -/
def RanFunctionDefAt.reports (m : RanFunctionDefAt) : List RicReportStyleItemAt :=
  (m.ricReportStyleList.map mem.ricReportStyleList).getD []

/-- `eq_kpm_ran_function_def`. -/
def eqKpmRanFunctionDef (m0 m1 : RanFunctionDefAt) : Outcome Bool :=
  both (eqRanFunctionName m0.name m1.name) <|
    both (allEq (fun a b => .next (eqRicEventTriggerStyleList a b))
        (m0.ricEventTriggerStyleList.getD []) (m1.ricEventTriggerStyleList.getD [])) <|
      allEq (eqRicReportStyleItem mem (m0.ricReportStyleList == m1.ricReportStyleList))
        (m0.reports mem) (m1.reports mem)

end

/-! ## What is looked at -/

/-- `eq_ran_function_name`. -/
def RanFunctionName.plan : Plan fun m0 m1 : RanFunctionName => m0 = m1 :=
  ((Plan.equal.on name).both <| (Plan.equal.on oid).both <| (Plan.equal.on description).both <|
    Plan.equal.ifFirst.on instanceNo).congr fun m0 m1 => by cases m0; cases m1; simp

/-- Trigger styles are compared in all fields. -/
theorem eqRicEventTriggerStyleList_iff {m0 m1 : RicEventTriggerStyleItem} :
    eqRicEventTriggerStyleList m0 m1 = true ↔ m0 = m1 := by
  cases m0
  cases m1
  simp [eqRicEventTriggerStyleList]

/-- `eq_ric_event_trigger_style_list`. -/
def RicEventTriggerStyleItem.plan : Plan fun m0 m1 : RicEventTriggerStyleItem => m0 = m1 :=
  .ofBool eqRicEventTriggerStyleList fun _ _ => eqRicEventTriggerStyleList_iff

/-- Arrays of equal images are equal when mapped. -/
theorem forall₂_map_eq {α β : Type} {f : α → β} {xs ys : List α} :
    List.Forall₂ (fun a b => f a = f b) xs ys ↔ xs.map f = ys.map f := by
  rw [← List.forall₂_eq_eq_eq, List.forall₂_map_left_iff, List.forall₂_map_right_iff]

section

variable (mem : Memory)

/-- The pointers to ids: only of one place are they the same. -/
def idPointer : Plan fun a b : Option Address => a.map mem.id = b.map mem.id where
  eq a b := some (a == b)
  safe _ _ := True
  agree a b := a = b
  rest _ _ := True
  clear a b := a = b
  judges a b := (judges_some (a == b)).of_iff Iff.rfl beq_iff_eq
  complete a b := by
    rw [and_true]
    exact ⟨fun h => ⟨congrArg (Option.map mem.id) h, h⟩, fun h => h.2⟩
  rest_of_same _ _ _ := trivial

/-- `eq_meas_info_for_action_lst`. -/
def MeasInfoForActionAt.plan : Plan fun m0 m1 : MeasInfoForActionAt => m0.read mem = m1.read mem :=
  ((Plan.equal.on name).both <| ((idPointer mem).on id).both <|
    BinRangeDef.plan.optional.on binRangeDef).congr fun m0 m1 => by simp [read]

/-- The arrays of measurements for actions. -/
def actions : Plan fun a b : Address =>
    (mem.measInfoForActionLst a).map (MeasInfoForActionAt.read mem) =
      (mem.measInfoForActionLst b).map (MeasInfoForActionAt.read mem) :=
  (((MeasInfoForActionAt.plan mem).list.on mem.measInfoForActionLst).congr
    fun _ _ => forall₂_map_eq).unlessHere (· = ·) fun _ _ h => by rw [h]

/-- `eq_ric_report_style_item`. -/
def RicReportStyleItemAt.plan :
    Plan fun m0 m1 : RicReportStyleItemAt => m0.read mem = m1.read mem :=
  ((Plan.equal.on reportStyleType).both <| (Plan.equal.on reportStyleName).both <|
    (Plan.equal.on actDefFormatType).both <| Plan.given (sized mem) <|
    ((actions mem).on measInfoForActionLst).both <| (Plan.equal.on indHdrFormatType).both <|
    Plan.equal.on indMsgFormatType).congr fun m0 m1 => by simp [read]

/-- The arrays of report styles. -/
def reportStyles : Plan fun a b : Option Address =>
    (a.map fun a => (mem.ricReportStyleList a).map (RicReportStyleItemAt.read mem)) =
      b.map fun a => (mem.ricReportStyleList a).map (RicReportStyleItemAt.read mem) :=
  ((((RicReportStyleItemAt.plan mem).list.on fun a : Option Address =>
    (a.map mem.ricReportStyleList).getD []).both <| (Plan.unseen (· = ·)).on Option.isSome).congr
    fun a b => by cases a <;> cases b <;> simp [forall₂_map_eq]).unlessHere (· = ·)
      fun _ _ h => by rw [h]

/-- `eq_kpm_ran_function_def`. -/
def RanFunctionDefAt.plan : Plan fun m0 m1 : RanFunctionDefAt => m0.read mem = m1.read mem :=
  ((RanFunctionName.plan.on name).both <|
    (RicEventTriggerStyleItem.plan.array.nullable.on ricEventTriggerStyleList).both <|
    (reportStyles mem).on ricReportStyleList).congr fun m0 m1 => by simp [read]

/-! ## The comparisons do that -/

/-- The name, the OID and the description, then the instance. -/
theorem answer_eqRanFunctionName (m0 m1 : RanFunctionName) :
    (eqRanFunctionName m0 m1).answer = RanFunctionName.plan.eq m0 m1 := by
  obtain ⟨name0, oid0, desc0, no0⟩ := m0
  obtain ⟨name1, oid1, desc1, no1⟩ := m1
  simp only [eqRanFunctionName, answer_both, answer_next, some_and, andThen_assoc, ← Plan.equal_eq]
  cases no0 <;> cases no1 <;> rfl

/-- A measurement of a report style, at its own address. -/
theorem answer_eqMeasInfoForActionLst (m0 m1 : MeasInfoForActionAt) :
    (eqMeasInfoForActionLst false m0 m1).answer = (MeasInfoForActionAt.plan mem).eq m0 m1 := by
  obtain ⟨name0, id0, bins0⟩ := m0
  obtain ⟨name1, id1, bins1⟩ := m1
  simp only [eqMeasInfoForActionLst, Bool.false_eq_true, if_false, answer_both, answer_next,
    some_and, andThen_assoc, ← Plan.equal_eq (α := Bytes)]
  cases bins0 <;> cases bins1
  case some.some d0 d1 =>
    simp only [answer_eqKpmBinRangeDef]
    rfl
  all_goals rfl

/-- One object is compared with itself without a look at it. -/
theorem allEq_here {α : Type} (xs : List α) :
    allEq (fun _ _ => .next true) xs xs = .next true := by
  induction xs with
  | nil => rfl
  | cons x xs ih => rw [allEq_cons_self, ih, both_true]

/-- Arrays of measurements at one address are equal without a look. -/
theorem answer_actions (a b : Address) :
    (allEq (eqMeasInfoForActionLst (a == b)) (mem.measInfoForActionLst a)
      (mem.measInfoForActionLst b)).answer = (actions mem).eq a b := by
  show _ = if a = b then some true else _
  by_cases hab : a = b
  · rw [if_pos hab, hab, beq_self_eq_true]
    exact congrArg answer (allEq_here _)
  · rw [if_neg hab, beq_eq_false_iff_ne.mpr hab]
    exact Plan.answer_allEq (answer_eqMeasInfoForActionLst mem) _ _

/-- A report style, at its own address. -/
theorem answer_eqRicReportStyleItem (m0 m1 : RicReportStyleItemAt) :
    (eqRicReportStyleItem mem false m0 m1).answer = (RicReportStyleItemAt.plan mem).eq m0 m1 := by
  simp only [eqRicReportStyleItem, Bool.false_eq_true, if_false, answer_both, answer_next, some_and,
    andThen_assoc, Plan.answer_assert, answer_actions, ← Plan.equal_eq]
  simp only [andThen_if]
  rfl

/-- Arrays of report styles at one address are, too. -/
theorem answer_reports (m0 m1 : RanFunctionDefAt) :
    (allEq (eqRicReportStyleItem mem (m0.ricReportStyleList == m1.ricReportStyleList))
      (m0.reports mem) (m1.reports mem)).answer =
        (reportStyles mem).eq m0.ricReportStyleList m1.ricReportStyleList := by
  show _ = if m0.ricReportStyleList = m1.ricReportStyleList then some true else _
  by_cases heq : m0.ricReportStyleList = m1.ricReportStyleList
  · rw [if_pos heq, heq, beq_self_eq_true, RanFunctionDefAt.reports, RanFunctionDefAt.reports, heq]
    exact congrArg answer (allEq_here _)
  · rw [if_neg heq, beq_eq_false_iff_ne.mpr heq,
      Plan.answer_allEq (answer_eqRicReportStyleItem mem)]
    exact (andThen_true _).symm

/-- **The comparison of two function definitions** is what its plan says. -/
theorem answer_eqKpmRanFunctionDef (m0 m1 : RanFunctionDefAt) :
    (eqKpmRanFunctionDef mem m0 m1).answer = (RanFunctionDefAt.plan mem).eq m0 m1 := by
  have hevents := Plan.nullable_eq RicEventTriggerStyleItem.plan.array m0.ricEventTriggerStyleList
    m1.ricEventTriggerStyleList
  rw [eqKpmRanFunctionDef, answer_both, answer_both, answer_eqRanFunctionName,
    Plan.answer_array (p := RicEventTriggerStyleItem.plan) (fun _ _ => rfl), answer_reports,
    ← hevents]
  rfl

end

/-! ## All of them -/

/-- Two values that are compared. -/
inductive Pair where
  | ueId (m0 m1 : UeId)
  | indMsg (m0 m1 : IndMsg)
  | actDef (m0 m1 : ActDef)
  | ranFunctionDef (mem : Memory) (m0 m1 : RanFunctionDefAt)

namespace Pair

/-- The comparison of the source. -/
def eq : Pair → Outcome Bool
  | ueId m0 m1 => eqUeIdE2sm m0 m1
  | indMsg m0 m1 => eqKpmIndMsg m0 m1
  | actDef m0 m1 => eqKpmActionDef m0 m1
  | ranFunctionDef mem m0 m1 => eqKpmRanFunctionDef mem m0 m1

/-- Equal in every field. -/
def Same : Pair → Prop
  | ueId m0 m1 => m0 = m1
  | indMsg m0 m1 => m0 = m1
  | actDef m0 m1 => m0 = m1
  | ranFunctionDef mem m0 m1 => m0.read mem = m1.read mem

/-- The condition of each: no assertion fails on the way, what is not looked at is the same where
all else is, and what is the same looks so. -/
def Told : Pair → Prop
  | ueId m0 m1 => UeId.plan.Told m0 m1
  | indMsg m0 m1 => IndMsg.plan.Told m0 m1
  | actDef m0 m1 => ActDef.plan.Told m0 m1
  | ranFunctionDef mem m0 m1 => (RanFunctionDefAt.plan mem).Told m0 m1

end Pair

/-- **When the comparisons are right**: there is an answer, and it is whether the two are equal. -/
theorem kpmEq_told (p : Pair) : Decides p.eq.answer p.Same ↔ p.Told := by
  cases p with
  | ueId m0 m1 =>
    rw [Pair.eq, answer_eqUeIdE2sm]
    exact UeId.plan.decides_iff m0 m1
  | indMsg m0 m1 =>
    rw [Pair.eq, answer_eqKpmIndMsg]
    exact IndMsg.plan.decides_iff m0 m1
  | actDef m0 m1 =>
    rw [Pair.eq, answer_eqKpmActionDef]
    exact ActDef.plan.decides_iff m0 m1
  | ranFunctionDef mem m0 m1 =>
    rw [Pair.eq, answer_eqKpmRanFunctionDef]
    exact (RanFunctionDefAt.plan mem).decides_iff m0 m1

/-- Two reports of one measurement, of which one has measured 1 and the other 2. -/
def measuredTwice : Pair :=
  .indMsg (.frm1 ⟨[⟨[.integer 1], none⟩], [], none⟩) (.frm1 ⟨[⟨[.integer 2], none⟩], [], none⟩)

/-- The two messages are found equal, though they were measured differently. -/
theorem kpmEq_measuredTwice : ¬∀ p : Pair, Decides p.eq.answer p.Same := by
  intro h
  obtain ⟨b, hb, hiff⟩ := h measuredTwice
  obtain rfl : true = b := Option.some.inj hb
  have hsame : IndMsg.frm1 ⟨[⟨[.integer 1], none⟩], [], none⟩ =
      .frm1 ⟨[⟨[.integer 2], none⟩], [], none⟩ := hiff.mp rfl
  simp at hsame

end Kpm

end FlexRic
