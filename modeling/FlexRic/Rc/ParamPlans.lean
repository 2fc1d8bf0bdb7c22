import FlexRic.Kpm.KpmPlans
import FlexRic.Rc.ParamValues

/-!
# FlexRic.Rc.ParamPlans

What the comparisons of RAN parameters look at.

* Values and tests are trees: `planAt n` is the plan of trees of at most that depth, put together
  from the plan of their elements, and `plan` chooses the depth of the first tree.
* Trees that differ below their ids have no answer.
* Conditions of tests and definitions of parameters may have no optional field.
-/

namespace FlexRic

namespace Rc

open Outcome Answers

/-! ## Values -/

/-- The kinds of values. -/
def RanParameterValue.kind :
    RanParameterValue → Bool ⊕ Int64 ⊕ Float ⊕ Bytes ⊕ Bytes ⊕ Bytes
  | boolRan v => .inl v
  | intRan v => .inr (.inl v)
  | realRan v => .inr (.inr (.inl v))
  | bitStrRan v => .inr (.inr (.inr (.inl v)))
  | octetStrRan v => .inr (.inr (.inr (.inr (.inl v))))
  | printableStrRan v => .inr (.inr (.inr (.inr (.inr v))))

/-- The kind of a value has the value in it. -/
theorem RanParameterValue.kind_inj {m0 m1 : RanParameterValue} : m0.kind = m1.kind ↔ m0 = m1 := by
  cases m0 <;> cases m1 <;> simp [kind]

/-- `eq_ran_parameter_value`. -/
def RanParameterValue.plan : Plan fun m0 m1 : RanParameterValue => m0 = m1 :=
  ((Plan.equal.kinds <| Plan.equal.kinds <| (Kpm.real.given fun v => !v.isNaN).kinds <|
    Plan.equal.kinds <| Plan.equal.kinds .equal).on kind).congr fun _ _ => kind_inj

/-- Values are compared as their plan says. -/
theorem answer_eqRanParameterValue (m0 m1 : RanParameterValue) :
    (eqRanParameterValue m0 m1).answer = RanParameterValue.plan.eq m0 m1 := by
  cases m0 <;> cases m1
  case realRan.realRan v0 v1 =>
    rw [eqRanParameterValue, Plan.answer_assert, andThen_if]
    rfl
  case bitStrRan.bitStrRan => exact (Plan.equal_eq _ _).symm
  case octetStrRan.octetStrRan => exact (Plan.equal_eq _ _).symm
  case printableStrRan.printableStrRan => exact (Plan.equal_eq _ _).symm
  all_goals rfl

mutual

/-- How deep a value goes. -/
def SeqRanParam.depth : SeqRanParam → Nat
  | ⟨_, val⟩ => val.depth + 1

def RanParamValType.depth : RanParamValType → Nat
  | .flagTrue _ => 0
  | .flagFalse _ => 0
  | .strct s => seqDepth s
  | .lst l => lstDepth l

def LstRanParam.depth : LstRanParam → Nat
  | ⟨s⟩ => seqDepth s

def seqDepth : List SeqRanParam → Nat
  | [] => 0
  | p :: s => max p.depth (seqDepth s)

def lstDepth : List LstRanParam → Nat
  | [] => 0
  | p :: l => max p.depth (lstDepth l)

end

/-- A parameter is no deeper than the array it stands in. -/
theorem depth_le_seqDepth {s : List SeqRanParam} {p : SeqRanParam} (h : p ∈ s) :
    p.depth ≤ seqDepth s := by
  induction h with
  | head s => exact Nat.le_max_left _ _
  | tail q _ ih => exact ih.trans (Nat.le_max_right _ _)

/-- An element of a list is no deeper than the list, so that both recursions go down. -/
theorem depth_le_lstDepth {l : List LstRanParam} {p : LstRanParam} (h : p ∈ l) :
    p.depth ≤ lstDepth l := by
  induction h with
  | head s => exact Nat.le_max_left _ _
  | tail q _ ih => exact ih.trans (Nat.le_max_right _ _)

section

variable (p : Plan fun m0 m1 : SeqRanParam => m0 = m1)

/-- `eq_ran_param_struct`, from the comparison of the elements. -/
def structPlan : Plan fun s0 s1 : List SeqRanParam => s0 = s1 :=
  ((Plan.equal.on List.length).both <| Plan.given (sized 65536) p.array).congr fun _ _ =>
    and_iff_right_of_imp fun h => congrArg List.length h

/-- `eq_lst_ran_param`. -/
def LstRanParam.planOf : Plan fun m0 m1 : LstRanParam => m0 = m1 :=
  ((structPlan p).on ranParamStruct).congr fun m0 m1 => by cases m0; cases m1; simp

/-- The kinds of values under an id. -/
def RanParamValType.kind : RanParamValType →
    RanParameterValue ⊕ RanParameterValue ⊕ List SeqRanParam ⊕ List LstRanParam
  | flagTrue v => .inl v
  | flagFalse v => .inr (.inl v)
  | strct s => .inr (.inr (.inl s))
  | lst l => .inr (.inr (.inr l))

theorem RanParamValType.kind_inj {m0 m1 : RanParamValType} : m0.kind = m1.kind ↔ m0 = m1 := by
  cases m0 <;> cases m1 <;> simp [kind]

/-- `eq_ran_param_val_type`. -/
def RanParamValType.planOf : Plan fun m0 m1 : RanParamValType => m0 = m1 :=
  ((RanParameterValue.plan.kinds <| RanParameterValue.plan.kinds <| (structPlan p).kinds
    (LstRanParam.planOf p).arrayMust).on kind).congr fun _ _ => kind_inj

/-- `eq_seq_ran_param`. -/
def SeqRanParam.planOf : Plan fun m0 m1 : SeqRanParam => m0 = m1 :=
  ((Plan.equal.on ranParamId).both <| (RanParamValType.planOf p).insist.on ranParamVal).congr
    fun m0 m1 => by cases m0; cases m1; simp

end

/-- Values of at most a depth. -/
def SeqRanParam.planAt : Nat → Plan fun m0 m1 : SeqRanParam => m0 = m1
  | 0 => .never _
  | n + 1 => planOf (planAt n)

/-- `eq_seq_ran_param`. -/
def SeqRanParam.plan : Plan fun m0 m1 : SeqRanParam => m0 = m1 := Plan.choose depth planAt

/-- `eq_ran_param_val_type`. -/
def RanParamValType.plan : Plan fun m0 m1 : RanParamValType => m0 = m1 :=
  Plan.choose depth fun n => planOf (SeqRanParam.planAt n)

section

variable {p : Plan fun m0 m1 : SeqRanParam => m0 = m1}

/-- A structure is compared in order, once its elements are. -/
theorem answer_eqRanParamStruct {s0 s1 : List SeqRanParam}
    (h : ∀ x ∈ s0, ∀ y, (eqSeqRanParam x y).answer = p.eq x y) :
    (eqRanParamStruct s0 s1 (eqSeqRanParams s0 s1)).answer = (structPlan p).eq s0 s1 := by
  have harray : (allEq eqSeqRanParam s0 s1).answer = p.array.eq s0 s1 := Plan.answer_allEq_mem h
  rw [eqRanParamStruct, answer_both, answer_next, eqSeqRanParams_eq, Plan.answer_assert, andThen_if]
  show _ = andThen (some (decide (s0.length = s1.length))) (if _ then p.array.eq s0 s1 else none)
  by_cases hlen : s0.length = s1.length
  · rw [allEq, if_pos hlen] at harray
    rw [decide_eq_true hlen, beq_iff_eq.mpr hlen, harray]
  · rw [decide_eq_false hlen, beq_eq_false_iff_ne.mpr hlen]
    rfl

theorem answer_eqLstRanParam {m0 m1 : LstRanParam}
    (h : ∀ x ∈ m0.ranParamStruct, ∀ y, (eqSeqRanParam x y).answer = p.eq x y) :
    (eqLstRanParam m0 m1).answer = (LstRanParam.planOf p).eq m0 m1 := by
  obtain ⟨s0⟩ := m0
  obtain ⟨s1⟩ := m1
  rw [eqLstRanParam]
  exact answer_eqRanParamStruct h

/-- A comparison of two values whose elements are compared like that. -/
theorem answer_eqRanParamValType_of {n : Nat} {m0 m1 : RanParamValType} (hn : m0.depth ≤ n)
    (h : ∀ x : SeqRanParam, x.depth ≤ n → ∀ y, (eqSeqRanParam x y).answer = p.eq x y) :
    (eqRanParamValType m0 m1).answer = (RanParamValType.planOf p).eq m0 m1 := by
  cases m0 <;> cases m1
  case flagTrue.flagTrue v0 v1 => exact answer_eqRanParameterValue v0 v1
  case flagFalse.flagFalse v0 v1 => exact answer_eqRanParameterValue v0 v1
  case strct.strct s0 s1 =>
    rw [eqRanParamValType]
    exact answer_eqRanParamStruct fun x hx => h x ((depth_le_seqDepth hx).trans hn)
  case lst.lst l0 l1 =>
    rw [eqRanParamValType, eqLstRanParams_eq]
    refine Plan.answer_allEqMust_mem fun x hs y => ?_
    obtain ⟨s⟩ := x
    refine answer_eqLstRanParam fun z hz => h z ?_
    have hdepth := depth_le_lstDepth hs
    rw [LstRanParam.depth] at hdepth
    exact (depth_le_seqDepth hz).trans (hdepth.trans hn)
  all_goals rfl

end

/-- The comparison of values of at most a depth. -/
theorem answer_eqSeqRanParam_of {n : Nat} {m0 m1 : SeqRanParam} (hn : m0.depth ≤ n) :
    (eqSeqRanParam m0 m1).answer = (SeqRanParam.planAt n).eq m0 m1 := by
  obtain ⟨id0, val0⟩ := m0
  obtain ⟨id1, val1⟩ := m1
  rw [SeqRanParam.depth] at hn
  induction n generalizing id0 val0 id1 val1 with
  | zero => exact absurd hn (Nat.not_succ_le_zero _)
  | succ n ih =>
    have hval : (eqRanParamValType val0 val1).answer =
        (RanParamValType.planOf (SeqRanParam.planAt n)).eq val0 val1 :=
      answer_eqRanParamValType_of (Nat.le_of_succ_le_succ hn) fun x hx y => by
        obtain ⟨id0, val0⟩ := x
        obtain ⟨id1, val1⟩ := y
        exact ih id0 val0 hx id1 val1
    rw [eqSeqRanParam, answer_both, answer_next, Plan.answer_must hval, answer_pure, andThen_true,
      ← Plan.equal_eq]
    rfl

/-- **The comparison of two RAN parameters** is what its plan says, however deep they are. -/
theorem answer_eqSeqRanParam (m0 m1 : SeqRanParam) :
    (eqSeqRanParam m0 m1).answer = SeqRanParam.plan.eq m0 m1 := by
  rw [SeqRanParam.plan, Plan.choose_eq]
  exact answer_eqSeqRanParam_of le_rfl

/-- **The comparison of two values is their plan's**, through all levels. -/
theorem answer_eqRanParamValType (m0 m1 : RanParamValType) :
    (eqRanParamValType m0 m1).answer = RanParamValType.plan.eq m0 m1 := by
  rw [RanParamValType.plan, Plan.choose_eq]
  exact answer_eqRanParamValType_of le_rfl fun _ hx _ => answer_eqSeqRanParam_of hx

/-! ## Tests -/

/-- Two conditions are equal in kind and value. -/
theorem eqRanParamTestCond_iff {m0 m1 : RanParamTestCond} :
    eqRanParamTestCond m0 m1 = true ↔ m0 = m1 := by
  cases m0 <;> cases m1 <;> simp [eqRanParamTestCond]

/-- The optional fields. -/
def RanParamElmKeyFalse.extras (m : RanParamElmKeyFalse) := (m.value, m.logicalOr)

/-- What is not implemented is absent. -/
theorem RanParamElmKeyFalse.extras_of_bare {m : RanParamElmKeyFalse} (h : m.bare = true) :
    m.extras = (none, none) := by
  simp only [bare, Bool.and_eq_true, Option.isNone_iff_eq_none] at h
  simp only [extras, h]

/-- `eq_ran_param_elm_key_false`. -/
def RanParamElmKeyFalse.plan : Plan fun m0 m1 : RanParamElmKeyFalse => m0 = m1 :=
  (((Plan.ofBool eqRanParamTestCond fun _ _ => eqRanParamTestCond_iff).on testCond).both <|
    Plan.bare bare extras fun _ => extras_of_bare).congr
    fun m0 m1 => by cases m0; cases m1; simp [extras]

theorem answer_eqRanParamElmKeyFalse (m0 m1 : RanParamElmKeyFalse) :
    (eqRanParamElmKeyFalse m0 m1).answer = RanParamElmKeyFalse.plan.eq m0 m1 := by
  rw [eqRanParamElmKeyFalse, answer_both, Plan.answer_assert, answer_pure, andThen_true]
  rfl

mutual

/-- How deep a test goes. -/
def RanParamTest.depth : RanParamTest → Nat
  | ⟨_, test⟩ => test.depth + 1

def RanParamTestType.depth : RanParamTestType → Nat
  | .lst ts => testDepth ts
  | .strct ts => testDepth ts
  | .flagTrue _ => 0
  | .flagFalse _ => 0

def testDepth : List RanParamTest → Nat
  | [] => 0
  | t :: ts => max t.depth (testDepth ts)

end

/-- A test is no deeper than the array it stands in. -/
theorem depth_le_testDepth {ts : List RanParamTest} {t : RanParamTest} (h : t ∈ ts) :
    t.depth ≤ testDepth ts := by
  induction h with
  | head ts => exact Nat.le_max_left _ _
  | tail u _ ih => exact ih.trans (Nat.le_max_right _ _)

section

variable (p : Plan fun m0 m1 : RanParamTest => m0 = m1)

/-- The kinds of tests. -/
def RanParamTestType.kind : RanParamTestType →
    List RanParamTest ⊕ List RanParamTest ⊕ RanParameterValue ⊕ RanParamElmKeyFalse
  | lst ts => .inl ts
  | strct ts => .inr (.inl ts)
  | flagTrue v => .inr (.inr (.inl v))
  | flagFalse v => .inr (.inr (.inr v))

theorem RanParamTestType.kind_inj {m0 m1 : RanParamTestType} : m0.kind = m1.kind ↔ m0 = m1 := by
  cases m0 <;> cases m1 <;> simp [kind]

/-- The union of `eq_ran_param_test`, from the comparison of the tests in it. -/
def RanParamTestType.planOf : Plan fun m0 m1 : RanParamTestType => m0 = m1 :=
  ((p.array.insist.kinds <| p.array.insist.kinds <| RanParameterValue.plan.insist.kinds
    RanParamElmKeyFalse.plan.insist).on kind).congr fun _ _ => kind_inj

/-- `eq_ran_param_test`. -/
def RanParamTest.planOf : Plan fun m0 m1 : RanParamTest => m0 = m1 :=
  ((Plan.equal.on ranParamId).both <| (RanParamTestType.planOf p).on test).congr
    fun m0 m1 => by cases m0; cases m1; simp

end

/-- Tests of at most a depth. -/
def RanParamTest.planAt : Nat → Plan fun m0 m1 : RanParamTest => m0 = m1
  | 0 => .never _
  | n + 1 => planOf (planAt n)

/-- `eq_ran_param_test`. -/
def RanParamTest.plan : Plan fun m0 m1 : RanParamTest => m0 = m1 := Plan.choose depth planAt

theorem answer_sameType {α : Type} {R : α → α → Prop} {p : Plan R} {a b : α} {x : Outcome Bool}
    (h : x.answer = p.eq a b) : (sameType x).answer = p.insist.eq a b := by
  rw [sameType, Plan.answer_must h, answer_pure, andThen_true]

/-- One level of a test, given the plan of the levels below. -/
theorem answer_eqRanParamTestType_of {p : Plan fun m0 m1 : RanParamTest => m0 = m1} {n : Nat}
    {m0 m1 : RanParamTestType} (hn : m0.depth ≤ n)
    (h : ∀ x : RanParamTest, x.depth ≤ n → ∀ y, (eqRanParamTest x y).answer = p.eq x y) :
    (eqRanParamTestType m0 m1).answer = (RanParamTestType.planOf p).eq m0 m1 := by
  have hloop {ts0 ts1 : List RanParamTest} (hts : testDepth ts0 ≤ n) :
      (both (.next (ts0.length == ts1.length)) (eqRanParamTests ts0 ts1)).answer =
        p.array.eq ts0 ts1 := by
    rw [eqRanParamTests_eq, both_length]
    exact Plan.answer_allEq_mem fun x hx => h x ((depth_le_testDepth hx).trans hts)
  cases m0 <;> cases m1
  case lst.lst ts0 ts1 =>
    rw [eqRanParamTestType]
    exact answer_sameType (hloop hn)
  case strct.strct ts0 ts1 =>
    rw [eqRanParamTestType]
    exact answer_sameType (hloop hn)
  case flagTrue.flagTrue v0 v1 =>
    rw [eqRanParamTestType]
    exact answer_sameType (answer_eqRanParameterValue v0 v1)
  case flagFalse.flagFalse v0 v1 =>
    rw [eqRanParamTestType]
    exact answer_sameType (answer_eqRanParamElmKeyFalse v0 v1)
  all_goals rfl

/-- **The comparison of two tests is their plan's**, by induction on the depth. -/
theorem answer_eqRanParamTest_of {n : Nat} {m0 m1 : RanParamTest} (hn : m0.depth ≤ n) :
    (eqRanParamTest m0 m1).answer = (RanParamTest.planAt n).eq m0 m1 := by
  obtain ⟨id0, test0⟩ := m0
  obtain ⟨id1, test1⟩ := m1
  rw [RanParamTest.depth] at hn
  induction n generalizing id0 test0 id1 test1 with
  | zero => exact absurd hn (Nat.not_succ_le_zero _)
  | succ n ih =>
    have htest : (eqRanParamTestType test0 test1).answer =
        (RanParamTestType.planOf (RanParamTest.planAt n)).eq test0 test1 :=
      answer_eqRanParamTestType_of (Nat.le_of_succ_le_succ hn) fun x hx y => by
        obtain ⟨id0, test0⟩ := x
        obtain ⟨id1, test1⟩ := y
        exact ih id0 test0 hx id1 test1
    rw [eqRanParamTest, answer_both, answer_next, htest, ← Plan.equal_eq]
    rfl

/-- **The comparison of two tests** is what its plan says, however deep they are. -/
theorem answer_eqRanParamTest (m0 m1 : RanParamTest) :
    (eqRanParamTest m0 m1).answer = RanParamTest.plan.eq m0 m1 := by
  rw [RanParamTest.plan, Plan.choose_eq]
  exact answer_eqRanParamTest_of le_rfl

/-- `eq_ran_param_cond_crit_def`. -/
theorem answer_eqRanParamCondCritDef (m0 m1 : List RanParamTest) :
    (eqRanParamCondCritDef m0 m1).answer = RanParamTest.plan.array.eq m0 m1 :=
  Plan.answer_array answer_eqRanParamTest m0 m1

/-! ## Definitions -/

/-- `eq_ran_param_lst_struct`. -/
def RanParamLstStruct.plan : Plan fun m0 m1 : RanParamLstStruct => m0 = m1 :=
  ((Plan.equal.on ranParamId).both <| (Plan.equal.on ranParamName).both <|
    Plan.absent.on ranParamDef).congr fun m0 m1 => by cases m0; cases m1; simp

/-- Definitions below the first level are asserted absent. -/
theorem answer_eqRanParamLstStruct (m0 m1 : RanParamLstStruct) :
    (eqRanParamLstStruct m0 m1).answer = RanParamLstStruct.plan.eq m0 m1 := by
  simp only [eqRanParamLstStruct, answer_both, answer_next, some_and, andThen_assoc,
    Plan.answer_assert, answer_pure, andThen_true, ← Plan.equal_eq]
  rfl

/-- The kinds of definitions. -/
def RanParamDef.kind : RanParamDef → List RanParamLstStruct ⊕ List RanParamLstStruct
  | lst ps => .inl ps
  | strct ps => .inr ps

theorem RanParamDef.kind_inj {m0 m1 : RanParamDef} : m0.kind = m1.kind ↔ m0 = m1 := by
  cases m0 <;> cases m1 <;> simp [kind]

/-- `eq_ran_param_def`. -/
def RanParamDef.plan : Plan fun m0 m1 : RanParamDef => m0 = m1 :=
  ((RanParamLstStruct.plan.array.kinds RanParamLstStruct.plan.array).on kind).congr
    fun _ _ => kind_inj

/-- **The comparison of two definitions is their plan's.** -/
theorem answer_eqRanParamDef (m0 m1 : RanParamDef) :
    (eqRanParamDef m0 m1).answer = RanParamDef.plan.eq m0 m1 := by
  cases m0 <;> cases m1
  case lst.lst ps0 ps1 => exact Plan.answer_array answer_eqRanParamLstStruct ps0 ps1
  case strct.strct ps0 ps1 => exact Plan.answer_array answer_eqRanParamLstStruct ps0 ps1
  all_goals rfl

/-- `eq_seq_ran_param_3`. -/
def SeqRanParam3.plan : Plan fun m0 m1 : SeqRanParam3 => m0 = m1 :=
  (Plan.given (fun m => decide (0 < m.id)) <| (Plan.equal.on id).both <|
    Plan.given (fun m => sized 151 m.name) <| (Plan.equal.on name).both <|
    Plan.absent.on defn).congr fun m0 m1 => by cases m0; cases m1; simp

/-- The name, the id and the definition. -/
theorem answer_eqSeqRanParam3 (m0 m1 : SeqRanParam3) :
    (eqSeqRanParam3 m0 m1).answer = SeqRanParam3.plan.eq m0 m1 := by
  simp only [eqSeqRanParam3, answer_both, answer_next, Plan.answer_assert, andThen_if, answer_pure,
    andThen_true, ← Plan.equal_eq]
  rfl

end Rc

end FlexRic
