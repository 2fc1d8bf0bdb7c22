import FlexRic.Lib.Doubles
import FlexRic.Lib.Yields
import FlexRic.Rc.ParamValues

/-!
# FlexRic.Rc.ParamCopies

Which RAN parameters, tests and definitions are copied, compared with themselves and released.

* `Comparable`: no real value is a NaN, and the structures have elements that 16 bits can count.
  `Numbered`: no id is 0.  A value that is both is copied (`yields_cpSeqRanParam`), however deep it
  is.
* The tests and the definitions have predicates of their own for each of the three functions.
-/

namespace FlexRic

namespace Rc

open Outcome

/-! ## Values -/

/-- Not a NaN. -/
def RanParameterValue.Comparable : RanParameterValue → Prop
  | realRan v => v.isNaN = false
  | _ => True

/-- **A value equals itself**, unless it is a real number that is none. -/
theorem yields_eqRanParameterValue (v : RanParameterValue) :
    (eqRanParameterValue v v).Yields v.Comparable true := by
  cases v
  case realRan v =>
    have hself : (v == v) = !v.isNaN := Doubles.beq_self v
    refine ((yields_assert _ _).last fun h => ?_).iff (by simp [RanParameterValue.Comparable])
    rw [Bool.and_self] at h
    rw [hself, h]
  all_goals
    rw [eqRanParameterValue, beq_self_eq_true]
    exact yields_next _

mutual

/-- No NaN, and no structure without elements or with too many. -/
def SeqRanParam.Comparable : SeqRanParam → Prop
  | ⟨_, val⟩ => val.Comparable

def RanParamValType.Comparable : RanParamValType → Prop
  | .flagTrue v => v.Comparable
  | .flagFalse v => v.Comparable
  | .strct s => sized 65536 s = true ∧ AllComparable s
  | .lst l => LstsComparable l

def LstRanParam.Comparable : LstRanParam → Prop
  | ⟨s⟩ => sized 65536 s = true ∧ AllComparable s

def AllComparable : List SeqRanParam → Prop
  | [] => True
  | p :: s => p.Comparable ∧ AllComparable s

def LstsComparable : List LstRanParam → Prop
  | [] => True
  | p :: l => p.Comparable ∧ LstsComparable l

end

mutual

/-- No id is 0. -/
def SeqRanParam.Numbered : SeqRanParam → Prop
  | ⟨id, val⟩ => 0 < id ∧ val.Numbered

def RanParamValType.Numbered : RanParamValType → Prop
  | .flagTrue _ => True
  | .flagFalse _ => True
  | .strct s => AllNumbered s
  | .lst l => LstsNumbered l

def LstRanParam.Numbered : LstRanParam → Prop
  | ⟨s⟩ => AllNumbered s

def AllNumbered : List SeqRanParam → Prop
  | [] => True
  | p :: s => p.Numbered ∧ AllNumbered s

def LstsNumbered : List LstRanParam → Prop
  | [] => True
  | p :: l => p.Numbered ∧ LstsNumbered l

end

/-- A structure is compared with itself where its elements are. -/
theorem yields_eqRanParamStruct {s : List SeqRanParam} {loop : Outcome Bool} {P : Prop}
    (h : loop.Yields P true) : (eqRanParamStruct s s loop).Yields (sized 65536 s = true ∧ P) true := by
  rw [eqRanParamStruct, beq_self_eq_true, both_true, Bool.and_self]
  exact (yields_assert _ _).bind fun _ => h

mutual

/-- A parameter: the values are compared, through all levels. -/
theorem yields_eqSeqRanParam : ∀ p : SeqRanParam, (eqSeqRanParam p p).Yields p.Comparable true
  | ⟨id, val⟩ => by
    rw [eqSeqRanParam, beq_self_eq_true, both_true]
    exact (yields_eqRanParamValType val).must.last fun _ => rfl

/-- A structure has 1 to 65535 parameters; a list asserts nothing of its length. -/
theorem yields_eqRanParamValType : ∀ v : RanParamValType,
    (eqRanParamValType v v).Yields v.Comparable true
  | .flagTrue v => yields_eqRanParameterValue v
  | .flagFalse v => yields_eqRanParameterValue v
  | .strct s => by
    rw [eqRanParamValType]
    exact yields_eqRanParamStruct (yields_eqSeqRanParams s)
  | .lst l => by
    rw [eqRanParamValType, beq_self_eq_true, both_true]
    exact (yields_eqLstRanParams l).must.last fun _ => rfl

theorem yields_eqLstRanParam : ∀ p : LstRanParam, (eqLstRanParam p p).Yields p.Comparable true
  | ⟨s⟩ => by
    rw [eqLstRanParam]
    exact yields_eqRanParamStruct (yields_eqSeqRanParams s)

theorem yields_eqSeqRanParams : ∀ s : List SeqRanParam,
    (eqSeqRanParams s s).Yields (AllComparable s) true
  | [] => yields_next _
  | p :: s => by
    rw [eqSeqRanParams]
    exact (yields_eqSeqRanParam p).both (yields_eqSeqRanParams s)

theorem yields_eqLstRanParams : ∀ l : List LstRanParam,
    (eqLstRanParams l l).Yields (LstsComparable l) true
  | [] => yields_next _
  | p :: l => by
    rw [eqLstRanParams]
    exact (yields_eqLstRanParam p).both (yields_eqLstRanParams l)

end

/-- The end of a copy that is the value. -/
theorem yields_checkedCopy (v : RanParamValType) : (checkedCopy v v).Yields v.Comparable v :=
  (yields_eqRanParamValType v).must.last fun _ => rfl

mutual

/-- **A RAN parameter is copied** where no id in it is 0, and where it is compared with itself. -/
theorem yields_cpSeqRanParam : ∀ p : SeqRanParam,
    (cpSeqRanParam p).Yields (p.Numbered ∧ p.Comparable) p
  | ⟨id, val⟩ => by
    rw [cpSeqRanParam]
    refine ((yields_assert _ _).bind fun _ => (yields_cpRanParamValType val).last
      fun _ => rfl).iff ?_
    rw [decide_eq_true_iff, SeqRanParam.Numbered, SeqRanParam.Comparable, and_assoc]

/-- **A value is copied** where its ids are positive, its structures have 1 to 65535 parameters and
no real number is a NaN: the copy compares itself with what it was made from. -/
theorem yields_cpRanParamValType : ∀ v : RanParamValType,
    (cpRanParamValType v).Yields (v.Numbered ∧ v.Comparable) v
  | .flagTrue v => by
    rw [cpRanParamValType]
    cases v <;> exact (yields_checkedCopy _).iff (and_iff_right trivial).symm
  | .flagFalse v => by
    rw [cpRanParamValType]
    cases v <;> exact (yields_checkedCopy _).iff (and_iff_right trivial).symm
  | .strct s => by
    rw [cpRanParamValType]
    refine ((yields_assert _ _).bind fun _ => (yields_cpSeqRanParams s).bind fun _ =>
      yields_checkedCopy (.strct s)).iff ?_
    rw [RanParamValType.Numbered, RanParamValType.Comparable]
    tauto
  | .lst l => by
    rw [cpRanParamValType]
    refine ((yields_cpLstRanParams l).bind fun _ => yields_checkedCopy (.lst l)).iff ?_
    rw [RanParamValType.Numbered, RanParamValType.Comparable]
    tauto

theorem yields_cpLstRanParam : ∀ p : LstRanParam,
    (cpLstRanParam p).Yields (p.Numbered ∧ p.Comparable) p
  | ⟨s⟩ => by
    rw [cpLstRanParam]
    refine ((yields_assert _ _).bind fun _ => (yields_cpSeqRanParams s).bind fun _ =>
      (yields_eqLstRanParam ⟨s⟩).must.last fun _ => rfl).iff ?_
    rw [LstRanParam.Numbered, LstRanParam.Comparable]
    tauto

/-- Parameter by parameter. -/
theorem yields_cpSeqRanParams : ∀ s : List SeqRanParam,
    (cpSeqRanParams s).Yields (AllNumbered s ∧ AllComparable s) s
  | [] => (yields_next _).iff (iff_of_true trivial ⟨trivial, trivial⟩)
  | p :: s => by
    rw [cpSeqRanParams]
    refine ((yields_cpSeqRanParam p).bind fun _ => (yields_cpSeqRanParams s).last
      fun _ => rfl).iff ?_
    rw [AllNumbered, AllComparable, and_and_and_comm]

theorem yields_cpLstRanParams : ∀ l : List LstRanParam,
    (cpLstRanParams l).Yields (LstsNumbered l ∧ LstsComparable l) l
  | [] => (yields_next _).iff (iff_of_true trivial ⟨trivial, trivial⟩)
  | p :: l => by
    rw [cpLstRanParams]
    refine ((yields_cpLstRanParam p).bind fun _ => (yields_cpLstRanParams l).last
      fun _ => rfl).iff ?_
    rw [LstsNumbered, LstsComparable, and_and_and_comm]

end

/-- What the copy of a parameter wants. -/
def SeqRanParam.Copyable (p : SeqRanParam) : Prop := p.Numbered ∧ p.Comparable

/-! ## Tests -/

/-- The value and the logical or of a test are not copied. -/
theorem RanParamElmKeyFalse.eq_of_bare {m : RanParamElmKeyFalse} (h : m.bare = true) :
    ⟨m.testCond, none, none⟩ = m := by
  obtain ⟨cond, value, logicalOr⟩ := m
  simp only [bare, Bool.and_eq_true, Option.isNone_iff_eq_none] at h
  obtain ⟨rfl, rfl⟩ := h
  rfl

/-- Conditions are compared by kind and value. -/
theorem eqRanParamTestCond_self (c : RanParamTestCond) : eqRanParamTestCond c c = true := by
  cases c <;> exact beq_self_eq_true _

/-- A test with a value is not compared. -/
theorem yields_eqRanParamElmKeyFalse (m : RanParamElmKeyFalse) :
    (eqRanParamElmKeyFalse m m).Yields (m.bare = true) true := by
  rw [eqRanParamElmKeyFalse, eqRanParamTestCond_self, both_true, Bool.and_self]
  exact (yields_assert _ _).last fun _ => rfl

/-- Tests of two types are told apart before anything is compared. -/
theorem yields_sameType {x : Outcome Bool} {P : Prop} (h : x.Yields P true) :
    (sameType x).Yields P true := h.must.last fun _ => rfl

mutual

/-- Ids above 0, arrays of a size, and no values or disjunctions in the tests. -/
def RanParamTest.Copyable : RanParamTest → Prop
  | ⟨id, test⟩ => 0 < id ∧ test.Copyable

def RanParamTestType.Copyable : RanParamTestType → Prop
  | .lst ts => sized 65536 ts = true ∧ TestsCopyable ts
  | .strct ts => sized 65536 ts = true ∧ TestsCopyable ts
  | .flagTrue _ => True
  | .flagFalse v => v.bare = true

def TestsCopyable : List RanParamTest → Prop
  | [] => True
  | t :: ts => t.Copyable ∧ TestsCopyable ts

end

mutual

/-- No NaN, and no values or disjunctions in the tests. -/
def RanParamTest.Comparable : RanParamTest → Prop
  | ⟨_, test⟩ => test.Comparable

def RanParamTestType.Comparable : RanParamTestType → Prop
  | .lst ts => TestsComparable ts
  | .strct ts => TestsComparable ts
  | .flagTrue v => v.Comparable
  | .flagFalse v => v.bare = true

def TestsComparable : List RanParamTest → Prop
  | [] => True
  | t :: ts => t.Comparable ∧ TestsComparable ts

end

mutual

/-- Arrays of a size, and no values or disjunctions in the tests. -/
def RanParamTest.Releasable : RanParamTest → Prop
  | ⟨_, test⟩ => test.Releasable

def RanParamTestType.Releasable : RanParamTestType → Prop
  | .lst ts => sized 65536 ts = true ∧ TestsReleasable ts
  | .strct ts => sized 65536 ts = true ∧ TestsReleasable ts
  | .flagTrue _ => True
  | .flagFalse v => v.bare = true

def TestsReleasable : List RanParamTest → Prop
  | [] => True
  | t :: ts => t.Releasable ∧ TestsReleasable ts

end

mutual

/-- **A test is copied** where it is copyable. -/
theorem yields_cpRanParamTest : ∀ t : RanParamTest, (cpRanParamTest t).Yields t.Copyable t
  | ⟨id, test⟩ => by
    rw [cpRanParamTest]
    refine ((yields_assert _ _).bind fun _ => (yields_cpRanParamTestType test).last
      fun _ => rfl).iff ?_
    rw [decide_eq_true_iff, RanParamTest.Copyable]

/-- **A test is copied**: lists and structures have 1 to 65535 tests each. -/
theorem yields_cpRanParamTestType : ∀ t : RanParamTestType,
    (cpRanParamTestType t).Yields t.Copyable t
  | .lst ts => by
    rw [cpRanParamTestType]
    exact (yields_assert _ _).bind fun _ => (yields_cpRanParamTests ts).last fun _ => rfl
  | .strct ts => by
    rw [cpRanParamTestType]
    exact (yields_assert _ _).bind fun _ => (yields_cpRanParamTests ts).last fun _ => rfl
  | .flagTrue v => by
    rw [cpRanParamTestType]
    cases v <;> exact yields_next _
  | .flagFalse v => by
    rw [cpRanParamTestType, cpRanParamElmKeyFalse]
    have hcopy : (cpRanParamElmKeyFalse v).Yields (v.bare = true) v :=
      (yields_assert _ _).last RanParamElmKeyFalse.eq_of_bare
    exact hcopy.last fun _ => rfl

theorem yields_cpRanParamTests : ∀ ts : List RanParamTest,
    (cpRanParamTests ts).Yields (TestsCopyable ts) ts
  | [] => yields_next _
  | t :: ts => by
    rw [cpRanParamTests]
    exact (yields_cpRanParamTest t).bind fun _ => (yields_cpRanParamTests ts).last fun _ => rfl

end

mutual

/-- **A test is compared with itself** where it is comparable. -/
theorem yields_eqRanParamTest : ∀ t : RanParamTest, (eqRanParamTest t t).Yields t.Comparable true
  | ⟨id, test⟩ => by
    rw [eqRanParamTest, beq_self_eq_true, both_true]
    exact yields_eqRanParamTestType test

/-- The comparison of a list of tests does not ask for their number. -/
theorem yields_eqRanParamTestType : ∀ t : RanParamTestType,
    (eqRanParamTestType t t).Yields t.Comparable true
  | .lst ts => by
    rw [eqRanParamTestType, beq_self_eq_true, both_true]
    exact yields_sameType (yields_eqRanParamTests ts)
  | .strct ts => by
    rw [eqRanParamTestType, beq_self_eq_true, both_true]
    exact yields_sameType (yields_eqRanParamTests ts)
  | .flagTrue v => by
    rw [eqRanParamTestType]
    exact yields_sameType (yields_eqRanParameterValue v)
  | .flagFalse v => by
    rw [eqRanParamTestType]
    exact yields_sameType (yields_eqRanParamElmKeyFalse v)

theorem yields_eqRanParamTests : ∀ ts : List RanParamTest,
    (eqRanParamTests ts ts).Yields (TestsComparable ts) true
  | [] => yields_next _
  | t :: ts => by
    rw [eqRanParamTests]
    exact (yields_eqRanParamTest t).both (yields_eqRanParamTests ts)

end

mutual

/-- **A test is released** where it is releasable. -/
theorem yields_freeRanParamTest : ∀ t : RanParamTest, (freeRanParamTest t).Yields t.Releasable ⟨⟩
  | ⟨id, test⟩ => by
    rw [freeRanParamTest]
    exact yields_freeRanParamTestType test

/-- The release of tests does not look at the ids. -/
theorem yields_freeRanParamTestType : ∀ t : RanParamTestType,
    (freeRanParamTestType t).Yields t.Releasable ⟨⟩
  | .lst ts => by
    rw [freeRanParamTestType]
    exact (yields_assert _ _).bind fun _ => yields_freeRanParamTests ts
  | .strct ts => by
    rw [freeRanParamTestType]
    exact (yields_assert _ _).bind fun _ => yields_freeRanParamTests ts
  | .flagTrue v => by
    rw [freeRanParamTestType]
    exact yields_next _
  | .flagFalse v => by
    rw [freeRanParamTestType]
    exact yields_assert _ _

theorem yields_freeRanParamTests : ∀ ts : List RanParamTest,
    (freeRanParamTests ts).Yields (TestsReleasable ts) ⟨⟩
  | [] => yields_next _
  | t :: ts => by
    rw [freeRanParamTests]
    exact (yields_freeRanParamTest t).bind fun _ => yields_freeRanParamTests ts

end

/-! ## Definitions -/

mutual

/-- No list or structure without parameters. -/
def RanParamDef.Copyable : RanParamDef → Prop
  | .lst ps => 0 < ps.length ∧ DefsCopyable ps
  | .strct ps => 0 < ps.length ∧ DefsCopyable ps

def RanParamLstStruct.Copyable : RanParamLstStruct → Prop
  | ⟨_, _, none⟩ => True
  | ⟨_, _, some defn⟩ => defn.Copyable

def DefsCopyable : List RanParamLstStruct → Prop
  | [] => True
  | p :: ps => p.Copyable ∧ DefsCopyable ps

end

mutual

/-- **A definition is copied**, with all definitions in it. -/
theorem yields_cpRanParamDef : ∀ d : RanParamDef, (cpRanParamDef d).Yields d.Copyable d
  | .lst ps => by
    rw [cpRanParamDef]
    refine ((yields_assert _ _).bind fun _ => (yields_cpRanParamLstStructs ps).last
      fun _ => rfl).iff ?_
    rw [decide_eq_true_iff, RanParamDef.Copyable]
  | .strct ps => by
    rw [cpRanParamDef]
    refine ((yields_assert _ _).bind fun _ => (yields_cpRanParamLstStructs ps).last
      fun _ => rfl).iff ?_
    rw [decide_eq_true_iff, RanParamDef.Copyable]

/-- **A defined parameter is copied** with the definition under it. -/
theorem yields_cpRanParamLstStruct : ∀ p : RanParamLstStruct,
    (cpRanParamLstStruct p).Yields p.Copyable p
  | ⟨id, name, none⟩ => by
    rw [cpRanParamLstStruct]
    exact yields_next _
  | ⟨id, name, some defn⟩ => by
    rw [cpRanParamLstStruct]
    exact (yields_cpRanParamDef defn).last fun _ => rfl

theorem yields_cpRanParamLstStructs : ∀ ps : List RanParamLstStruct,
    (cpRanParamLstStructs ps).Yields (DefsCopyable ps) ps
  | [] => yields_next _
  | p :: ps => by
    rw [cpRanParamLstStructs]
    exact (yields_cpRanParamLstStruct p).bind fun _ =>
      (yields_cpRanParamLstStructs ps).last fun _ => rfl

end

/-- The parameters of a definition. -/
def RanParamDef.params : RanParamDef → List RanParamLstStruct
  | lst ps => ps
  | strct ps => ps

/-- No definition in it. -/
def RanParamDef.Flat (d : RanParamDef) : Prop := ∀ p ∈ d.params, p.ranParamDef = none

/-- A list's structure is compared only where nothing is under it. -/
theorem yields_eqRanParamLstStruct (p : RanParamLstStruct) :
    (eqRanParamLstStruct p p).Yields (p.ranParamDef = none) true := by
  rw [eqRanParamLstStruct, beq_self_eq_true, beq_self_eq_true, Bool.and_self, both_true,
    Bool.and_self]
  exact ((yields_assert _ _).last fun _ => rfl).iff Option.isNone_iff_eq_none

/-- **A definition is compared with itself** where there is none in it. -/
theorem yields_eqRanParamDef (d : RanParamDef) : (eqRanParamDef d d).Yields d.Flat true := by
  cases d
  all_goals
    rw [eqRanParamDef]
    exact yields_allEq_self fun p _ => yields_eqRanParamLstStruct p

/-- **A definition is released** where there is none in it. -/
theorem yields_freeRanParamDef (d : RanParamDef) : (freeRanParamDef d).Yields d.Flat ⟨⟩ := by
  have hparam (p : RanParamLstStruct) :
      (freeRanParamLstStruct p).Yields (p.ranParamDef = none) ⟨⟩ :=
    (yields_assert _ _).iff Option.isNone_iff_eq_none
  cases d
  all_goals
    rw [freeRanParamDef]
    exact yields_each fun p _ => hparam p

/-- An id, a name of a length, and no definition. -/
def SeqRanParam3.Copyable (m : SeqRanParam3) : Prop :=
  0 < m.id ∧ sized 151 m.name = true ∧ m.defn = none

/-- A parameter has an id, a name of 1 to 150 characters, and no definition. -/
theorem yields_cpSeqRanParam3 (m : SeqRanParam3) : (cpSeqRanParam3 m).Yields m.Copyable m := by
  refine ((yields_assert _ _).bind fun _ => (yields_assert _ _).bind fun _ =>
    (yields_assert _ _).last fun h => ?_).iff ?_
  · rw [← Option.isNone_iff_eq_none.mp h]
  · rw [decide_eq_true_iff, Option.isNone_iff_eq_none, SeqRanParam3.Copyable]

/-- What is copied is compared with itself, too, and nothing else is. -/
theorem yields_eqSeqRanParam3 (m : SeqRanParam3) : (eqSeqRanParam3 m m).Yields m.Copyable true := by
  rw [eqSeqRanParam3, beq_self_eq_true, beq_self_eq_true, both_true, both_true, Bool.and_self,
    Bool.and_self, Bool.and_self]
  refine ((yields_assert _ _).bind fun _ => (yields_assert _ _).bind fun _ =>
    (yields_assert _ _).last fun _ => rfl).iff ?_
  rw [decide_eq_true_iff, Option.isNone_iff_eq_none, SeqRanParam3.Copyable]

/-- A name of a length, and no definition in a definition. -/
def SeqRanParam3.Releasable (m : SeqRanParam3) : Prop :=
  sized 151 m.name = true ∧ ∀ d ∈ m.defn, d.Flat

/-- The release of a parameter takes a definition of one level. -/
theorem yields_freeSeqRanParam3 (m : SeqRanParam3) :
    (freeSeqRanParam3 m).Yields m.Releasable ⟨⟩ := by
  obtain ⟨id, name, defn⟩ := m
  refine (yields_assert _ _).bind fun _ => ?_
  cases defn with
  | none => exact (yields_next _).iff (iff_of_true trivial fun _ h => nomatch h)
  | some d => exact (yields_freeRanParamDef d).iff (by simp)

end Rc

end FlexRic
