import FlexRic.Lib.Compare
import FlexRic.Rc.RcTypes

/-!
# FlexRic.Rc.ParamValues

The copies, comparisons and releases of RAN parameters (`sm/rc_sm/ie/ir`).

* The values and the tests of parameters are trees, and the functions call themselves over their
  arrays.  Values that differ are asserted away: `eq_seq_ran_param`, `eq_ran_param_test` and
  `eq_ran_param_list` assert what their parts answer.
* The copy of a value is compared with it (`cp_ran_param_val_type`, `cp_lst_ran_param`).
* The copy of a definition takes definitions in definitions along; they are neither compared nor
  released.  `cp_seq_ran_param_3` copies no definition, and `free_seq_ran_param_3` releases one.
-/

namespace FlexRic

namespace Rc

open Outcome

/-- Of a length above 0 and below `n`. -/
def sized {α : Type} (n : Nat) (xs : List α) : Bool := decide (0 < xs.length) && decide (xs.length < n)

/-! ## Values -/

/-- `eq_ran_parameter_value`. -/
def eqRanParameterValue : RanParameterValue → RanParameterValue → Outcome Bool
  | .boolRan v0, .boolRan v1 => return v0 == v1
  | .intRan v0, .intRan v1 => return v0 == v1
  | .realRan v0, .realRan v1 => do
    assert (!v0.isNaN && !v1.isNaN) "!isnan(m0->real_ran)"
    return v0 == v1
  | .bitStrRan v0, .bitStrRan v1 => return v0 == v1
  | .octetStrRan v0, .octetStrRan v1 => return v0 == v1
  | .printableStrRan v0, .printableStrRan v1 => return v0 == v1
  | _, _ => return false

/-- `cp_ran_parameter_value`. -/
def cpRanParameterValue : RanParameterValue → RanParameterValue
  | .boolRan v => .boolRan v
  | .intRan v => .intRan v
  | .realRan v => .realRan v
  | .bitStrRan v => .bitStrRan v
  | .octetStrRan v => .octetStrRan v
  | .printableStrRan v => .printableStrRan v

/-- `eq_ran_param_struct`, whose loop is `loop`. -/
def eqRanParamStruct (s0 s1 : List SeqRanParam) (loop : Outcome Bool) : Outcome Bool :=
  both (.next (s0.length == s1.length)) do
    assert (sized 65536 s0 && sized 65536 s1)
      "m0->sz_ran_param_struct > 0 && m0->sz_ran_param_struct < 65536"
    loop

mutual

/-- `eq_seq_ran_param`. -/
def eqSeqRanParam : SeqRanParam → SeqRanParam → Outcome Bool
  | ⟨id0, val0⟩, ⟨id1, val1⟩ =>
    both (.next (id0 == id1)) do
      must (eqRanParamValType val0 val1)
      return true
termination_by structural x => x

/-- `eq_ran_param_val_type`. -/
def eqRanParamValType : RanParamValType → RanParamValType → Outcome Bool
  | .flagTrue v0, .flagTrue v1 => eqRanParameterValue v0 v1
  | .flagFalse v0, .flagFalse v1 => eqRanParameterValue v0 v1
  | .strct s0, .strct s1 => eqRanParamStruct s0 s1 (eqSeqRanParams s0 s1)
  | .lst l0, .lst l1 => both (.next (l0.length == l1.length)) do
    must (eqLstRanParams l0 l1)
    return true
  | _, _ => return false
termination_by structural x => x

/-- `eq_lst_ran_param`. -/
def eqLstRanParam : LstRanParam → LstRanParam → Outcome Bool
  | ⟨s0⟩, ⟨s1⟩ => eqRanParamStruct s0 s1 (eqSeqRanParams s0 s1)
termination_by structural x => x

/-- The loop of `eq_ran_param_struct`. -/
def eqSeqRanParams : List SeqRanParam → List SeqRanParam → Outcome Bool
  | [], _ => return true
  | p0 :: s0, p1 :: s1 => both (eqSeqRanParam p0 p1) (eqSeqRanParams s0 s1)
  | _ :: _, [] => .abort "read behind the array"
termination_by structural x => x

/-- The loop of `eq_ran_param_list`. -/
def eqLstRanParams : List LstRanParam → List LstRanParam → Outcome Bool
  | [], _ => return true
  | p0 :: l0, p1 :: l1 => both (eqLstRanParam p0 p1) (eqLstRanParams l0 l1)
  | _ :: _, [] => .abort "read behind the array"
termination_by structural x => x

end

/-- The end of `cp_ran_param_val_type`: the copy is compared with the source. -/
def checkedCopy (src dst : RanParamValType) : Outcome RanParamValType := do
  must (eqRanParamValType dst src)
  return dst

mutual

/-- `cp_seq_ran_param`. -/
def cpSeqRanParam : SeqRanParam → Outcome SeqRanParam
  | ⟨id, val⟩ => do
    assert (0 < id) "src->ran_param_id > 0"
    let val ← cpRanParamValType val
    return ⟨id, val⟩

/-- `cp_ran_param_val_type`. -/
def cpRanParamValType : RanParamValType → Outcome RanParamValType
  | .flagTrue v => checkedCopy (.flagTrue v) (.flagTrue (cpRanParameterValue v))
  | .flagFalse v => checkedCopy (.flagFalse v) (.flagFalse (cpRanParameterValue v))
  | .strct s => do
    assert (sized 65536 s) "src->sz_ran_param_struct > 0 && src->sz_ran_param_struct < 65536"
    let dst ← cpSeqRanParams s
    checkedCopy (.strct s) (.strct dst)
  | .lst l => do
    let dst ← cpLstRanParams l
    checkedCopy (.lst l) (.lst dst)

/-- `cp_lst_ran_param`, which compares its copy, too. -/
def cpLstRanParam : LstRanParam → Outcome LstRanParam
  | ⟨s⟩ => do
    assert (sized 65536 s) "src->sz_ran_param_struct > 0 && src->sz_ran_param_struct < 65536"
    let dst ← cpSeqRanParams s
    must (eqLstRanParam ⟨dst⟩ ⟨s⟩)
    return ⟨dst⟩

/-- The loop of `cp_ran_param_struct`. -/
def cpSeqRanParams : List SeqRanParam → Outcome (List SeqRanParam)
  | [] => return []
  | p :: s => do
    let p ← cpSeqRanParam p
    let s ← cpSeqRanParams s
    return p :: s

/-- The loop of `cp_ran_param_list`. -/
def cpLstRanParams : List LstRanParam → Outcome (List LstRanParam)
  | [] => return []
  | p :: l => do
    let p ← cpLstRanParam p
    let l ← cpLstRanParams l
    return p :: l

end

theorem eqSeqRanParams_eq (s0 s1 : List SeqRanParam) :
    eqSeqRanParams s0 s1 = allEqUpTo eqSeqRanParam s0 s1 := by
  induction s0 generalizing s1 with
  | nil => rfl
  | cons p0 s0 ih =>
    cases s1 with
    | nil => rfl
    | cons p1 s1 => rw [eqSeqRanParams, ih, allEqUpTo]

theorem eqLstRanParams_eq (l0 l1 : List LstRanParam) :
    eqLstRanParams l0 l1 = allEqUpTo eqLstRanParam l0 l1 := by
  induction l0 generalizing l1 with
  | nil => rfl
  | cons p0 l0 ih =>
    cases l1 with
    | nil => rfl
    | cons p1 l1 => rw [eqLstRanParams, ih, allEqUpTo]

/-! ## Tests -/

/-- `eq_ran_param_test_cond`. -/
def eqRanParamTestCond : RanParamTestCond → RanParamTestCond → Bool
  | .comparison c0, .comparison c1 => c0 == c1
  | .presence p0, .presence p1 => p0 == p1
  | _, _ => false

/-- No value and no disjunction. -/
def RanParamElmKeyFalse.bare (m : RanParamElmKeyFalse) : Bool :=
  m.value.isNone && m.logicalOr.isNone

/-- `eq_ran_param_elm_key_false`. -/
def eqRanParamElmKeyFalse (m0 m1 : RanParamElmKeyFalse) : Outcome Bool :=
  both (.next (eqRanParamTestCond m0.testCond m1.testCond)) do
    assert (m0.bare && m1.bare) "Not implemented"
    return true

/-- `cp_ran_param_elm_key_false`. -/
def cpRanParamElmKeyFalse (src : RanParamElmKeyFalse) : Outcome RanParamElmKeyFalse := do
  assert src.bare "Not implemented"
  return ⟨src.testCond, none, none⟩

/-- `free_ran_param_elm_key_false`. -/
def freeRanParamElmKeyFalse (src : RanParamElmKeyFalse) : Outcome PUnit.{1} :=
  assert src.bare "Not implemented"

/-- An answer of `eq_ran_param_test` to two values of one type. -/
def sameType (x : Outcome Bool) : Outcome Bool := do
  must x
  return true

mutual

/-- `eq_ran_param_test`. -/
def eqRanParamTest : RanParamTest → RanParamTest → Outcome Bool
  | ⟨id0, test0⟩, ⟨id1, test1⟩ =>
    both (.next (id0 == id1)) (eqRanParamTestType test0 test1)

/-- The union of `eq_ran_param_test`, with `eq_ran_param_test_lst` and
`eq_ran_param_test_strct`. -/
def eqRanParamTestType : RanParamTestType → RanParamTestType → Outcome Bool
  | .lst ts0, .lst ts1 =>
    sameType (both (.next (ts0.length == ts1.length)) (eqRanParamTests ts0 ts1))
  | .strct ts0, .strct ts1 =>
    sameType (both (.next (ts0.length == ts1.length)) (eqRanParamTests ts0 ts1))
  | .flagTrue v0, .flagTrue v1 => sameType (eqRanParameterValue v0 v1)
  | .flagFalse v0, .flagFalse v1 => sameType (eqRanParamElmKeyFalse v0 v1)
  | _, _ => return false

/-- The loop over the tests of a list or a structure. -/
def eqRanParamTests : List RanParamTest → List RanParamTest → Outcome Bool
  | [], _ => return true
  | t0 :: ts0, t1 :: ts1 => both (eqRanParamTest t0 t1) (eqRanParamTests ts0 ts1)
  | _ :: _, [] => .abort "read behind the array"

end

mutual

/-- `cp_ran_param_test`. -/
def cpRanParamTest : RanParamTest → Outcome RanParamTest
  | ⟨id, test⟩ => do
    assert (0 < id) "src->ran_param_id > 0"
    let test ← cpRanParamTestType test
    return ⟨id, test⟩

/-- The union of `cp_ran_param_test`, with `cp_ran_param_test_lst` and
`cp_ran_param_test_strct`. -/
def cpRanParamTestType : RanParamTestType → Outcome RanParamTestType
  | .lst ts => do
    assert (sized 65536 ts) "src->sz_lst > 0 && src->sz_lst < 65536"
    let ts ← cpRanParamTests ts
    return .lst ts
  | .strct ts => do
    assert (sized 65536 ts) "src->sz_strct > 0 && src->sz_strct < 65536"
    let ts ← cpRanParamTests ts
    return .strct ts
  | .flagTrue v => return .flagTrue (cpRanParameterValue v)
  | .flagFalse v => do
    let v ← cpRanParamElmKeyFalse v
    return .flagFalse v

/-- The loop over the tests of a list or a structure. -/
def cpRanParamTests : List RanParamTest → Outcome (List RanParamTest)
  | [] => return []
  | t :: ts => do
    let t ← cpRanParamTest t
    let ts ← cpRanParamTests ts
    return t :: ts

end

mutual

/-- `free_ran_param_test`. -/
def freeRanParamTest : RanParamTest → Outcome PUnit.{1}
  | ⟨_, test⟩ => freeRanParamTestType test

/-- The union of `free_ran_param_test`, with `free_ran_param_test_lst` and
`free_ran_param_test_strct`. -/
def freeRanParamTestType : RanParamTestType → Outcome PUnit.{1}
  | .lst ts => do
    assert (sized 65536 ts) "src->sz_lst > 0 && src->sz_lst < 65535+1"
    freeRanParamTests ts
  | .strct ts => do
    assert (sized 65536 ts) "src->sz_strct > 0 && src->sz_strct < 65535+1"
    freeRanParamTests ts
  | .flagTrue _ => return ⟨⟩
  | .flagFalse v => freeRanParamElmKeyFalse v

/-- The loop over the tests of a list or a structure. -/
def freeRanParamTests : List RanParamTest → Outcome PUnit.{1}
  | [] => return ⟨⟩
  | t :: ts => do
    freeRanParamTest t
    freeRanParamTests ts

end

theorem eqRanParamTests_eq (ts0 ts1 : List RanParamTest) :
    eqRanParamTests ts0 ts1 = allEqUpTo eqRanParamTest ts0 ts1 := by
  induction ts0 generalizing ts1 with
  | nil => rfl
  | cons t0 ts0 ih =>
    cases ts1 with
    | nil => rfl
    | cons t1 ts1 => rw [eqRanParamTests, ih, allEqUpTo]

/-- `eq_ran_param_cond_crit_def`. -/
def eqRanParamCondCritDef (m0 m1 : List RanParamTest) : Outcome Bool := allEq eqRanParamTest m0 m1

/-- `cp_ran_param_cond_crit_def`. -/
def cpRanParamCondCritDef (src : List RanParamTest) : Outcome (List RanParamTest) := do
  assert (sized 256 src) "src->sz_ran_param_test > 0 && src->sz_ran_param_test < 256"
  walk cpRanParamTest src

/-- `free_ran_param_cond_crit_def`. -/
def freeRanParamCondCritDef (src : List RanParamTest) : Outcome PUnit.{1} := do
  assert (sized 256 src) "src->sz_ran_param_test > 0 && src->sz_ran_param_test < 256"
  each freeRanParamTest src

/-! ## Definitions -/

/-- `eq_ran_param_lst_struct`. -/
def eqRanParamLstStruct (m0 m1 : RanParamLstStruct) : Outcome Bool :=
  both (.next (m0.ranParamId == m1.ranParamId && m0.ranParamName == m1.ranParamName)) do
    assert (m0.ranParamDef.isNone && m1.ranParamDef.isNone) "Not implemented"
    return true

/-- `eq_ran_param_def`, with `eq_ran_param_type`. -/
def eqRanParamDef : RanParamDef → RanParamDef → Outcome Bool
  | .lst ps0, .lst ps1 => allEq eqRanParamLstStruct ps0 ps1
  | .strct ps0, .strct ps1 => allEq eqRanParamLstStruct ps0 ps1
  | _, _ => return false

mutual

/-- `cp_ran_param_def`, with `cp_ran_param_type`. -/
def cpRanParamDef : RanParamDef → Outcome RanParamDef
  | .lst ps => do
    assert (0 < ps.length) "src->sz_ran_param > 0"
    let ps ← cpRanParamLstStructs ps
    return .lst ps
  | .strct ps => do
    assert (0 < ps.length) "src->sz_ran_param > 0"
    let ps ← cpRanParamLstStructs ps
    return .strct ps

/-- `cp_ran_param_lst_struct`. -/
def cpRanParamLstStruct : RanParamLstStruct → Outcome RanParamLstStruct
  | ⟨id, name, none⟩ => return ⟨id, name, none⟩
  | ⟨id, name, some defn⟩ => do
    let defn ← cpRanParamDef defn
    return ⟨id, name, some defn⟩

/-- The loop of `cp_ran_param_type`. -/
def cpRanParamLstStructs : List RanParamLstStruct → Outcome (List RanParamLstStruct)
  | [] => return []
  | p :: ps => do
    let p ← cpRanParamLstStruct p
    let ps ← cpRanParamLstStructs ps
    return p :: ps

end

/-- `free_ran_param_lst_struct`. -/
def freeRanParamLstStruct (src : RanParamLstStruct) : Outcome PUnit.{1} :=
  assert src.ranParamDef.isNone "Not implemented"

/-- `free_ran_param_def`, with `free_ran_param_type`. -/
def freeRanParamDef : RanParamDef → Outcome PUnit.{1}
  | .lst ps => each freeRanParamLstStruct ps
  | .strct ps => each freeRanParamLstStruct ps

/-- `eq_seq_ran_param_2`. -/
def eqSeqRanParam2 (m0 m1 : SeqRanParam2) : Outcome Bool := do
  assert (decide (0 < m0.ranParamId) && decide (0 < m1.ranParamId)) "m0->ran_param_id > 0"
  both (.next (m0.ranParamId == m1.ranParamId)) <|
    eqRanParameterValue m0.ranParamValue m1.ranParamValue

/-- `eq_seq_ran_param_3`. -/
def eqSeqRanParam3 (m0 m1 : SeqRanParam3) : Outcome Bool := do
  assert (decide (0 < m0.id) && decide (0 < m1.id)) "m0->id > 0"
  both (.next (m0.id == m1.id)) do
    assert (sized 151 m0.name && sized 151 m1.name) "m0->name.len > 0 && m0->name.len < 151"
    both (.next (m0.name == m1.name)) do
      assert (m0.defn.isNone && m1.defn.isNone) "Not implemented"
      return true

/-- `cp_seq_ran_param_3`. -/
def cpSeqRanParam3 (src : SeqRanParam3) : Outcome SeqRanParam3 := do
  assert (0 < src.id) "src->id > 0"
  assert (sized 151 src.name) "src->name.len > 0 && src->name.len < 151"
  assert src.defn.isNone "Not implemented"
  return ⟨src.id, src.name, none⟩

/-- `free_seq_ran_param_3`. -/
def freeSeqRanParam3 (src : SeqRanParam3) : Outcome PUnit.{1} := do
  assert (sized 151 src.name) "src->name.len > 0 && src->name.len < 151"
  match src.defn with
  | none => return ⟨⟩
  | some defn => freeRanParamDef defn

end Rc

end FlexRic
