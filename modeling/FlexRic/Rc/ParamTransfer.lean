import FlexRic.Codec.RicItems
import FlexRic.Lib.Conveys
import FlexRic.Rc.ParamCodec
import FlexRic.Rc.ParamCopies
import FlexRic.Rc.RcValues

/-!
# FlexRic.Rc.ParamTransfer

Which RAN parameters, tests and definitions are encoded within their constraints, and what the
decoder makes of them.

* `Sendable`: the ids that are asserted are not 0, the arrays have the sizes of the generated
  structures, and what is not implemented is not there.
* The decoders take all that is sent, and hand over what it was.  The trees are of any depth.
-/

namespace FlexRic

namespace Rc

open Outcome Codec Kpm

/-! ## Fields -/

/-- A field that is not implemented. -/
theorem conveys_absent {α : Type} (o : Option α) :
    Conveys (encAbsent o) (fun _ => true) decAbsent o (o = none) True := by
  refine (conveys_asserted (fun _ => rfl) fun h => ?_).iff Option.isNone_iff_eq_none Iff.rfl
  rw [Option.isNone_iff_eq_none.mp h]
  rfl

/-- Widening keeps an id positive -/
theorem pos_toUInt64 {id : UInt32} : 0 < id.toUInt64 ↔ 0 < id := by
  rw [UInt64.lt_iff_toNat_lt, UInt32.lt_iff_toNat_lt, UInt32.toNat_toUInt64]
  rfl

/-- An id is below `2^32`, where the constraint puts it. -/
theorem toUInt64_below (id : UInt32) : id.toUInt64 < 4294967296 := by
  rw [UInt64.lt_iff_toNat_lt, UInt32.toNat_toUInt64]
  exact id.toNat_lt

/-- An id that is asserted to be above 0 on both sides is conveyed. -/
theorem conveys_paramId (id : UInt32) :
    Conveys (encParamId id) (fun _ => true) decParamId id (0 < id) True := by
  refine (conveys_asserted (fun _ => rfl) fun h => ?_).iff decide_eq_true_iff Iff.rfl
  have hpos := pos_toUInt64.mpr (of_decide_eq_true h)
  rw [decParamId, assert_of (decide_eq_true hpos), UInt32.toUInt32_toUInt64]
  rfl

/-- An id is conveyed also where the decoder asserts an upper bound. -/
theorem conveys_paramIdBelow (id : UInt32) :
    Conveys (encParamId id) (fun _ => true) decParamIdBelow id (0 < id) True := by
  refine (conveys_asserted (fun _ => rfl) fun h => ?_).iff decide_eq_true_iff Iff.rfl
  have hpos := pos_toUInt64.mpr (of_decide_eq_true h)
  rw [decParamIdBelow, assert_of (decide_eq_true ⟨hpos, toUInt64_below id⟩),
    UInt32.toUInt32_toUInt64]
  rfl

/-- An id of 16 bits goes out as a positive integer. -/
theorem pos_toNat16 {id : UInt16} : 0 < (id.toNat : Int) ↔ 0 < id := by
  rw [UInt16.lt_iff_toNat_lt, Int.natCast_pos]
  rfl

/-- An id of 16 bits is conveyed above 0. -/
theorem conveys_id (id : UInt16) : Conveys (encId id) (fun _ => true) decId id (0 < id) True := by
  refine (conveys_asserted (fun _ => rfl) fun h => ?_).iff decide_eq_true_iff Iff.rfl
  have hpos := pos_toNat16.mpr (of_decide_eq_true h)
  have hlt : (id.toNat : Int) < 65536 := by exact_mod_cast id.toNat_lt
  rw [decId, assert_of (decide_eq_true ⟨hpos, hlt⟩), longToU16_back]
  rfl

/-- **An id of 16 bits is conveyed** if it is not 0: the constraint has no upper end. -/
theorem conveys_idOpen (id : UInt16) :
    Conveys (encId id) (fun _ => true) decIdOpen id (0 < id) True := by
  refine (conveys_asserted (fun _ => rfl) fun h => ?_).iff decide_eq_true_iff Iff.rfl
  rw [decIdOpen, assert_of (decide_eq_true (pos_toNat16.mpr (of_decide_eq_true h))),
    longToU16_back]
  rfl

/-- A text of a length that both sides assert. -/
theorem conveys_sizedText (n : Nat) (s : Bytes) :
    Conveys (sizedText n s) (fun _ => true) (sizedText n) s (sized n s = true) True := by
  refine conveys_asserted (fun _ => rfl) fun hs => ?_
  rw [sizedText, assert_of hs]
  rfl

/-! ## Arrays -/

section

variable {α β γ : Type} {enc : α → Outcome β} {sat : β → Bool} {dec : β → Outcome α}
  {S D : α → Prop} {n : Nat} {xs : List α} {o : Outcome (List β)} {sats : List β → Bool}
  {decs : List β → Outcome (List γ)} {zs : List γ} {Ss Ds : Prop}

/-- An array whose size is a constraint, whatever is done before. -/
theorem conveys_sequence (h : Conveys o sats decs zs Ss Ds)
    (hlen : ∀ ys, o = next ys → ys.length = xs.length) :
    Conveys o (fun ys => sized n ys && sats ys) decs zs (sized n xs = true ∧ Ss) Ds :=
  h.within fun ys hys => by rw [sized, sized, hlen ys hys]

/-- The decoder asserts that size. -/
theorem conveys_sequence_sized {m : String} (h : Conveys o sats decs zs Ss Ds)
    (hlen : ∀ ys, o = next ys → ys.length = xs.length) :
    Conveys o (fun ys => sized n ys && sats ys) (fun ys => assert (sized n ys) m >>= fun _ => decs ys)
      zs (sized n xs = true ∧ Ss) Ds :=
  ((conveys_sequence h hlen).checks fun _ _ hsat =>
    iff_true_intro ((Bool.and_eq_true _ _ ▸ hsat).1)).iff Iff.rfl (and_iff_right trivial)

/-- **An array of the size of its constraint**, which the encoder does not assert and the decoder
does. -/
theorem conveys_walk_sized (h : ∀ x ∈ xs, Conveys (enc x) sat dec x (S x) (D x)) :
    Conveys (walk enc xs) (isSequence n sat) (sizedWalk (n + 1) dec) xs
      (sized (n + 1) xs = true ∧ ∀ x ∈ xs, S x) (∀ x ∈ xs, D x) :=
  conveys_sequence_sized (conveys_walk h) fun _ => walk_length

/-- An array of the size of its constraint, which neither side asserts. -/
theorem conveys_walk_walk (h : ∀ x ∈ xs, Conveys (enc x) sat dec x (S x) (D x)) :
    Conveys (walk enc xs) (isSequence n sat) (walk dec) xs
      (sized (n + 1) xs = true ∧ ∀ x ∈ xs, S x) (∀ x ∈ xs, D x) :=
  conveys_sequence (conveys_walk h) fun _ => walk_length

/-- An array of a size that both sides assert, where the constraint may be wider. -/
theorem conveys_sized_within {m : Nat} (hmn : m ≤ n)
    (h : ∀ x ∈ xs, Conveys (enc x) sat dec x (S x) (D x)) :
    Conveys (sizedWalk (m + 1) enc xs) (isSequence n sat) (sizedWalk (m + 1) dec) xs
      (sized (m + 1) xs = true ∧ ∀ x ∈ xs, S x) (∀ x ∈ xs, D x) := by
  have hguard := (conveys_walk_walk (n := n) h).guard (sized (m + 1) xs) "sz > 0"
  have hwide : sized (m + 1) xs = true → sized (n + 1) xs = true := by
    simp only [sized, Bool.and_eq_true, decide_eq_true_eq]
    omega
  refine (hguard.checks fun ys hys _ => iff_true_intro ?_).iff ?_ (and_iff_right trivial)
  · simp only [bind_eq_next, assert_eq_next] at hys
    obtain ⟨_, hsized, hys⟩ := hys
    rw [← hsized, sized, sized, walk_length hys]
  · exact and_congr_right fun hsized => and_iff_right (hwide hsized)

/-- **An array that both sides count** is conveyed where its elements are. -/
theorem conveys_sized_sized (h : ∀ x ∈ xs, Conveys (enc x) sat dec x (S x) (D x)) :
    Conveys (sizedWalk (n + 1) enc xs) (isSequence n sat) (sizedWalk (n + 1) dec) xs
      (sized (n + 1) xs = true ∧ ∀ x ∈ xs, S x) (∀ x ∈ xs, D x) :=
  conveys_sized_within le_rfl h

/-- **An array that is left out where it is empty.** -/
theorem conveys_nonempty {encs : List α → Outcome (List β)} {decs : List β → Outcome (List α)}
    (h : xs ≠ [] → Conveys (encs xs) sats decs xs Ss Ds) :
    Conveys (encNonempty encs xs) (Option.all sats) (decNonempty decs) xs (xs ≠ [] → Ss)
      (xs ≠ [] → Ds) := by
  cases xs with
  | nil =>
    have hnone : Conveys (encNonempty encs []) (Option.all sats) (decNonempty decs) [] True True :=
      conveys_next rfl rfl
    exact hnone.iff (by simp) (by simp)
  | cons x xs =>
    have hsome : Conveys (encNonempty encs (x :: xs)) (Option.all sats) (decNonempty decs)
        (x :: xs) Ss Ds :=
      conveys_one (h (List.cons_ne_nil x xs)) rfl (fun _ => rfl) (fun _ => (bind_next _).symm) rfl
    exact hsome.iff (by simp) (by simp)

/-- A nonempty array of a size, and any array of it. -/
theorem below_of_sized {P : α → Prop} :
    (xs ≠ [] → sized (n + 1) xs = true ∧ ∀ x ∈ xs, P x) ↔
      below (n + 1) xs = true ∧ ∀ x ∈ xs, P x := by
  cases xs <;> simp [sized, below]

/-- An array that is left out when it is empty, within its constraint. -/
theorem conveys_nonempty_walk (h : ∀ x ∈ xs, Conveys (enc x) sat dec x (S x) (D x)) :
    Conveys (encNonempty (walk enc) xs) (Option.all (isSequence n sat)) (decNonempty (walk dec)) xs
      (below (n + 1) xs = true ∧ ∀ x ∈ xs, S x) (∀ x ∈ xs, D x) := by
  refine (conveys_nonempty fun _ => conveys_walk_walk h).iff below_of_sized ?_
  cases xs <;> simp

/-- An array that is left out when it is empty, with a bound of the decoder's own. -/
theorem conveys_nonempty_sized {m : Nat} (h : ∀ x ∈ xs, Conveys (enc x) sat dec x (S x) (D x)) :
    Conveys (encNonempty (walk enc) xs) (Option.all (isSequence n sat))
      (decNonempty (sizedWalk (m + 1) dec)) xs (below (n + 1) xs = true ∧ ∀ x ∈ xs, S x)
      (below (m + 1) xs = true ∧ ∀ x ∈ xs, D x) := by
  have hlen (ys : List β) (hys : walk enc xs = next ys) : sized (m + 1) ys = sized (m + 1) xs := by
    rw [sized, sized, walk_length hys]
  refine (conveys_nonempty fun _ => (conveys_walk_walk h).checks fun ys hys _ => ?_).iff
    below_of_sized below_of_sized
  rw [hlen ys hys]

end

/-! ## Values -/

/-- **A value arrives as it was sent.** -/
theorem decRanParamVal_cp (v : RanParameterValue) : decRanParamVal (cpRanParamVal v) = next v := by
  cases v
  case boolRan v => cases v <;> rfl
  all_goals rfl

/-- **A value arrives as it is.** -/
theorem conveys_ranParamVal (v : RanParameterValue) :
    Conveys (next (cpRanParamVal v)) ParamValueAsn.satisfies decRanParamVal v True True := by
  refine conveys_next ?_ (decRanParamVal_cp v)
  cases v <;> rfl

mutual

/-- The ids are not 0, and each structure and list has from 1 to 65535 elements. -/
def SeqRanParam.Sendable : SeqRanParam → Prop
  | ⟨id, val⟩ => 0 < id ∧ val.Sendable

def RanParamValType.Sendable : RanParamValType → Prop
  | .flagTrue _ | .flagFalse _ => True
  | .strct s => sized 65536 s = true ∧ AllSendable s
  | .lst l => sized 65536 l = true ∧ LstsSendable l

def LstRanParam.Sendable : LstRanParam → Prop
  | ⟨s⟩ => sized 65536 s = true ∧ AllSendable s

def AllSendable : List SeqRanParam → Prop
  | [] => True
  | p :: s => p.Sendable ∧ AllSendable s

def LstsSendable : List LstRanParam → Prop
  | [] => True
  | p :: l => p.Sendable ∧ LstsSendable l

end

/-- The mutual recursion of the encoder is a walk of the array. -/
theorem encRanParamStructs_eq (s : List SeqRanParam) :
    encRanParamStructs s = walk encRanParamStruct s := by
  induction s with
  | nil => rfl
  | cons p s ih => rw [encRanParamStructs, ih, walk]

/-- The encoder of a list's elements is a walk over them. -/
theorem encLstRanParams_eq (l : List LstRanParam) :
    encLstRanParams l = walk encLstRanParam l := by
  induction l with
  | nil => rfl
  | cons p l ih => rw [encLstRanParams, ih, walk]

/-- A structure, once its elements are conveyed: its array is always there. -/
theorem conveys_struct {s : List SeqRanParam} {S : Prop}
    (h : Conveys (encRanParamStructs s) itemsSatisfy decRanParamStructs s S True) :
    Conveys (encRanParamStructs s >>= fun s => next (StructAsn.mk (some s))) StructAsn.satisfies
      decRanParameterStrct s (sized 65536 s = true ∧ S) True := by
  have hlen (ys : List StructItemAsn) (hys : encRanParamStructs s = next ys) :
      ys.length = s.length := by
    rw [encRanParamStructs_eq] at hys
    exact walk_length hys
  have hsat (y : List StructItemAsn) :
      (StructAsn.mk (some y)).satisfies = (sized 65536 y && itemsSatisfy y) := by
    rw [StructAsn.satisfies]
  have hdec (y : List StructItemAsn) : decRanParameterStrct (.mk (some y)) =
      (assert (sized 65536 y) "list.count > 0 && list.count < 65535 + 1" >>= fun _ =>
        decRanParamStructs y) >>= fun z => next z := by
    rw [decRanParameterStrct]
    exact (bind_next _).symm
  exact conveys_one (conveys_sequence_sized h hlen) rfl hsat hdec rfl

mutual

/-- **A RAN parameter arrives as it is**, however deep it is. -/
theorem conveys_ranParamStruct : ∀ p : SeqRanParam,
    Conveys (encRanParamStruct p) StructItemAsn.satisfies decRanParamStruct p p.Sendable True
  | ⟨id, val⟩ =>
    (conveys_two (conveys_paramId id) (conveys_ranParamValueType val) (by rw [encRanParamStruct]; rfl)
      (fun _ _ => by rw [StructItemAsn.satisfies, Bool.true_and])
      (fun _ _ => by rw [decRanParamStruct]; rfl) rfl).always
      (by rw [SeqRanParam.Sendable]) ⟨trivial, trivial⟩

/-- **A value of any depth is conveyed**, by the recursion of the encoder. -/
theorem conveys_ranParamValueType : ∀ v : RanParamValType,
    Conveys (cpRanParamValueType v) ValueTypeAsn.satisfies decRanParamValueType v v.Sendable True
  | .flagTrue v =>
    (conveys_one (conveys_ranParamVal v) (by rw [cpRanParamValueType]; rfl)
      (fun _ => by rw [ValueTypeAsn.satisfies]) (fun _ => by rw [decRanParamValueType]; rfl)
      rfl).iff (by rw [RanParamValType.Sendable]) Iff.rfl
  | .flagFalse v => by
    have hsat (y : ParamValueAsn) : (ValueTypeAsn.elementFalse (some y)).satisfies = y.satisfies := by
      rw [ValueTypeAsn.satisfies, Option.all_some]
    exact (conveys_one (conveys_ranParamVal v) (by rw [cpRanParamValueType]; rfl) hsat
      (fun _ => by rw [decRanParamValueType]; rfl) rfl).iff (by rw [RanParamValType.Sendable]) Iff.rfl
  | .strct s =>
    (conveys_one (conveys_struct (conveys_structItems s))
      (by rw [cpRanParamValueType, bind_bind]; rfl) (fun _ => by rw [ValueTypeAsn.satisfies])
      (fun _ => by rw [decRanParamValueType]; rfl) rfl).iff (by rw [RanParamValType.Sendable]) Iff.rfl
  | .lst l => by
    have hlen (ys : List StructAsn) (hys : encLstRanParams l = next ys) : ys.length = l.length := by
      rw [encLstRanParams_eq] at hys
      exact walk_length hys
    exact (conveys_one (conveys_sequence (conveys_lsts l) hlen) (by rw [cpRanParamValueType]; rfl)
      (fun _ => by rw [ValueTypeAsn.satisfies]) (fun _ => by rw [decRanParamValueType]; rfl)
      rfl).iff (by rw [RanParamValType.Sendable]) Iff.rfl

/-- A structure is conveyed parameter by parameter. -/
theorem conveys_structItems : ∀ s : List SeqRanParam,
    Conveys (encRanParamStructs s) itemsSatisfy decRanParamStructs s (AllSendable s) True
  | [] => conveys_next rfl rfl
  | p :: s =>
    (conveys_two (conveys_ranParamStruct p) (conveys_structItems s)
      (by rw [encRanParamStructs]; rfl) (fun _ _ => by rw [itemsSatisfy])
      (fun _ _ => by rw [decRanParamStructs]; rfl) rfl).always
      (by rw [AllSendable]) ⟨trivial, trivial⟩

/-- A list is conveyed structure by structure. -/
theorem conveys_lsts : ∀ l : List LstRanParam,
    Conveys (encLstRanParams l) structsSatisfy decLstRanParams l (LstsSendable l) True
  | [] => conveys_next rfl rfl
  | ⟨s⟩ :: l => by
    have henc : encLstRanParams (⟨s⟩ :: l) =
        (encRanParamStructs s >>= fun s => next (StructAsn.mk (some s))) >>= fun y₁ =>
          encLstRanParams l >>= fun y₂ => next (y₁ :: y₂) := by
      rw [encLstRanParams, encLstRanParam]
      rfl
    have hdec (y₁ : StructAsn) (y₂ : List StructAsn) : decLstRanParams (y₁ :: y₂) =
        decRanParameterStrct y₁ >>= fun z₁ => decLstRanParams y₂ >>= fun z₂ =>
          next (⟨z₁⟩ :: z₂) := by
      rw [decLstRanParams]
      rfl
    exact (conveys_two (conveys_struct (conveys_structItems s)) (conveys_lsts l) henc
      (fun _ _ => by rw [structsSatisfy]) hdec rfl).always
      (by rw [LstsSendable, LstRanParam.Sendable]) ⟨trivial, trivial⟩

end

/-! ## Tests -/

/-- Every condition is conveyed. -/
theorem conveys_testCond (c : RanParamTestCond) :
    Conveys (next (encRanParamTestCond c)) TestConditionAsn.satisfies decTestCond c True True := by
  refine conveys_next ?_ ?_
  · obtain comp | presence := c
    · cases comp <;> rfl
    · cases presence <;> rfl
  · obtain comp | presence := c
    · cases comp <;> rfl
    · cases presence <;> rfl

/-- A test without a value is conveyed if its optional fields are absent. -/
theorem conveys_elmFalse (v : RanParamElmKeyFalse) :
    Conveys (cpElmFalse v) (·.testCondition.satisfies) decKeyFlagFalse v (v.bare = true) True := by
  refine Conveys.always (conveys_three (conveys_testCond v.testCond) (conveys_absent v.value)
    (conveys_absent v.logicalOr) rfl (fun _ _ _ => by rw [Bool.and_self, Bool.and_true])
    (fun _ _ _ => rfl) rfl) ?_ ⟨trivial, trivial, trivial⟩
  rw [true_and, RanParamElmKeyFalse.bare, Bool.and_eq_true, Option.isNone_iff_eq_none,
    Option.isNone_iff_eq_none]

mutual

/-- The ids are not 0, each array has from 1 to 65535 tests, and no element has a value or a
disjunction. -/
def RanParamTest.Sendable : RanParamTest → Prop
  | ⟨id, test⟩ => 0 < id ∧ test.Sendable

def RanParamTestType.Sendable : RanParamTestType → Prop
  | .lst ts => sized 65536 ts = true ∧ TestsSendable ts
  | .strct ts => sized 65536 ts = true ∧ TestsSendable ts
  | .flagTrue _ => True
  | .flagFalse v => v.bare = true

def TestsSendable : List RanParamTest → Prop
  | [] => True
  | t :: ts => t.Sendable ∧ TestsSendable ts

end

theorem encRanParamTests_eq (ts : List RanParamTest) :
    encRanParamTests ts = walk encRanParamTest ts := by
  induction ts with
  | nil => rfl
  | cons t ts ih => rw [encRanParamTests, ih, walk]

/-- Encoding keeps the number of tests, which the constraint asks for. -/
theorem length_encRanParamTests {ts : List RanParamTest} {ys : List TestItemAsn}
    (h : encRanParamTests ts = next ys) : ys.length = ts.length := by
  rw [encRanParamTests_eq] at h
  exact walk_length h

mutual

/-- **A test arrives as it is**, however deep it is. -/
theorem conveys_ranParamTest : ∀ t : RanParamTest,
    Conveys (encRanParamTest t) TestItemAsn.satisfies decRanParamTest t t.Sendable True
  | ⟨id, test⟩ =>
    (conveys_two (conveys_paramIdBelow id) (conveys_ranParamTestType test)
      (by rw [encRanParamTest]; rfl) (fun _ _ => by rw [TestItemAsn.satisfies, Bool.true_and])
      (fun _ _ => by rw [decRanParamTest]; rfl) rfl).always
      (by rw [RanParamTest.Sendable]) ⟨trivial, trivial⟩

/-- **A test of any depth is conveyed.** -/
theorem conveys_ranParamTestType : ∀ t : RanParamTestType,
    Conveys (encRanParamTestType t) TestTypeAsn.satisfies decRanParamTestType t t.Sendable True
  | .lst ts =>
    (conveys_one (conveys_sequence_sized (conveys_ranParamTests ts) fun _ => length_encRanParamTests)
      (by rw [encRanParamTestType]; rfl) (fun _ => by rw [TestTypeAsn.satisfies])
      (fun _ => by rw [decRanParamTestType, bind_bind]; rfl) rfl).iff
      (by rw [RanParamTestType.Sendable]) Iff.rfl
  | .strct ts =>
    (conveys_one (conveys_sequence_sized (conveys_ranParamTests ts) fun _ => length_encRanParamTests)
      (by rw [encRanParamTestType]; rfl) (fun _ => by rw [TestTypeAsn.satisfies])
      (fun _ => by rw [decRanParamTestType, bind_bind]; rfl) rfl).iff
      (by rw [RanParamTestType.Sendable]) Iff.rfl
  | .flagTrue v =>
    (conveys_one (conveys_ranParamVal v) (by rw [encRanParamTestType]; rfl)
      (fun _ => by rw [TestTypeAsn.satisfies]) (fun _ => by rw [decRanParamTestType]; rfl)
      rfl).iff (by rw [RanParamTestType.Sendable]) Iff.rfl
  | .flagFalse v =>
    (conveys_one (conveys_elmFalse v) (by rw [encRanParamTestType]; rfl)
      (fun _ => by rw [TestTypeAsn.satisfies]) (fun _ => by rw [decRanParamTestType]; rfl)
      rfl).iff (by rw [RanParamTestType.Sendable]) Iff.rfl

/-- A list of tests is conveyed test by test. -/
theorem conveys_ranParamTests : ∀ ts : List RanParamTest,
    Conveys (encRanParamTests ts) testsSatisfy decRanParamTests ts (TestsSendable ts) True
  | [] => conveys_next rfl rfl
  | t :: ts =>
    (conveys_two (conveys_ranParamTest t) (conveys_ranParamTests ts)
      (by rw [encRanParamTests]; rfl) (fun _ _ => by rw [testsSatisfy])
      (fun _ _ => by rw [decRanParamTests]; rfl) rfl).always
      (by rw [TestsSendable]) ⟨trivial, trivial⟩

end

/-! ## Definitions -/

/-- No definition in it. -/
def RanParamLstStruct.Sendable (p : RanParamLstStruct) : Prop := p.ranParamDef = none

/-- From 1 to 65535 parameters. -/
def RanParamDef.Sendable (d : RanParamDef) : Prop :=
  sized 65536 d.params = true ∧ ∀ p ∈ d.params, p.Sendable

/-- A defined parameter is conveyed with what is under it. -/
theorem conveys_ranParamDefItem (p : RanParamLstStruct) :
    Conveys (encRanParamDefItem p) (fun _ => true) decRanParamDefItem p p.Sendable True := by
  obtain ⟨id, name, defn⟩ := p
  have hdec (y : Option Unread) :
      decRanParamDefItem ⟨id.toUInt64, name, y⟩ = decAbsent y >>= fun z => next ⟨id, name, z⟩ := by
    rw [decRanParamDefItem, UInt32.toUInt32_toUInt64]
    rfl
  exact conveys_one (conveys_absent defn) (by rfl) (fun _ => rfl) hdec rfl

/-- **A definition arrives as it is**, where there is none in it. -/
theorem conveys_ranParamDef (d : RanParamDef) :
    Conveys (encRanParamDef d) DefinitionAsn.satisfies decRanParamDef d d.Sendable True := by
  cases d with
  | lst ps =>
    exact Conveys.always (conveys_one (conveys_walk_walk fun p _ => conveys_ranParamDefItem p) rfl
      (fun _ => rfl) (fun _ => rfl) rfl) Iff.rfl fun _ _ => trivial
  | strct ps =>
    exact Conveys.always (conveys_one (conveys_walk_walk fun p _ => conveys_ranParamDefItem p) rfl
      (fun _ => rfl) (fun _ => rfl) rfl) Iff.rfl fun _ _ => trivial

/-! ## The buffer -/

/-- A runtime that encodes the structures within their constraints as themselves. -/
def plainRuntime {Pdu Buf : Type} (sat : Pdu → Bool) (wrap : Pdu → Buf)
    (unwrap : Buf → Option Pdu) : Asn1c Pdu Buf where
  encode := fun pdu => if sat pdu then some (wrap pdu) else none
  length := fun _ => 64
  decode := unwrap

/-- A runtime that writes what it is given and reads it back is exact. -/
theorem plainRuntime_exact {Pdu Buf : Type} {sat : Pdu → Bool} {wrap : Pdu → Buf}
    {unwrap : Buf → Option Pdu} (h : ∀ pdu, unwrap (wrap pdu) = some pdu) :
    (plainRuntime sat wrap unwrap).Exact sat id where
  length_pos := fun _ _ _ => Nat.zero_lt_succ 63
  decodesBack := fun pdu b hsat henc => by
    simp only [plainRuntime, hsat, reduceIte, Option.some.injEq] at henc
    rw [← henc]
    exact h pdu
  encodes := fun pdu => by simp [plainRuntime]

section

variable {Pdu Buf : Type} {rt : Asn1c Pdu Buf} {n : Nat} {sat : Pdu → Bool}

/-- What is encoded has at most `n` octets. -/
def FitsInto (n : Nat) (rt : Asn1c Pdu Buf) (o : Outcome Pdu) : Prop :=
  ∀ pdu b, o = next pdu → rt.encode pdu = some b → rt.length b ≤ n

/-- A buffer is written if the message is encoded and fits in it. -/
theorem encodeInto_eq_next {pdu : Pdu} {b : Buf} :
    encodeInto n rt pdu = next b ↔ rt.encode pdu = some b ∧ rt.length b ≤ n := by
  simp only [encodeInto, bind_eq_next, expect_eq_next, assert_eq_next, decide_eq_true_eq, pure_eq,
    next_inj]
  constructor
  · rintro ⟨b', hb', _, hlen, rfl⟩
    exact ⟨hb', hlen⟩
  · rintro ⟨hb, hlen⟩
    exact ⟨b, hb, ⟨⟩, hlen, rfl⟩

variable {α : Type} {o : Outcome Pdu} {dec : Pdu → Outcome α} {x : α} {S D : Prop}

/-- **What the encoder takes**: what is sent and fits the buffer. -/
theorem encoded_iff (hrt : rt.Exact sat id) (h : Conveys o sat dec x S D) :
    (∃ b, o >>= encodeInto n rt = next b) ↔ S ∧ FitsInto n rt o := by
  simp only [bind_eq_next, encodeInto_eq_next]
  constructor
  · rintro ⟨b, pdu, hpdu, hb, hlen⟩
    refine ⟨h.sends.mp ⟨pdu, hpdu, (hrt.encodes pdu).mp ⟨b, hb⟩⟩, fun pdu' b' hpdu' hb' => ?_⟩
    rw [hpdu, next_inj] at hpdu'
    rw [← hpdu', hb, Option.some_inj] at hb'
    exact hb' ▸ hlen
  · rintro ⟨hS, hfits⟩
    obtain ⟨pdu, hpdu, hsat⟩ := h.sends.mpr hS
    obtain ⟨b, hb⟩ := (hrt.encodes pdu).mpr hsat
    exact ⟨b, pdu, hpdu, hb, hfits pdu b hpdu hb⟩

/-- **What the decoder makes of it.** -/
theorem yields_decoded (hrt : rt.Exact sat id) (h : Conveys o sat dec x S D) {b : Buf}
    (hb : o >>= encodeInto n rt = next b) : (decodeFrom rt b >>= dec).Yields D x := by
  obtain ⟨pdu, hpdu, hb⟩ := bind_eq_next.mp hb
  have henc := (encodeInto_eq_next.mp hb).1
  have hsat : sat pdu = true := (hrt.encodes pdu).mp ⟨b, henc⟩
  have hdec : decodeFrom rt b = next pdu := by
    rw [decodeFrom, assert_of (decide_eq_true (hrt.length_pos pdu b henc)),
      hrt.decodesBack pdu b hsat henc]
    rfl
  rw [hdec, next_bind]
  exact h.arrives pdu hpdu hsat

/-- **What is encoded and comes back.** -/
theorem roundTrips_iff (hrt : rt.Exact sat id) (h : Conveys o sat dec x S D) (x' : α) :
    (∃ b, o >>= encodeInto n rt = next b ∧ decodeFrom rt b >>= dec = next x') ↔
      (S ∧ FitsInto n rt o) ∧ D ∧ x = x' := by
  constructor
  · rintro ⟨b, hb, hdec⟩
    exact ⟨(encoded_iff hrt h).mp ⟨b, hb⟩, (yields_decoded hrt h hb x').mp hdec⟩
  · rintro ⟨hsent, harrived⟩
    obtain ⟨b, hb⟩ := (encoded_iff hrt h).mpr hsent
    exact ⟨b, hb, (yields_decoded hrt h hb x').mpr harrived⟩

/-- **What comes back**: all that is not taken, and what arrives as it is. -/
theorem comesBack_iff (hrt : rt.Exact sat id) (h : Conveys o sat dec x S D) (x' : α) :
    (∀ b, o >>= encodeInto n rt = next b → decodeFrom rt b >>= dec = next x') ↔
      (S → FitsInto n rt o → D ∧ x = x') := by
  constructor
  · intro hback hS hfits
    obtain ⟨b, hb⟩ := (encoded_iff hrt h).mpr ⟨hS, hfits⟩
    exact (yields_decoded hrt h hb x').mp (hback b hb)
  · intro hkept b hb
    obtain ⟨hS, hfits⟩ := (encoded_iff hrt h).mp ⟨b, hb⟩
    exact (yields_decoded hrt h hb x').mpr (hkept hS hfits)

end

end Rc

end FlexRic
