import FlexRic.Lib.Compare
import FlexRic.Lib.Copies

/-!
# FlexRic.Lib.Answers

Comparisons that may fail an assertion, or read what is not there, before they have an answer.

* `Decides x P`: the answer is there, and it is right about `P`.
* `Judges x safe agree`: there is an answer just when `safe`, and it is `agree`, what the code
  looks at.  `Judges.decides_iff`: such a comparison is right just when it is safe, and nothing it
  does not look at makes a difference.
* The rules follow the code: a comparison and the rest (`judges_and`), two arrays
  (`judges_each`), what is asserted of an answer (`judges_insist`).
-/

namespace FlexRic

universe u

/-- The answer, if there is one. -/
def Outcome.answer : Outcome Bool → Option Bool
  | next b => some b
  | _ => none

/-- The answer, if there is one. -/
def Plain.Access.answer : Plain.Access Bool → Option Bool
  | done b => some b
  | _ => none

namespace Answers

/-- The answer is there, and right. -/
def Decides (x : Option Bool) (P : Prop) : Prop := ∃ b, x = some b ∧ (b = true ↔ P)

/-- There is an answer where it is `safe`, and it is whether the two `agree`. -/
structure Judges (x : Option Bool) (safe agree : Prop) : Prop where
  unsafe' : ¬safe → x = none
  safe' : safe → Decides x agree

variable {x y : Option Bool} {safe safe' agree agree' P : Prop}

/-- **A comparison is right** where it is safe, and where the two are equal just if they agree. -/
theorem Judges.decides_iff (h : Judges x safe agree) : Decides x P ↔ safe ∧ (agree ↔ P) := by
  constructor
  · rintro ⟨b, hx, hP⟩
    have hsafe : safe := by
      by_contra hno
      rw [h.unsafe' hno] at hx
      cases hx
    obtain ⟨b', hx', hagree⟩ := h.safe' hsafe
    rw [hx, Option.some_inj] at hx'
    exact ⟨hsafe, by rw [← hagree, ← hP, hx']⟩
  · rintro ⟨hsafe, hP⟩
    obtain ⟨b, hx, hagree⟩ := h.safe' hsafe
    exact ⟨b, hx, hagree.trans hP⟩

/-- Both conditions of a judgement may be put in other words. -/
theorem Judges.of_iff (h : Judges x safe agree) (hsafe : safe ↔ safe') (hagree : agree ↔ agree') :
    Judges x safe' agree' := by
  rwa [propext hsafe, propext hagree] at h

/-- What they agree in only matters where there is an answer. -/
theorem Judges.of_safe (h : Judges x safe agree) (hagree : safe → (agree ↔ agree')) :
    Judges x safe agree' := by
  refine ⟨h.unsafe', fun hsafe => ?_⟩
  obtain ⟨b, hx, hb⟩ := h.safe' hsafe
  exact ⟨b, hx, hb.trans (hagree hsafe)⟩

/-- A plain answer is given whatever the operands are. -/
theorem judges_some (b : Bool) : Judges (some b) True (b = true) :=
  ⟨fun h => absurd trivial h, fun _ => ⟨b, rfl, Iff.rfl⟩⟩

/-- An abort gives no answer. -/
theorem judges_none : Judges none False P := ⟨fun _ => rfl, False.elim⟩

/-- **One comparison, and the rest if it holds.** -/
theorem judges_and (hx : Judges x safe agree) (hy : agree → Judges y safe' agree') :
    Judges (x.bind fun b => if b then y else some false) (safe ∧ (agree → safe'))
      (agree ∧ agree') := by
  by_cases hsafe : safe
  · obtain ⟨b, rfl, hagree⟩ := hx.safe' hsafe
    cases b with
    | true =>
      have hyes : agree := hagree.mp rfl
      refine (hy hyes).of_iff ?_ (and_iff_right hyes).symm
      rw [and_iff_right hsafe]
      exact (imp_iff_right hyes).symm
    | false =>
      have hno : ¬agree := fun h => nomatch hagree.mpr h
      exact (judges_some false).of_iff (iff_of_true trivial ⟨hsafe, fun h => absurd h hno⟩)
        (iff_of_false (fun h => nomatch h) fun h => hno h.1)
  · rw [hx.unsafe' hsafe]
    exact judges_none.of_iff (iff_of_false id fun h => hsafe h.1) Iff.rfl

/-- A difference that is looked for first. -/
theorem judges_unless {c : Prop} [Decidable c] (h : ¬c → Judges x safe agree) :
    Judges (if c then some false else x) (¬c → safe) (¬c ∧ agree) := by
  by_cases hc : c
  · rw [if_pos hc]
    exact (judges_some false).of_iff (iff_of_true trivial fun hno => absurd hc hno)
      (iff_of_false (fun hno => nomatch hno) fun hno => hno.1 hc)
  · rw [if_neg hc]
    exact (h hc).of_iff (imp_iff_right hc).symm (and_iff_right hc).symm

/-- **What is asserted of the answer**: it has to be the right one. -/
theorem judges_insist (hx : Judges x safe agree) (hy : agree → Judges y safe' agree') :
    Judges (x.bind fun b => if b then y else none) ((safe ∧ agree) ∧ safe') agree' := by
  by_cases hsafe : safe
  · obtain ⟨b, rfl, hagree⟩ := hx.safe' hsafe
    cases b with
    | true =>
      have hyes : agree := hagree.mp rfl
      exact (hy hyes).of_iff (and_iff_right ⟨hsafe, hyes⟩).symm Iff.rfl
    | false =>
      have hno : ¬agree := fun h => nomatch hagree.mpr h
      exact judges_none.of_iff (iff_of_false id fun h => hno h.1.2) Iff.rfl
  · rw [hx.unsafe' hsafe]
    exact judges_none.of_iff (iff_of_false id fun h => hsafe h.1.1) Iff.rfl

/-! ## Arrays -/

variable {α : Type u}

/-- Two arrays, up to the first difference. -/
def each (f : α → α → Option Bool) : List α → List α → Option Bool
  | x :: xs, y :: ys => (f x y).bind fun b => if b then each f xs ys else some false
  | _, _ => some true

/-- Whatever comes before the first two that do not agree is safe, and so are these. -/
def SafeEach (safe agree : α → α → Prop) : List α → List α → Prop
  | x :: xs, y :: ys => safe x y ∧ (agree x y → SafeEach safe agree xs ys)
  | _, _ => True

/-- **Two arrays of one length** agree where their elements do. -/
theorem judges_each {f : α → α → Option Bool} {safe agree : α → α → Prop}
    (h : ∀ x y, Judges (f x y) (safe x y) (agree x y)) {xs ys : List α}
    (hlen : xs.length = ys.length) :
    Judges (each f xs ys) (SafeEach safe agree xs ys) (List.Forall₂ agree xs ys) := by
  induction xs generalizing ys with
  | nil =>
    obtain rfl := List.length_eq_zero_iff.mp hlen.symm
    exact (judges_some true).of_iff Iff.rfl (iff_of_true rfl .nil)
  | cons x xs ih =>
    cases ys with
    | nil => cases hlen
    | cons y ys =>
      exact (judges_and (h x y) fun _ => ih (Nat.succ.inj hlen)).of_iff Iff.rfl
        List.forall₂_cons.symm

/-- Elements that are always compared make an array that is. -/
theorem safeEach_true {agree : α → α → Prop} (xs ys : List α) :
    SafeEach (fun _ _ => True) agree xs ys := by
  induction xs generalizing ys with
  | nil => trivial
  | cons x xs ih =>
    cases ys with
    | nil => trivial
    | cons y ys => exact ⟨trivial, fun _ => ih ys⟩

/-- Elements that have to agree. -/
theorem safeEach_self {agree : α → α → Prop} {xs ys : List α} (hlen : xs.length = ys.length) :
    SafeEach agree agree xs ys ↔ List.Forall₂ agree xs ys := by
  induction xs generalizing ys with
  | nil =>
    obtain rfl := List.length_eq_zero_iff.mp hlen.symm
    exact iff_of_true trivial .nil
  | cons x xs ih =>
    cases ys with
    | nil => cases hlen
    | cons y ys =>
      rw [SafeEach, ih (Nat.succ.inj hlen), List.forall₂_cons]
      exact ⟨fun h => ⟨h.1, h.2 h.1⟩, fun h => ⟨h.1, fun _ => h.2⟩⟩

end Answers

/-! ## What comes with an assertion, or with memory -/

namespace Plain

namespace Access

/-- The answer of a comparison that ends is its value. -/
@[simp] theorem answer_done (b : Bool) : answer (.done b) = some b := rfl

/-- The answer of two comparisons is that of the second where the first one says yes. -/
theorem answer_and (x y : Access Bool) :
    answer (do if ← x then y else return false) =
      x.answer.bind fun b => if b then y.answer else some false := by
  cases x with
  | done b => cases b <;> rfl
  | refused msg => rfl
  | overread => rfl
  | overwrite => rfl

/-- An answer that is asserted to be `true`. -/
theorem answer_ret (x : Access Bool) (msg : String) :
    answer (do
      let ret ← x
      assert ret msg
      return ret) = x.answer.bind fun b => if b then some true else none := by
  cases x with
  | done b => cases b <;> rfl
  | refused msg => rfl
  | overread => rfl
  | overwrite => rfl

end Access

theorem Arr.len_inj {α β : Type} {xs : Arr α} {ys : Arr β} :
    xs.len = ys.len ↔ xs.items.length = ys.items.length := by
  rw [← UInt32.toNat_inj, Arr.toNat_len, Arr.toNat_len]

/-- The answer of two arrays is that of their elements in order. -/
theorem answer_eqEach {α : Type} (eq : α → α → Access Bool) (xs ys : List α) :
    (eqEach eq xs ys).answer = Answers.each (fun x y => (eq x y).answer) xs ys := by
  induction xs generalizing ys with
  | nil => rfl
  | cons x xs ih =>
    cases ys with
    | nil => rfl
    | cons y ys =>
      rw [eqEach, Access.answer_and, Answers.each]
      simp only [ih]

/-- Two arrays whose elements are compared without an assertion. -/
theorem judges_eqEach {α : Type} {eq : α → α → Bool} {xs ys : List α}
    (hlen : xs.length = ys.length) :
    Answers.Judges (eqEach (fun x y => .done (eq x y)) xs ys).answer True
      (List.Forall₂ (fun x y => eq x y = true) xs ys) := by
  rw [answer_eqEach]
  exact (Answers.judges_each (fun x y => Answers.judges_some (eq x y)) hlen).of_iff
    (iff_of_true (Answers.safeEach_true xs ys) trivial) Iff.rfl

end Plain

end FlexRic
