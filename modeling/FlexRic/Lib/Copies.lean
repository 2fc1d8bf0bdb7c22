import FlexRic.Lib.Plain

/-!
# FlexRic.Lib.Copies

Functions that copy a structure field by field and assert that it is what they
want.

* `Guards x P a`: `x` hands over `a` where `P` holds, and fails an assertion
  where it does not.
* `copyEach` copies an array, `eqEach` compares two.
* A `float` is its bits: what `==` says of two, and when they are the same value.
-/

namespace FlexRic

namespace Plain

/-! ## Guards -/

/-- A step hands over `a` under the condition `P`, and fails an assertion otherwise. -/
def Guards {α : Type} (x : Access α) (P : Prop) (a : α) : Prop :=
  (P → x = .done a) ∧ (¬ P → ∃ msg, x = .refused msg)

/-- `assert(b && msg)`. -/
def Access.assert (b : Bool) (msg : String) : Access Unit :=
  if b then .done () else .refused msg

section Guards

variable {α β : Type} {x : Access α} {P Q : Prop} {a : α}

/-- A step without assertions guards nothing. -/
theorem guards_done (a : α) : Guards (.done a) True a :=
  ⟨fun _ => rfl, fun h => absurd trivial h⟩

/-- A step that is always refused guards against everything. -/
theorem guards_refused (msg : String) (a : α) : Guards (.refused msg) False a :=
  ⟨fun h => h.elim, fun _ => ⟨msg, rfl⟩⟩

/-- An assertion guards its condition. -/
theorem guards_assert (b : Bool) (msg : String) :
    Guards (Access.assert b msg) (b = true) () := by
  unfold Access.assert
  constructor
  · intro h
    rw [if_pos h]
  · intro h
    exact ⟨msg, if_neg h⟩

/-- Two steps, one after the other, guard what both guard. -/
theorem Guards.bind {f : α → Access β} {b : β} (h : Guards x P a) (h' : P → Guards (f a) Q b) :
    Guards (x >>= f) (P ∧ Q) b := by
  by_cases hP : P
  · rw [Access.bind_of_done (h.1 hP)]
    constructor
    · intro hPQ
      exact (h' hP).1 hPQ.2
    · intro hPQ
      exact (h' hP).2 fun hQ => hPQ ⟨hP, hQ⟩
  · obtain ⟨msg, hx⟩ := h.2 hP
    rw [hx]
    exact ⟨fun hPQ => absurd hPQ.1 hP, fun _ => ⟨msg, rfl⟩⟩

/-- The condition may be put in other words. -/
theorem Guards.iff (h : Guards x P a) (hPQ : P ↔ Q) : Guards x Q a := by
  rw [Guards, ← hPQ]
  exact h

/-- The rest does not fail. -/
theorem Guards.last {f : α → Access β} {b : β} (h : Guards x P a) (hf : P → f a = .done b) :
    Guards (x >>= f) P b := by
  refine (h.bind fun hP => ?_).iff (and_iff_left trivial)
  rw [hf hP]
  exact guards_done b

/-- No difference is found, and the next field is looked at. -/
theorem guards_passed {ι : Type} [DecidableEq ι] {i j : ι} {y : Access α} (heq : i = j)
    (h : Guards x P a) : Guards (if i ≠ j then y else x) P a := by
  rw [if_neg (not_not_intro heq)]
  exact h

theorem Access.assert_true (msg : String) : Access.assert true msg = .done () := rfl

/-- What comes out of it. -/
theorem Guards.eq_done_iff (h : Guards x P a) {b : α} : x = .done b ↔ P ∧ a = b := by
  by_cases hP : P
  · rw [h.1 hP, Access.done_inj, and_iff_right hP]
  · obtain ⟨msg, hx⟩ := h.2 hP
    rw [hx]
    exact iff_of_false (fun heq => by cases heq) fun hPb => hP hPb.1

end Guards

/-! ## Arrays -/

/-- The elements of a list, copied one by one. -/
def copyEach {α : Type} (cp : α → Access α) :
    (xs : List α) → Access { ys : List α // ys.length = xs.length }
  | [] => .done ⟨[], rfl⟩
  | x :: xs => do
    let y ← cp x
    let ys ← copyEach cp xs
    return ⟨y :: ys.1, congrArg (· + 1) ys.2⟩

/-- The elements of a list, checked one by one. -/
def checkEach {α : Type} (check : α → Access Unit) : List α → Access Unit
  | [] => .done ()
  | x :: xs => do
    check x
    checkEach check xs

/-- Two lists, compared up to the first difference. -/
def eqEach {α : Type} (eq : α → α → Access Bool) : List α → List α → Access Bool
  | [], _ => .done true
  | _, [] => .done true
  | x :: xs, y :: ys => do
    if ← eq x y then
      eqEach eq xs ys
    else
      return false

/-- A check of each element of an array guards what each check does. -/
theorem guards_checkEach {α : Type} {check : α → Access Unit} {P : α → Prop}
    (h : ∀ x, Guards (check x) (P x) ()) (xs : List α) :
    Guards (checkEach check xs) (∀ x ∈ xs, P x) () := by
  induction xs with
  | nil => exact (guards_done _).iff (iff_of_true trivial fun _ h => by cases h)
  | cons x xs ih => exact ((h x).bind fun _ => ih).iff List.forall_mem_cons.symm

namespace Arr

variable {α : Type}

/-- An array, copied into a block of its length. -/
def copyFrom (cp : α → Access α) (xs : Arr α) : Access (Arr α) := do
  let ys ← copyEach cp xs.items
  return ⟨ys.1, by rw [ys.2]; exact xs.bound⟩

/-- **and a copy of each.** -/
theorem guards_copyEach {cp : α → Access α} {P : α → Prop} {g : α → α}
    (h : ∀ x, Guards (cp x) (P x) (g x)) (xs : List α) :
    Guards (copyEach cp xs) (∀ x ∈ xs, P x) ⟨xs.map g, List.length_map g⟩ := by
  induction xs with
  | nil => exact (guards_done _).iff (iff_of_true trivial fun _ h => by cases h)
  | cons x xs ih =>
    refine ((h x).bind fun _ => ?_).iff List.forall_mem_cons.symm
    exact ih.last fun _ => rfl

/-- **An array is copied** where each of its elements is. -/
theorem guards_copyFrom {cp : α → Access α} {P : α → Prop} {g : α → α}
    (h : ∀ x, Guards (cp x) (P x) (g x)) (xs : Arr α) :
    Guards (copyFrom cp xs) (∀ x ∈ xs.items, P x) (xs.map g) :=
  (guards_copyEach h xs.items).last fun _ => rfl

/-- An array is found equal to its image where each element is. -/
theorem eqEach_map {eq : α → α → Access Bool} {g : α → α} {xs : List α}
    (h : ∀ x ∈ xs, eq x (g x) = .done true) : eqEach eq xs (xs.map g) = .done true := by
  induction xs with
  | nil => rfl
  | cons x xs ih =>
    obtain ⟨hx, hxs⟩ := List.forall_mem_cons.mp h
    rw [List.map_cons, eqEach, Access.bind_of_done hx]
    exact ih hxs

/-- **Two arrays are compared** where each two elements can be, and are found equal. -/
theorem guards_eqEach₂ {eq : α → α → Access Bool} {P : α → Prop} {R : α → α → Prop}
    (h : ∀ x y, R x y → Guards (eq x y) (P x) true) {xs ys : List α} (hR : List.Forall₂ R xs ys) :
    Guards (eqEach eq xs ys) (∀ x ∈ xs, P x) true := by
  induction hR with
  | nil => exact (guards_done _).iff (iff_of_true trivial fun _ h => by cases h)
  | cons hxy _ ih => exact ((h _ _ hxy).bind fun _ => ih).iff List.forall_mem_cons.symm

/-- An array equals itself if its elements do. -/
theorem eqEach_self {eq : α → α → Access Bool} {xs : List α}
    (h : ∀ x ∈ xs, eq x x = .done true) : eqEach eq xs xs = .done true := by
  have hmap : eqEach eq xs (xs.map id) = .done true := eqEach_map h
  rwa [List.map_id] at hmap

/-- A copy without changes is the array. -/
theorem map_id (xs : Arr α) : xs.map id = xs := Arr.ext (List.map_id _)

/-- A mapped array is the same one only if no element changes. -/
theorem map_eq_self {g : α → α} {xs : Arr α} : xs.map g = xs ↔ ∀ x ∈ xs.items, g x = x := by
  rw [Arr.ext_iff]
  show xs.items.map g = xs.items ↔ _
  conv_lhs => rw [← List.map_id xs.items, List.map_map]
  exact List.map_inj_left

end Arr

/-! ## Floats -/

namespace FloatBits

/-- The bits but the sign. -/
def magnitude (x : FloatBits) : UInt32 := x &&& 0x7FFFFFFF

def isNaN (x : FloatBits) : Bool := 0x7F800000 < x.magnitude

def isZero (x : FloatBits) : Bool := x.magnitude = 0

/-- `x == y`. -/
def eq (x y : FloatBits) : Bool :=
  !x.isNaN && !y.isNaN && (x = y || x.isZero && y.isZero)

/-- `-1 * x`: the other sign. -/
def negated (x : FloatBits) : FloatBits := x ^^^ 0x80000000

/-- The same value: both zeros are one, and so are all NaNs. -/
def Same (x y : FloatBits) : Prop := x = y ∨ x.isZero ∧ y.isZero ∨ x.isNaN ∧ y.isNaN

instance (x y : FloatBits) : Decidable (Same x y) := inferInstanceAs (Decidable (_ ∨ _ ∨ _))

/-- A float is the same as itself. -/
theorem same_self (x : FloatBits) : Same x x := Or.inl rfl

/-- **and equal to itself unless it is a NaN.** -/
theorem eq_self (x : FloatBits) : x.eq x = !x.isNaN := by
  unfold FloatBits.eq
  rw [decide_eq_true rfl, Bool.true_or, Bool.and_true, Bool.and_self]

theorem magnitude_negated (x : FloatBits) : x.negated.magnitude = x.magnitude := by
  have hsign : (0x80000000 &&& 0x7FFFFFFF : UInt32) = 0 := by decide
  unfold negated magnitude
  rw [← UInt32.toNat_inj, UInt32.toNat_and, UInt32.toNat_xor, Nat.and_xor_distrib_right,
    ← UInt32.toNat_and, ← UInt32.toNat_and, hsign]
  exact Nat.xor_zero _

theorem negated_ne (x : FloatBits) : x.negated ≠ x := by
  intro h
  have hsign : x ^^^ (x ^^^ 0x80000000) = x ^^^ x := by rw [← negated, h]
  rw [← UInt32.xor_assoc, UInt32.xor_self, UInt32.zero_xor] at hsign
  exact absurd hsign (by decide)

/-- **A float is its own negative** where it is zero, or no number. -/
theorem negated_same_iff (x : FloatBits) : Same x.negated x ↔ x.isZero ∨ x.isNaN := by
  have hmag := x.magnitude_negated
  unfold Same isZero isNaN
  rw [hmag, and_self, and_self, or_iff_right x.negated_ne]

/-- Equal floats are the same, and no NaN is equal to anything. -/
theorem eq_iff {x y : FloatBits} :
    x.eq y = true ↔ x.Same y ∧ x.isNaN = false ∧ y.isNaN = false := by
  unfold FloatBits.eq Same
  rw [Bool.and_eq_true, Bool.and_eq_true, Bool.not_eq_true', Bool.not_eq_true', Bool.or_eq_true,
    Bool.and_eq_true, decide_eq_true_eq]
  constructor
  · rintro ⟨⟨hx, hy⟩, heq | hzero⟩
    · exact ⟨.inl heq, hx, hy⟩
    · exact ⟨.inr (.inl hzero), hx, hy⟩
  · rintro ⟨heq | hzero | hnan, hx, hy⟩
    · exact ⟨⟨hx, hy⟩, .inl heq⟩
    · exact ⟨⟨hx, hy⟩, .inr hzero⟩
    · rw [hx] at hnan
      exact absurd hnan.1 Bool.false_ne_true

/-- Neither zero is a NaN. -/
theorem isNaN_of_isZero {x : FloatBits} (h : x.isZero = true) : x.isNaN = false := by
  have hmag : x.magnitude = 0 := of_decide_eq_true h
  unfold isNaN
  rw [hmag]
  decide

/-- What is the same as a NaN is one. -/
theorem Same.isNaN_eq {x y : FloatBits} (h : x.Same y) : x.isNaN = y.isNaN := by
  obtain rfl | ⟨hx, hy⟩ | ⟨hx, hy⟩ := h
  · rfl
  · rw [isNaN_of_isZero hx, isNaN_of_isZero hy]
  · rw [hx, hy]

/-- Numbers of one value are `==`. -/
theorem Same.eq {x y : FloatBits} (h : x.Same y) (hx : x.isNaN = false) : x.eq y = true :=
  eq_iff.mpr ⟨h, hx, h.isNaN_eq ▸ hx⟩

end FloatBits

end Plain

end FlexRic
