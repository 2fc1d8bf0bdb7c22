import FlexRic.Lib.Machine
import Mathlib.Data.List.Basic

/-!
# FlexRic.Lib.Walk

Loops over arrays whose body can fail an assertion, as encoders and decoders
of lists are made of.

* `Outcome.walk f xs` is `for(i = 0; i < len; ++i) dst[i] = f(src[i]);`.
* `walk_roundTrip_iff`: what the elements survive, the array survives, and
  nothing more.
* `walk_stops`: one element that cannot be taken stops the loop.
* `forall_iff_walk`: what is decided element by element is decided for the array.
* `Outcome.fold` is a loop whose body changes a state.
-/

namespace FlexRic

universe u

namespace Outcome

variable {α β : Type u}

/-- Turn each element of an array, stopping at the first that fails. -/
def walk (f : α → Outcome β) : List α → Outcome (List β)
  | [] => next []
  | x :: xs => do
    let y ← f x
    let ys ← walk f xs
    return y :: ys

@[simp] theorem walk_nil (f : α → Outcome β) : walk f [] = next [] := rfl

/-- A loop goes on if its first turn does, and the others. -/
@[simp] theorem walk_cons_eq_next {f : α → Outcome β} {x : α} {xs : List α} {zs : List β} :
    walk f (x :: xs) = next zs ↔ ∃ y ys, f x = next y ∧ walk f xs = next ys ∧ y :: ys = zs := by
  simp [walk]

/-- A walk gives one result for each element. -/
theorem walk_length {f : α → Outcome β} {xs : List α} {ys : List β} (h : walk f xs = next ys) :
    ys.length = xs.length := by
  induction xs generalizing ys with
  | nil =>
    cases h
    rfl
  | cons x xs ih =>
    obtain ⟨y, ys', -, hys, rfl⟩ := walk_cons_eq_next.mp h
    rw [List.length_cons, List.length_cons, ih hys]

/-- Every element stored comes from an element of the array. -/
theorem exists_of_mem_walk {f : α → Outcome β} {xs : List α} {ys : List β}
    (h : walk f xs = next ys) {y : β} (hy : y ∈ ys) : ∃ x ∈ xs, f x = next y := by
  induction xs generalizing ys with
  | nil =>
    cases h
    cases hy
  | cons x xs ih =>
    obtain ⟨y', ys', hy', hys, rfl⟩ := walk_cons_eq_next.mp h
    rcases List.mem_cons.mp hy with rfl | hy
    · exact ⟨x, List.mem_cons_self, hy'⟩
    · obtain ⟨x', hx', hfx⟩ := ih hys hy
      exact ⟨x', List.mem_cons_of_mem x hx', hfx⟩

/-- Turning the elements of a list first is part of the loop. -/
theorem walk_map {γ : Type u} (f : β → Outcome γ) (g : α → β) (xs : List α) :
    walk f (xs.map g) = walk (fun x => f (g x)) xs := by
  induction xs with
  | nil => rfl
  | cons x xs ih => rw [List.map_cons, walk, walk, ih]

/-- **Round trip of a list**: where decoding undoes the encoding of an element
exactly when the element has `P`, it undoes that of a list exactly when they
all have. -/
theorem walk_roundTrip_iff {enc : α → Outcome β} {dec : β → Outcome α} {P : α → Prop}
    {xs : List α} {ys : List β} (h : walk enc xs = next ys)
    (hdec : ∀ x, ∀ y ∈ ys, enc x = next y → (dec y = next x ↔ P x)) :
    walk dec ys = next xs ↔ ∀ x ∈ xs, P x := by
  induction xs generalizing ys with
  | nil =>
    cases h
    simp
  | cons x xs ih =>
    obtain ⟨y, ys', hy, hys, rfl⟩ := walk_cons_eq_next.mp h
    have hhead := hdec x y List.mem_cons_self hy
    have htail := ih hys fun x' y' hy' => hdec x' y' (List.mem_cons_of_mem y hy')
    rw [walk_cons_eq_next, List.forall_mem_cons, ← hhead, ← htail]
    constructor
    · rintro ⟨x', xs', hx', hxs', heq⟩
      cases heq
      exact ⟨hx', hxs'⟩
    · rintro ⟨hx', hxs'⟩
      exact ⟨x, xs, hx', hxs', rfl⟩

/-- What every element survives, the list survives. -/
theorem walk_roundTrip {enc : α → Outcome β} {dec : β → Outcome α} {xs : List α} {ys : List β}
    (h : walk enc xs = next ys) (hdec : ∀ x, ∀ y ∈ ys, enc x = next y → dec y = next x) :
    walk dec ys = next xs :=
  (walk_roundTrip_iff (P := fun _ => True) h fun x y hy hx =>
    iff_true_intro (hdec x y hy hx)).mpr fun _ _ => trivial

/-- An element that cannot be taken stops the loop. -/
theorem walk_stops {f : α → Outcome β} {xs : List α} {x : α} (hx : x ∈ xs)
    (hstop : ∀ y, f x ≠ next y) (ys : List β) : walk f xs ≠ next ys := by
  induction xs generalizing ys with
  | nil => cases hx
  | cons x' xs ih =>
    intro h
    obtain ⟨y, ys', hy, hys, rfl⟩ := walk_cons_eq_next.mp h
    rcases List.mem_cons.mp hx with rfl | hx
    · exact hstop y hy
    · exact ih hx ys' hys

/-- A body that only checks its element, and what the loop makes of the array then. -/
theorem walk_eq_next_iff_map {f : α → Outcome β} {P : α → Prop} {g : α → β}
    (h : ∀ x y, f x = next y ↔ P x ∧ g x = y) {xs : List α} {ys : List β} :
    walk f xs = next ys ↔ (∀ x ∈ xs, P x) ∧ xs.map g = ys := by
  induction xs generalizing ys with
  | nil => simp
  | cons x xs ih =>
    rw [walk_cons_eq_next, List.forall_mem_cons, List.map_cons]
    constructor
    · rintro ⟨y, ys', hy, hys, rfl⟩
      obtain ⟨hx, rfl⟩ := (h x y).mp hy
      obtain ⟨hxs, rfl⟩ := ih.mp hys
      exact ⟨⟨hx, hxs⟩, rfl⟩
    · rintro ⟨⟨hx, hxs⟩, rfl⟩
      exact ⟨g x, xs.map g, (h x _).mpr ⟨hx, rfl⟩, ih.mpr ⟨hxs, rfl⟩, rfl⟩

/-- What the elements decide one by one, the loop decides for all of them: it gets through with
every result in `Q` exactly when each element has `P`. -/
theorem forall_iff_walk {f : α → Outcome β} {P : α → Prop} {Q : β → Prop}
    (h : ∀ x, P x ↔ ∃ y, f x = next y ∧ Q y) (xs : List α) :
    (∀ x ∈ xs, P x) ↔ ∃ ys, walk f xs = next ys ∧ ∀ y ∈ ys, Q y := by
  induction xs with
  | nil => simp
  | cons x xs ih =>
    rw [List.forall_mem_cons, h, ih]
    constructor
    · rintro ⟨⟨y, hy, hQ⟩, ys, hys, hQs⟩
      exact ⟨y :: ys, walk_cons_eq_next.mpr ⟨y, ys, hy, hys, rfl⟩, List.forall_mem_cons.mpr ⟨hQ, hQs⟩⟩
    · rintro ⟨zs, hzs, hQs⟩
      obtain ⟨y, ys, hy, hys, rfl⟩ := walk_cons_eq_next.mp hzs
      obtain ⟨hQ, hQs⟩ := List.forall_mem_cons.mp hQs
      exact ⟨⟨y, hy, hQ⟩, ys, hys, hQs⟩

/-! ### Functions that never wait

Encoders and decoders get through or fail an assertion: there is nothing in them to wait for. -/

/-- A sequence waits in one of its parts. -/
@[simp] theorem bind_eq_blocked {x : Outcome α} {f : α → Outcome β} :
    (x >>= f) = blocked ↔ x = blocked ∨ ∃ a, x = next a ∧ f a = blocked := by
  cases x <;> simp

@[simp] theorem assert_ne_blocked {c : Bool} {m : String} : assert.{u} c m ≠ blocked := by
  cases c <;> simp [assert]

@[simp] theorem expect_ne_blocked {o : Option α} {m : String} : expect o m ≠ blocked := by
  cases o <;> simp [expect]

/-- A loop waits only where its body does. -/
theorem walk_ne_blocked {f : α → Outcome β} (h : ∀ x, f x ≠ blocked) (xs : List α) :
    walk f xs ≠ blocked := by
  induction xs with
  | nil => simp
  | cons x xs ih => simp [walk, h, ih]

/-- What never waits ends the process where it does not get through. -/
theorem aborts_iff_not_next {x : Outcome α} (h : x ≠ blocked) :
    x.Aborts ↔ ¬ ∃ a, x = next a := by
  cases x with
  | next a => simp
  | abort m => simp
  | blocked => exact absurd rfl h

/-! ### Loops with a state -/

variable {σ : Type u}

/-- A loop whose body changes a state. -/
def fold (f : σ → α → Outcome σ) : σ → List α → Outcome σ
  | s, [] => next s
  | s, x :: xs => do
    let s ← f s x
    fold f s xs

@[simp] theorem fold_nil (f : σ → α → Outcome σ) (s : σ) : fold f s [] = next s := rfl

/-- A loop with a state takes its first turn first. -/
@[simp] theorem fold_cons (f : σ → α → Outcome σ) (s : σ) (x : α) (xs : List α) :
    fold f s (x :: xs) = f s x >>= fun s => fold f s xs := rfl

/-- A loop with a state waits only where its body does. -/
theorem fold_ne_blocked {f : σ → α → Outcome σ} (h : ∀ s x, f s x ≠ blocked) (s : σ)
    (xs : List α) : fold f s xs ≠ blocked := by
  induction xs generalizing s with
  | nil => simp
  | cons x xs ih => simp [h, ih]

end Outcome

end FlexRic
