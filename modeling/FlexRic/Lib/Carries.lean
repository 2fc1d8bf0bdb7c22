import FlexRic.Lib.Walk
import Mathlib.Data.List.Forall2

/-!
# FlexRic.Lib.Carries

A value through an encoder, a check of what it encoded, and a decoder.

* `Outcome.opt f` is `if(src != NULL) { dst = alloc(); *dst = f(*src); }`.
* `Carries enc sat dec x x'`: the encoder takes `x`, what it makes satisfies its
  constraints, and the decoder makes `x'` of it.  `x` comes back where
  `Carries enc sat dec x x`.
* `carries_walk`, `carries_opt`: a list and an optional field are carried
  element by element.
* `Arrives enc dec x x'` asks for no constraints, and `Back enc dec x` for `x`
  itself.  `arrives_two` and `arrives_three` take a structure apart,
  `arrives_choice` a union.
-/

namespace FlexRic

universe u v

namespace Outcome

variable {α β : Type u}

/-- Turn an optional field, if it is there. -/
def opt (f : α → Outcome β) : Option α → Outcome (Option β)
  | none => next none
  | some x => do
    let y ← f x
    return some y

/-- An absent field is not encoded. -/
@[simp] theorem opt_none (f : α → Outcome β) : opt f none = next none := rfl

/-- A present field is encoded as its value is. -/
@[simp] theorem opt_some (f : α → Outcome β) (x : α) :
    opt f (some x) = f x >>= fun y => next (some y) := rfl

end Outcome

open Outcome

/-- Encoded, found within its constraints, and decoded. -/
def Carries {α β : Type u} {γ : Type v} (enc : α → Outcome β) (sat : β → Bool)
    (dec : β → Outcome γ) (x : α) (x' : γ) : Prop :=
  ∃ y, enc x = next y ∧ sat y = true ∧ dec y = next x'

section Carries

variable {α β γ : Type u} {enc : α → Outcome β} {sat : β → Bool} {dec : β → Outcome γ}

/-- What is encoded is carried if it satisfies its constraints and is decoded. -/
theorem carries_next {y : β} {x' : γ} {x : α} (h : enc x = next y) :
    Carries enc sat dec x x' ↔ sat y = true ∧ dec y = next x' := by
  simp [Carries, h]

/-- **A list is carried** exactly when its elements are, one by one. -/
theorem carries_walk {xs : List α} {xs' : List γ} :
    Carries (walk enc) (fun ys => ys.all sat) (walk dec) xs xs' ↔
      List.Forall₂ (Carries enc sat dec) xs xs' := by
  induction xs generalizing xs' with
  | nil =>
    rw [carries_next (walk_nil enc), List.forall₂_nil_left_iff]
    simp [eq_comm]
  | cons x xs ih =>
    rw [List.forall₂_cons_left_iff]
    constructor
    · rintro ⟨ys, hys, hsat, hdec⟩
      obtain ⟨y, ys', hy, hys', rfl⟩ := walk_cons_eq_next.mp hys
      obtain ⟨x', xs'', hx', hxs'', rfl⟩ := walk_cons_eq_next.mp hdec
      simp only [List.all_cons, Bool.and_eq_true] at hsat
      exact ⟨x', xs'', ⟨y, hy, hsat.1, hx'⟩, ih.mp ⟨ys', hys', hsat.2, hxs''⟩, rfl⟩
    · rintro ⟨x', xs'', ⟨y, hy, hsat, hx'⟩, htail, rfl⟩
      obtain ⟨ys', hys', hall, hxs''⟩ := ih.mpr htail
      refine ⟨y :: ys', walk_cons_eq_next.mpr ⟨y, ys', hy, hys', rfl⟩, ?_,
        walk_cons_eq_next.mpr ⟨x', xs'', hx', hxs'', rfl⟩⟩
      simp only [List.all_cons, Bool.and_eq_true]
      exact ⟨hsat, hall⟩

/-- The size of a list is constrained too. -/
theorem carries_sized {size : Nat → Bool} {xs : List α} {xs' : List γ} :
    Carries (walk enc) (fun ys => size ys.length && ys.all sat) (walk dec) xs xs' ↔
      size xs.length = true ∧ List.Forall₂ (Carries enc sat dec) xs xs' := by
  rw [← carries_walk]
  constructor
  · rintro ⟨ys, hys, hsat, hdec⟩
    simp only [walk_length hys, Bool.and_eq_true] at hsat
    exact ⟨hsat.1, ys, hys, hsat.2, hdec⟩
  · rintro ⟨hsize, ys, hys, hsat, hdec⟩
    refine ⟨ys, hys, ?_, hdec⟩
    simp only [walk_length hys, Bool.and_eq_true]
    exact ⟨hsize, hsat⟩

/-- **An optional field is carried** exactly when what is in it is. -/
theorem carries_opt {x : Option α} {x' : Option γ} :
    Carries (opt enc) (Option.all sat) (opt dec) x x' ↔
      Option.Rel (Carries enc sat dec) x x' := by
  cases x with
  | none =>
    rw [carries_next (opt_none enc)]
    cases x' <;> simp
  | some x =>
    cases x' with
    | none => simp [Carries]
    | some x' => simp [Carries]

/-- **A list comes back exactly when its elements do** and its length is allowed. -/
theorem carries_sized_self {dec : β → Outcome α} (size : Nat → Bool) {xs : List α} :
    Carries (walk enc) (fun ys => size ys.length && ys.all sat) (walk dec) xs xs ↔
      size xs.length = true ∧ ∀ x ∈ xs, Carries enc sat dec x x := by
  rw [carries_sized, List.forall₂_same]

/-- An optional field comes back exactly when what is in it does. -/
theorem carries_opt_self {dec : β → Outcome α} {x : Option α} :
    Carries (opt enc) (Option.all sat) (opt dec) x x ↔ ∀ a ∈ x, Carries enc sat dec a a := by
  rw [carries_opt]
  cases x <;> simp

end Carries

/-! ## Without constraints -/

/-- Encoded, and decoded back. -/
def Back {α β : Type u} (enc : α → Outcome β) (dec : β → Outcome α) (x : α) : Prop :=
  ∃ y, enc x = next y ∧ dec y = next x

section Back

variable {α β : Type u} {enc : α → Outcome β} {dec : β → Outcome α}

/-- What is encoded comes back if it is decoded to itself. -/
theorem back_next {x : α} {y : β} (h : enc x = next y) : Back enc dec x ↔ dec y = next x := by
  simp [Back, h]

/-- **An optional field comes back** exactly when what is in it does. -/
theorem back_opt {x : Option α} : Back (opt enc) (opt dec) x ↔ ∀ a ∈ x, Back enc dec a := by
  cases x <;> simp [Back]

end Back

/-! ### What arrives -/

/-- Encoded, and decoded as `x'`. -/
def Arrives {α β γ : Type u} (enc : α → Outcome β) (dec : β → Outcome γ) (x : α) (x' : γ) : Prop :=
  ∃ y, enc x = next y ∧ dec y = next x'

section Arrives

variable {α β γ : Type u} {enc : α → Outcome β} {dec : β → Outcome γ}

/-- What is encoded arrives as what is decoded. -/
theorem arrives_next {x : α} {x' : γ} {y : β} (h : enc x = next y) :
    Arrives enc dec x x' ↔ dec y = next x' := by
  simp [Arrives, h]

/-- What is not encoded does not arrive. -/
theorem not_arrives {x : α} {x' : γ} {m : String} (h : enc x = abort m) :
    ¬ Arrives enc dec x x' := by
  simp [Arrives, h]

/-- Where neither side fails, what arrives is known. -/
theorem arrives_known {x : α} {x' z : γ} {y : β} (henc : enc x = next y) (hdec : dec y = next z) :
    Arrives enc dec x x' ↔ x' = z := by
  rw [arrives_next henc, hdec, next_inj, eq_comm]

/-- Without constraints, to be carried is to arrive. -/
theorem carries_true {x : α} {x' : γ} :
    Carries enc (fun _ => true) dec x x' ↔ Arrives enc dec x x' := by
  simp [Carries, Arrives]

/-- **A list arrives element by element.** -/
theorem arrives_walk {xs : List α} {xs' : List γ} :
    Arrives (walk enc) (walk dec) xs xs' ↔ List.Forall₂ (Arrives enc dec) xs xs' := by
  have hall : (fun ys : List β => ys.all fun _ => true) = fun _ => true := by
    funext ys
    simp
  have hone : Carries enc (fun _ => true) dec = Arrives enc dec := by
    funext x x'
    exact propext carries_true
  rw [← carries_true, ← hall, carries_walk, hone]

/-- An optional field arrives with what is in it. -/
theorem arrives_opt {x : Option α} {x' : Option γ} :
    Arrives (opt enc) (opt dec) x x' ↔ Option.Rel (Arrives enc dec) x x' := by
  cases x with
  | none =>
    rw [arrives_next (opt_none enc)]
    cases x' <;> simp
  | some x => cases x' <;> simp [Arrives]

/-- Related to itself: what is in it is. -/
theorem rel_self {R : α → α → Prop} {x : Option α} : Option.Rel R x x ↔ ∀ a ∈ x, R a a := by
  cases x <;> simp

variable {α₁ α₂ α₃ α₄ β₁ β₂ β₃ β₄ γ₁ γ₂ γ₃ γ₄ : Type u}
  {e₁ : α₁ → Outcome β₁} {e₂ : α₂ → Outcome β₂} {e₃ : α₃ → Outcome β₃} {e₄ : α₄ → Outcome β₄}
  {d₁ : β₁ → Outcome γ₁} {d₂ : β₂ → Outcome γ₂} {d₃ : β₃ → Outcome γ₃} {d₄ : β₄ → Outcome γ₄}

/-- **A structure of two parts arrives part by part.** -/
theorem arrives_two {mk : β₁ → β₂ → β} {mk' : γ₁ → γ₂ → γ} {x : α} {x' : γ} {a₁ : α₁} {a₂ : α₂}
    {a₁' : γ₁} {a₂' : γ₂}
    (henc : enc x = e₁ a₁ >>= fun y₁ => e₂ a₂ >>= fun y₂ => next (mk y₁ y₂))
    (hdec : ∀ y₁ y₂, dec (mk y₁ y₂) = d₁ y₁ >>= fun z₁ => d₂ y₂ >>= fun z₂ => next (mk' z₁ z₂))
    (hx' : ∀ z₁ z₂, mk' z₁ z₂ = x' ↔ z₁ = a₁' ∧ z₂ = a₂') :
    Arrives enc dec x x' ↔ Arrives e₁ d₁ a₁ a₁' ∧ Arrives e₂ d₂ a₂ a₂' := by
  simp only [Arrives, henc, bind_eq_next, next_inj]
  constructor
  · rintro ⟨y, ⟨y₁, h₁, y₂, h₂, rfl⟩, hy⟩
    simp only [hdec, bind_eq_next, next_inj, hx'] at hy
    obtain ⟨z₁, k₁, z₂, k₂, rfl, rfl⟩ := hy
    exact ⟨⟨y₁, h₁, k₁⟩, y₂, h₂, k₂⟩
  · rintro ⟨⟨y₁, h₁, k₁⟩, y₂, h₂, k₂⟩
    refine ⟨mk y₁ y₂, ⟨y₁, h₁, y₂, h₂, rfl⟩, ?_⟩
    rw [hdec, k₁, next_bind, k₂, next_bind, (hx' a₁' a₂').mpr ⟨rfl, rfl⟩]

/-- A structure of three parts arrives part by part. -/
theorem arrives_three {mk : β₁ → β₂ → β₃ → β} {mk' : γ₁ → γ₂ → γ₃ → γ} {x : α} {x' : γ}
    {a₁ : α₁} {a₂ : α₂} {a₃ : α₃} {a₁' : γ₁} {a₂' : γ₂} {a₃' : γ₃}
    (henc : enc x = e₁ a₁ >>= fun y₁ => e₂ a₂ >>= fun y₂ => e₃ a₃ >>= fun y₃ =>
      next (mk y₁ y₂ y₃))
    (hdec : ∀ y₁ y₂ y₃, dec (mk y₁ y₂ y₃) = d₁ y₁ >>= fun z₁ => d₂ y₂ >>= fun z₂ =>
      d₃ y₃ >>= fun z₃ => next (mk' z₁ z₂ z₃))
    (hx' : ∀ z₁ z₂ z₃, mk' z₁ z₂ z₃ = x' ↔ z₁ = a₁' ∧ z₂ = a₂' ∧ z₃ = a₃') :
    Arrives enc dec x x' ↔ Arrives e₁ d₁ a₁ a₁' ∧ Arrives e₂ d₂ a₂ a₂' ∧ Arrives e₃ d₃ a₃ a₃' := by
  simp only [Arrives, henc, bind_eq_next, next_inj]
  constructor
  · rintro ⟨y, ⟨y₁, h₁, y₂, h₂, y₃, h₃, rfl⟩, hy⟩
    simp only [hdec, bind_eq_next, next_inj, hx'] at hy
    obtain ⟨z₁, k₁, z₂, k₂, z₃, k₃, rfl, rfl, rfl⟩ := hy
    exact ⟨⟨y₁, h₁, k₁⟩, ⟨y₂, h₂, k₂⟩, y₃, h₃, k₃⟩
  · rintro ⟨⟨y₁, h₁, k₁⟩, ⟨y₂, h₂, k₂⟩, y₃, h₃, k₃⟩
    refine ⟨mk y₁ y₂ y₃, ⟨y₁, h₁, y₂, h₂, y₃, h₃, rfl⟩, ?_⟩
    rw [hdec, k₁, next_bind, k₂, next_bind, k₃, next_bind, (hx' a₁' a₂' a₃').mpr ⟨rfl, rfl, rfl⟩]

/-- A structure of four parts arrives part by part. -/
theorem arrives_four {mk : β₁ → β₂ → β₃ → β₄ → β} {mk' : γ₁ → γ₂ → γ₃ → γ₄ → γ} {x : α} {x' : γ}
    {a₁ : α₁} {a₂ : α₂} {a₃ : α₃} {a₄ : α₄} {a₁' : γ₁} {a₂' : γ₂} {a₃' : γ₃} {a₄' : γ₄}
    (henc : enc x = e₁ a₁ >>= fun y₁ => e₂ a₂ >>= fun y₂ => e₃ a₃ >>= fun y₃ =>
      e₄ a₄ >>= fun y₄ => next (mk y₁ y₂ y₃ y₄))
    (hdec : ∀ y₁ y₂ y₃ y₄, dec (mk y₁ y₂ y₃ y₄) = d₁ y₁ >>= fun z₁ => d₂ y₂ >>= fun z₂ =>
      d₃ y₃ >>= fun z₃ => d₄ y₄ >>= fun z₄ => next (mk' z₁ z₂ z₃ z₄))
    (hx' : ∀ z₁ z₂ z₃ z₄, mk' z₁ z₂ z₃ z₄ = x' ↔ z₁ = a₁' ∧ z₂ = a₂' ∧ z₃ = a₃' ∧ z₄ = a₄') :
    Arrives enc dec x x' ↔ Arrives e₁ d₁ a₁ a₁' ∧ Arrives e₂ d₂ a₂ a₂' ∧ Arrives e₃ d₃ a₃ a₃' ∧
      Arrives e₄ d₄ a₄ a₄' := by
  simp only [Arrives, henc, bind_eq_next, next_inj]
  constructor
  · rintro ⟨y, ⟨y₁, h₁, y₂, h₂, y₃, h₃, y₄, h₄, rfl⟩, hy⟩
    simp only [hdec, bind_eq_next, next_inj, hx'] at hy
    obtain ⟨z₁, k₁, z₂, k₂, z₃, k₃, z₄, k₄, rfl, rfl, rfl, rfl⟩ := hy
    exact ⟨⟨y₁, h₁, k₁⟩, ⟨y₂, h₂, k₂⟩, ⟨y₃, h₃, k₃⟩, y₄, h₄, k₄⟩
  · rintro ⟨⟨y₁, h₁, k₁⟩, ⟨y₂, h₂, k₂⟩, ⟨y₃, h₃, k₃⟩, y₄, h₄, k₄⟩
    refine ⟨mk y₁ y₂ y₃ y₄, ⟨y₁, h₁, y₂, h₂, y₃, h₃, y₄, h₄, rfl⟩, ?_⟩
    rw [hdec, k₁, next_bind, k₂, next_bind, k₃, next_bind, k₄, next_bind,
      (hx' a₁' a₂' a₃' a₄').mpr ⟨rfl, rfl, rfl, rfl⟩]

/-- **A member of a union arrives** as the same member. -/
theorem arrives_choice {mk : β₁ → β} {mk' : γ₁ → γ} {x : α} {x' : γ} {a : α₁}
    (henc : enc x = e₁ a >>= fun y => next (mk y))
    (hdec : ∀ y, dec (mk y) = d₁ y >>= fun z => next (mk' z)) :
    Arrives enc dec x x' ↔ ∃ a', mk' a' = x' ∧ Arrives e₁ d₁ a a' := by
  simp only [Arrives, henc, bind_eq_next, next_inj]
  constructor
  · rintro ⟨y, ⟨y₁, h₁, rfl⟩, hy⟩
    simp only [hdec, bind_eq_next, next_inj] at hy
    obtain ⟨z, hz, rfl⟩ := hy
    exact ⟨z, rfl, y₁, h₁, hz⟩
  · rintro ⟨a', rfl, y₁, h₁, k₁⟩
    exact ⟨mk y₁, ⟨y₁, h₁, rfl⟩, by rw [hdec, k₁, next_bind]⟩

end Arrives

/-! ### What an encoder makes -/

/-- What the encoder makes of a value satisfies its constraints exactly when the
value has `P`. -/
def Meets {α β : Type u} (enc : α → Outcome β) (P : α → Bool) (sat : β → Bool) : Prop :=
  ∀ ⦃x y⦄, enc x = next y → sat y = P x

section Meets

variable {α β : Type u} {enc : α → Outcome β} {P : α → Bool} {sat : β → Bool}

/-- The elements of a list meet a property one by one. -/
theorem Meets.walk (h : Meets enc P sat) {xs : List α} {ys : List β}
    (hys : Outcome.walk enc xs = next ys) : ys.all sat = xs.all P := by
  induction xs generalizing ys with
  | nil =>
    cases hys
    rfl
  | cons x xs ih =>
    obtain ⟨y, ys', hy, hys', rfl⟩ := walk_cons_eq_next.mp hys
    rw [List.all_cons, List.all_cons, h hy, ih hys']

/-- An optional field meets a property where it is present. -/
theorem Meets.opt (h : Meets enc P sat) {x : Option α} {y : Option β}
    (hy : Outcome.opt enc x = next y) : y.all sat = x.all P := by
  cases x with
  | none =>
    cases hy
    rfl
  | some x =>
    simp only [opt_some, bind_eq_next, next_inj] at hy
    obtain ⟨y', hy', rfl⟩ := hy
    rw [Option.all_some, Option.all_some, h hy']

end Meets

/-- A list related by a function is its image. -/
theorem forall₂_eq_map {α : Type u} {β : Type v} {f : α → β} {xs : List α} {ys : List β} :
    List.Forall₂ (fun x y => y = f x) xs ys ↔ ys = xs.map f := by
  induction xs generalizing ys with
  | nil => rw [List.forall₂_nil_left_iff, List.map_nil]
  | cons x xs ih => simp [List.forall₂_cons_left_iff, ih]

/-- What stands in one of two related lists has its partner in the other. -/
theorem exists_of_mem_forall₂ {α : Type u} {β : Type v} {R : α → β → Prop} {xs : List α}
    {ys : List β} (h : List.Forall₂ R xs ys) {y : β} (hy : y ∈ ys) : ∃ x ∈ xs, R x y := by
  induction h with
  | nil => cases hy
  | @cons x y' xs ys hR _ ih =>
    rcases List.mem_cons.mp hy with rfl | hy
    · exact ⟨x, List.mem_cons_self, hR⟩
    · obtain ⟨x', hx', hR'⟩ := ih hy
      exact ⟨x', List.mem_cons_of_mem x hx', hR'⟩

/-- Elements that are related agree on a property where related elements do. -/
theorem forall_mem_iff_of_forall₂ {α : Type u} {β : Type v} {R : α → β → Prop} {P : α → Prop}
    {Q : β → Prop} {xs : List α} {ys : List β} (hxy : List.Forall₂ R xs ys)
    (h : ∀ x y, R x y → (Q y ↔ P x)) : (∀ y ∈ ys, Q y) ↔ ∀ x ∈ xs, P x := by
  induction hxy with
  | nil => simp
  | cons hR _ ih => rw [List.forall_mem_cons, List.forall_mem_cons, h _ _ hR, ih]

/-- Where one list has both relations to another, each element has them to one. -/
theorem exists_forall₂_and {α : Type u} {β : Type v} {R S : α → β → Prop} {xs : List α} :
    (∃ ys, List.Forall₂ R xs ys ∧ List.Forall₂ S xs ys) ↔ ∀ x ∈ xs, ∃ y, R x y ∧ S x y := by
  induction xs with
  | nil => simp
  | cons x xs ih =>
    rw [List.forall_mem_cons, ← ih]
    constructor
    · rintro ⟨ys, hR, hS⟩
      obtain ⟨y, ys', hRy, hRys, rfl⟩ := List.forall₂_cons_left_iff.mp hR
      obtain ⟨hSy, hSys⟩ := List.forall₂_cons.mp hS
      exact ⟨⟨y, hRy, hSy⟩, ys', hRys, hSys⟩
    · rintro ⟨⟨y, hRy, hSy⟩, ys, hR, hS⟩
      exact ⟨y :: ys, .cons hRy hR, .cons hSy hS⟩

end FlexRic
