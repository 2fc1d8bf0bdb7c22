import FlexRic.Lib.Compare

/-!
# FlexRic.Lib.Yields

Functions that hand over one value under a condition, and nothing elsewhere: a copy, the comparison
of a value with itself, a release.

* `Outcome.Yields x P a`: `x` is `a` where `P` holds, and no value is handed over where it does not.
* The rules follow the code: an assertion, one step after the other (`Yields.bind`), arrays
  (`yields_walk`, `yields_allEq_self`, `yields_each`), optional fields (`yields_opt`), trees of arrays.
-/

namespace FlexRic

universe u

namespace Outcome

variable {α β : Type u}

/-- A step hands over `a` where `P` holds, and nothing elsewhere. -/
def Yields (x : Outcome α) (P : Prop) (a : α) : Prop := ∀ b, x = next b ↔ P ∧ a = b

section

variable {x : Outcome α} {P Q : Prop} {a : α}

/-- A step without assertions yields its value. -/
theorem yields_next (a : α) : (next a).Yields True a := fun b => by
  rw [next_inj, true_and]

/-- An assertion yields nothing, where its condition holds. -/
theorem yields_assert (c : Bool) (msg : String) :
    (assert c msg : Outcome PUnit.{u + 1}).Yields (c = true) ⟨⟩ := fun b => by
  rw [assert_eq_next]
  exact (and_iff_left rfl).symm

/-- The condition may be put in other words. -/
theorem Yields.iff (h : x.Yields P a) (hPQ : P ↔ Q) : x.Yields Q a := by
  rwa [propext hPQ] at h

/-- A step has its result where its condition holds. -/
theorem Yields.eq_next (h : x.Yields P a) (hP : P) : x = next a := (h a).mpr ⟨hP, rfl⟩

/-- A step returns exactly where its condition holds. -/
theorem Yields.returns (h : x.Yields P a) : x.Returns ↔ P := by
  constructor
  · rintro ⟨b, hb⟩
    exact ((h b).mp hb).1
  · exact fun hP => ⟨a, h.eq_next hP⟩

/-- A comparison that holds if it is decided at all. -/
theorem Agrees.yields {x : Outcome Bool} (h : x.Agrees) (hx : x.Returns ↔ P) :
    x.Yields P true := by
  intro b
  constructor
  · rintro rfl
    exact ⟨hx.mp (returns_next b), (h b rfl).symm⟩
  · rintro ⟨hP, rfl⟩
    exact h.eq_next (hx.mpr hP)

/-- **One after the other.** -/
theorem Yields.bind {f : α → Outcome β} {b : β} (h : x.Yields P a)
    (h' : P → (f a).Yields Q b) : (x >>= f).Yields (P ∧ Q) b := by
  intro c
  rw [bind_eq_next]
  constructor
  · rintro ⟨a', hx, hf⟩
    obtain ⟨hP, rfl⟩ := (h a').mp hx
    obtain ⟨hQ, rfl⟩ := (h' hP c).mp hf
    exact ⟨⟨hP, hQ⟩, rfl⟩
  · rintro ⟨⟨hP, hQ⟩, rfl⟩
    exact ⟨a, h.eq_next hP, (h' hP).eq_next hQ⟩

/-- The rest cannot fail. -/
theorem Yields.last {g : α → β} {b : β} (h : x.Yields P a) (hg : P → g a = b) :
    (x >>= fun a => next (g a)).Yields P b := by
  refine (h.bind fun hP => ?_).iff (and_iff_left trivial)
  rw [hg hP]
  exact yields_next b

end

/-! ## Arrays and optional fields -/

/-- **An array is copied** where each of its elements is. -/
theorem yields_walk {cp : α → Outcome β} {P : α → Prop} {g : α → β} {xs : List α}
    (h : ∀ x ∈ xs, (cp x).Yields (P x) (g x)) :
    (walk cp xs).Yields (∀ x ∈ xs, P x) (xs.map g) := by
  induction xs with
  | nil => exact (yields_next _).iff (iff_of_true trivial fun _ h => nomatch h)
  | cons x xs ih =>
    rw [List.forall_mem_cons] at h
    exact (h.1.bind fun _ => (ih h.2).last fun _ => rfl).iff List.forall_mem_cons.symm

/-- **An array is copied element by element.** -/
theorem yields_walk_self {cp : α → Outcome α} {P : α → Prop} {xs : List α}
    (h : ∀ x ∈ xs, (cp x).Yields (P x) x) : (walk cp xs).Yields (∀ x ∈ xs, P x) xs := by
  have hmap := yields_walk (g := id) h
  rwa [List.map_id] at hmap

/-- An optional field is copied where it is present. -/
theorem yields_opt {cp : α → Outcome α} {P : α → Prop} (h : ∀ a, (cp a).Yields (P a) a)
    (o : Option α) : (opt cp o).Yields (∀ a ∈ o, P a) o := by
  cases o with
  | none => exact (yields_next _).iff (iff_of_true trivial fun _ h => nomatch h)
  | some a => exact ((h a).last fun _ => rfl).iff (by simp)

/-- An array is freed element by element. -/
theorem yields_each {f : α → Outcome PUnit.{u + 1}} {P : α → Prop} {xs : List α}
    (h : ∀ x ∈ xs, (f x).Yields (P x) ⟨⟩) : (each f xs).Yields (∀ x ∈ xs, P x) ⟨⟩ :=
  (yields_walk (g := fun _ => ⟨⟩) h).last fun _ => rfl

/-! ## Comparisons with itself -/

section

variable {x y : Outcome Bool} {P Q : Prop}

/-- Two comparisons ask for both conditions. -/
theorem Yields.both (h : x.Yields P true) (h' : y.Yields Q true) :
    (Outcome.both x y).Yields (P ∧ Q) true := h.bind fun _ => h'

/-- The first comparison, of a field with itself, holds. -/
theorem Yields.after {b : Bool} (h : y.Yields Q true) (hb : b = true) :
    (Outcome.both (next b) y).Yields Q true := by
  rw [hb]
  exact h

theorem Yields.must (h : x.Yields P true) : (Outcome.must x).Yields P ⟨⟩ :=
  (h.bind fun _ => yields_assert true _).iff (and_iff_left rfl)

end

section

/-- An array is compared with its image where each of its elements is. -/
theorem yields_allEqUpTo_map {f : α → α → Outcome Bool} {P : α → Prop} {g : α → α} {xs : List α}
    (h : ∀ x ∈ xs, (f (g x) x).Yields (P x) true) :
    (allEqUpTo f (xs.map g) xs).Yields (∀ x ∈ xs, P x) true := by
  induction xs with
  | nil => exact (yields_next _).iff (iff_of_true trivial fun _ h => nomatch h)
  | cons x xs ih =>
    rw [List.forall_mem_cons] at h
    exact (h.1.both (ih h.2)).iff List.forall_mem_cons.symm

/-- A copy is compared with what it was made from. -/
theorem yields_allEqMust_map {f : α → α → Outcome Bool} {P : α → Prop} {g : α → α} {xs : List α}
    (h : ∀ x ∈ xs, (f (g x) x).Yields (P x) true) :
    (allEqMust f (xs.map g) xs).Yields (∀ x ∈ xs, P x) true := by
  rw [allEqMust, List.length_map, beq_self_eq_true, both_true]
  exact (yields_allEqUpTo_map h).must.last fun _ => rfl

variable {f : α → α → Outcome Bool} {P : α → Prop} {xs : List α}

/-- **An array is compared with itself** where each of its elements is. -/
theorem yields_allEqUpTo_self (h : ∀ x ∈ xs, (f x x).Yields (P x) true) :
    (allEqUpTo f xs xs).Yields (∀ x ∈ xs, P x) true := by
  have hmap := yields_allEqUpTo_map (g := id) h
  rwa [List.map_id] at hmap

/-- **An array equals itself** under the condition of its elements. -/
theorem yields_allEq_self (h : ∀ x ∈ xs, (f x x).Yields (P x) true) :
    (allEq f xs xs).Yields (∀ x ∈ xs, P x) true := by
  rw [allEq, if_pos rfl]
  exact yields_allEqUpTo_self h

theorem yields_allEqMust_self (h : ∀ x ∈ xs, (f x x).Yields (P x) true) :
    (allEqMust f xs xs).Yields (∀ x ∈ xs, P x) true := by
  have hmap := yields_allEqMust_map (g := id) h
  rwa [List.map_id] at hmap

theorem yields_eqOptional_self (h : ∀ a, (f a a).Yields (P a) true) (o : Option α) :
    (eqOptional f o o).Yields (∀ a ∈ o, P a) true := by
  cases o with
  | none => exact (yields_next _).iff (iff_of_true trivial fun _ h => nomatch h)
  | some a => exact (h a).iff (by simp)

end

end Outcome

end FlexRic
