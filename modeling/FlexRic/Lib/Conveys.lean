import FlexRic.Lib.Carries
import FlexRic.Lib.Yields

/-!
# FlexRic.Lib.Conveys

What an encoder made of a value, held against its constraints and decoded.

* `Conveys o sat dec x S D`: the encoding `o` is there and within the constraints `sat` exactly
  where `S`; and where it is, decoding it hands over `x` exactly where `D`, and nothing else.
* The rules follow the structures: `conveys_one` to `conveys_six` for the parts of a record, a
  member of a union being a record of one part, `conveys_walk` for arrays, `conveys_opt` for
  optional fields.
* `Conveys.guard`, `Conveys.checks`, `Conveys.within`: an assertion of the encoder, one of the
  decoder, a constraint.
-/

namespace FlexRic

universe u

namespace Outcome

/-- Steps in brackets. -/
theorem bind_bind {α β γ : Type u} (x : Outcome α) (f : α → Outcome β) (g : β → Outcome γ) :
    (x >>= f) >>= g = x >>= fun a => f a >>= g := by
  cases x <;> rfl

/-- A last step that does nothing. -/
theorem bind_next {α : Type u} (x : Outcome α) : (x >>= fun a => next a) = x := by
  cases x <;> rfl

end Outcome

open Outcome

/-- The encoding is there and within its constraints where `S`, and is then decoded as `x` where
`D`. -/
structure Conveys {β γ : Type u} (o : Outcome β) (sat : β → Bool) (dec : β → Outcome γ) (x : γ)
    (S D : Prop) : Prop where
  sends : (∃ y, o = next y ∧ sat y = true) ↔ S
  arrives : ∀ y, o = next y → sat y = true → (dec y).Yields D x

namespace Conveys

variable {α β γ : Type u} {o : Outcome β} {sat : β → Bool} {dec : β → Outcome γ} {x : γ}
  {S S' D D' : Prop}

/-- Both conditions of a conveyance may be put in other words. -/
theorem iff (h : Conveys o sat dec x S D) (hS : S ↔ S') (hD : D ↔ D') :
    Conveys o sat dec x S' D' := by
  rwa [propext hS, propext hD] at h

/-- Where the decoder cannot fail. -/
theorem always (h : Conveys o sat dec x S D) (hS : S ↔ S') (hD : D) :
    Conveys o sat dec x S' True :=
  h.iff hS (iff_true_intro hD)

/-! ### Assertions and constraints -/

/-- The encoder asserts `c` first. -/
theorem guard (h : Conveys o sat dec x S D) (c : Bool) (m : String) :
    Conveys (assert c m >>= fun _ => o) sat dec x (c = true ∧ S) D where
  sends := by
    simp only [bind_eq_next, assert_eq_next, exists_const, exists_and_left, and_assoc, h.sends]
  arrives := fun y hy hsat => by
    simp only [bind_eq_next, assert_eq_next] at hy
    obtain ⟨_, -, hy⟩ := hy
    exact h.arrives y hy hsat

/-- The decoder asserts `c` first. -/
theorem checks {c : β → Bool} {C : Prop} {m : String} (h : Conveys o sat dec x S D)
    (hc : ∀ y, o = next y → sat y = true → (c y = true ↔ C)) :
    Conveys o sat (fun y => assert (c y) m >>= fun _ => dec y) x S (C ∧ D) where
  sends := h.sends
  arrives := fun y hy hsat =>
    ((yields_assert _ _).bind fun _ => h.arrives y hy hsat).iff (and_congr_left' (hc y hy hsat))

/-- There is one more constraint, `q`. -/
theorem within {q : β → Bool} {Q : Prop} (h : Conveys o sat dec x S D)
    (hq : ∀ y, o = next y → (q y = true ↔ Q)) :
    Conveys o (fun y => q y && sat y) dec x (Q ∧ S) D where
  sends := by
    rw [← h.sends]
    constructor
    · rintro ⟨y, hy, hsat⟩
      rw [Bool.and_eq_true, hq y hy] at hsat
      exact ⟨hsat.1, y, hy, hsat.2⟩
    · rintro ⟨hQ, y, hy, hsat⟩
      exact ⟨y, hy, by rw [Bool.and_eq_true, hq y hy]; exact ⟨hQ, hsat⟩⟩
  arrives := fun y hy hsat => h.arrives y hy ((Bool.and_eq_true _ _ ▸ hsat).2)

end Conveys

section

variable {β γ β₁ β₂ β₃ β₄ β₅ β₆ γ₁ γ₂ γ₃ γ₄ γ₅ γ₆ : Type u} {o : Outcome β} {sat : β → Bool}
  {dec : β → Outcome γ} {x : γ}
  {o₁ : Outcome β₁} {s₁ : β₁ → Bool} {d₁ : β₁ → Outcome γ₁} {a₁ : γ₁} {S₁ D₁ : Prop}
  {o₂ : Outcome β₂} {s₂ : β₂ → Bool} {d₂ : β₂ → Outcome γ₂} {a₂ : γ₂} {S₂ D₂ : Prop}
  {o₃ : Outcome β₃} {s₃ : β₃ → Bool} {d₃ : β₃ → Outcome γ₃} {a₃ : γ₃} {S₃ D₃ : Prop}
  {o₄ : Outcome β₄} {s₄ : β₄ → Bool} {d₄ : β₄ → Outcome γ₄} {a₄ : γ₄} {S₄ D₄ : Prop}
  {o₅ : Outcome β₅} {s₅ : β₅ → Bool} {d₅ : β₅ → Outcome γ₅} {a₅ : γ₅} {S₅ D₅ : Prop}
  {o₆ : Outcome β₆} {s₆ : β₆ → Bool} {d₆ : β₆ → Outcome γ₆} {a₆ : γ₆} {S₆ D₆ : Prop}

/-! ## Records -/

/-- A field without constraints that is always decoded as what it was. -/
theorem conveys_next {y : β} (hsat : sat y = true) (hdec : dec y = next x) :
    Conveys (next y) sat dec x True True where
  sends := iff_true_intro ⟨y, rfl, hsat⟩
  arrives := fun y' hy' _ => by
    rw [← next_inj.mp hy', hdec]
    exact yields_next x

/-- A field with a constraint. -/
theorem conveys_constrained {y : β} (hdec : dec y = next x) :
    Conveys (next y) sat dec x (sat y = true) True where
  sends := ⟨fun ⟨_, hy', hsat⟩ => next_inj.mp hy' ▸ hsat, fun hsat => ⟨y, rfl, hsat⟩⟩
  arrives := fun y' hy' _ => by
    rw [← next_inj.mp hy', hdec]
    exact yields_next x

/-- A field with an assertion in front of it. -/
theorem conveys_asserted {y : β} {c : Bool} {m : String} (hsat : c = true → sat y = true)
    (hdec : c = true → dec y = next x) :
    Conveys (assert c m >>= fun _ => next y) sat dec x (c = true) True where
  sends := by
    simp only [bind_eq_next, assert_eq_next, next_inj]
    constructor
    · rintro ⟨_, ⟨_, hc, _⟩, _⟩
      exact hc
    · intro hc
      exact ⟨y, ⟨⟨⟩, hc, rfl⟩, hsat hc⟩
  arrives := fun y' hy' _ => by
    simp only [bind_eq_next, assert_eq_next, next_inj] at hy'
    obtain ⟨_, hc, rfl⟩ := hy'
    rw [hdec hc]
    exact yields_next x

/-- **A record of one part**, or a member of a union. -/
theorem conveys_one {mk : β₁ → β} {mk' : γ₁ → γ} (h₁ : Conveys o₁ s₁ d₁ a₁ S₁ D₁)
    (ho : o = o₁ >>= fun y₁ => next (mk y₁)) (hsat : ∀ y₁, sat (mk y₁) = s₁ y₁)
    (hdec : ∀ y₁, dec (mk y₁) = d₁ y₁ >>= fun z₁ => next (mk' z₁)) (hx : mk' a₁ = x) :
    Conveys o sat dec x S₁ D₁ where
  sends := by
    simp only [ho, bind_eq_next, next_inj, ← h₁.sends]
    constructor
    · rintro ⟨_, ⟨y₁, hy₁, rfl⟩, hs⟩
      exact ⟨y₁, hy₁, hsat y₁ ▸ hs⟩
    · rintro ⟨y₁, hy₁, hs⟩
      exact ⟨mk y₁, ⟨y₁, hy₁, rfl⟩, (hsat y₁).trans hs⟩
  arrives := fun y hy hs => by
    simp only [ho, bind_eq_next, next_inj] at hy
    obtain ⟨y₁, hy₁, rfl⟩ := hy
    rw [hdec]
    exact (h₁.arrives y₁ hy₁ (hsat y₁ ▸ hs)).last fun _ => hx

/-- **A record of two parts.** -/
theorem conveys_two {mk : β₁ → β₂ → β} {mk' : γ₁ → γ₂ → γ} (h₁ : Conveys o₁ s₁ d₁ a₁ S₁ D₁)
    (h₂ : Conveys o₂ s₂ d₂ a₂ S₂ D₂)
    (ho : o = o₁ >>= fun y₁ => o₂ >>= fun y₂ => next (mk y₁ y₂))
    (hsat : ∀ y₁ y₂, sat (mk y₁ y₂) = (s₁ y₁ && s₂ y₂))
    (hdec : ∀ y₁ y₂, dec (mk y₁ y₂) = d₁ y₁ >>= fun z₁ => d₂ y₂ >>= fun z₂ => next (mk' z₁ z₂))
    (hx : mk' a₁ a₂ = x) : Conveys o sat dec x (S₁ ∧ S₂) (D₁ ∧ D₂) where
  sends := by
    simp only [ho, bind_eq_next, next_inj, ← h₁.sends, ← h₂.sends]
    constructor
    · rintro ⟨_, ⟨y₁, hy₁, y₂, hy₂, rfl⟩, hs⟩
      rw [hsat, Bool.and_eq_true] at hs
      exact ⟨⟨y₁, hy₁, hs.1⟩, y₂, hy₂, hs.2⟩
    · rintro ⟨⟨y₁, hy₁, hs₁⟩, y₂, hy₂, hs₂⟩
      exact ⟨mk y₁ y₂, ⟨y₁, hy₁, y₂, hy₂, rfl⟩, by rw [hsat, hs₁, hs₂, Bool.and_self]⟩
  arrives := fun y hy hs => by
    simp only [ho, bind_eq_next, next_inj] at hy
    obtain ⟨y₁, hy₁, y₂, hy₂, rfl⟩ := hy
    rw [hsat, Bool.and_eq_true] at hs
    rw [hdec]
    exact (h₁.arrives y₁ hy₁ hs.1).bind fun _ => (h₂.arrives y₂ hy₂ hs.2).last fun _ => hx

/-- Two parts as one. -/
theorem conveys_pair (h₁ : Conveys o₁ s₁ d₁ a₁ S₁ D₁) (h₂ : Conveys o₂ s₂ d₂ a₂ S₂ D₂) :
    Conveys (o₁ >>= fun y₁ => o₂ >>= fun y₂ => next (y₁, y₂)) (fun y => s₁ y.1 && s₂ y.2)
      (fun y => d₁ y.1 >>= fun z₁ => d₂ y.2 >>= fun z₂ => next (z₁, z₂)) (a₁, a₂) (S₁ ∧ S₂)
      (D₁ ∧ D₂) :=
  conveys_two h₁ h₂ rfl (fun _ _ => rfl) (fun _ _ => rfl) rfl

/-- **Records of three fields** are conveyed field by field. -/
theorem conveys_three {mk : β₁ → β₂ → β₃ → β} {mk' : γ₁ → γ₂ → γ₃ → γ}
    (h₁ : Conveys o₁ s₁ d₁ a₁ S₁ D₁) (h₂ : Conveys o₂ s₂ d₂ a₂ S₂ D₂)
    (h₃ : Conveys o₃ s₃ d₃ a₃ S₃ D₃)
    (ho : o = o₁ >>= fun y₁ => o₂ >>= fun y₂ => o₃ >>= fun y₃ => next (mk y₁ y₂ y₃))
    (hsat : ∀ y₁ y₂ y₃, sat (mk y₁ y₂ y₃) = (s₁ y₁ && (s₂ y₂ && s₃ y₃)))
    (hdec : ∀ y₁ y₂ y₃, dec (mk y₁ y₂ y₃) = d₁ y₁ >>= fun z₁ => d₂ y₂ >>= fun z₂ =>
      d₃ y₃ >>= fun z₃ => next (mk' z₁ z₂ z₃))
    (hx : mk' a₁ a₂ a₃ = x) : Conveys o sat dec x (S₁ ∧ S₂ ∧ S₃) (D₁ ∧ D₂ ∧ D₃) := by
  have ho' : o = o₁ >>= fun y₁ => (o₂ >>= fun y₂ => o₃ >>= fun y₃ => next (y₂, y₃)) >>= fun y =>
      next (mk y₁ y.1 y.2) := by
    simp only [ho, bind_bind, next_bind]
  have hdec' (y₁ : β₁) (y : β₂ × β₃) : dec (mk y₁ y.1 y.2) = d₁ y₁ >>= fun z₁ =>
      (d₂ y.1 >>= fun z₂ => d₃ y.2 >>= fun z₃ => next (z₂, z₃)) >>= fun z =>
      next (mk' z₁ z.1 z.2) := by
    simp only [hdec, bind_bind, next_bind]
  exact conveys_two h₁ (conveys_pair h₂ h₃) ho' (fun _ _ => hsat _ _ _) hdec' hx

/-- Records of four fields are conveyed field by field. -/
theorem conveys_four {mk : β₁ → β₂ → β₃ → β₄ → β} {mk' : γ₁ → γ₂ → γ₃ → γ₄ → γ}
    (h₁ : Conveys o₁ s₁ d₁ a₁ S₁ D₁) (h₂ : Conveys o₂ s₂ d₂ a₂ S₂ D₂)
    (h₃ : Conveys o₃ s₃ d₃ a₃ S₃ D₃) (h₄ : Conveys o₄ s₄ d₄ a₄ S₄ D₄)
    (ho : o = o₁ >>= fun y₁ => o₂ >>= fun y₂ => o₃ >>= fun y₃ => o₄ >>= fun y₄ =>
      next (mk y₁ y₂ y₃ y₄))
    (hsat : ∀ y₁ y₂ y₃ y₄, sat (mk y₁ y₂ y₃ y₄) = (s₁ y₁ && (s₂ y₂ && (s₃ y₃ && s₄ y₄))))
    (hdec : ∀ y₁ y₂ y₃ y₄, dec (mk y₁ y₂ y₃ y₄) = d₁ y₁ >>= fun z₁ => d₂ y₂ >>= fun z₂ =>
      d₃ y₃ >>= fun z₃ => d₄ y₄ >>= fun z₄ => next (mk' z₁ z₂ z₃ z₄))
    (hx : mk' a₁ a₂ a₃ a₄ = x) : Conveys o sat dec x (S₁ ∧ S₂ ∧ S₃ ∧ S₄) (D₁ ∧ D₂ ∧ D₃ ∧ D₄) := by
  have ho' : o = o₁ >>= fun y₁ => o₂ >>= fun y₂ =>
      (o₃ >>= fun y₃ => o₄ >>= fun y₄ => next (y₃, y₄)) >>= fun y => next (mk y₁ y₂ y.1 y.2) := by
    simp only [ho, bind_bind, next_bind]
  have hdec' (y₁ : β₁) (y₂ : β₂) (y : β₃ × β₄) : dec (mk y₁ y₂ y.1 y.2) = d₁ y₁ >>= fun z₁ =>
      d₂ y₂ >>= fun z₂ => (d₃ y.1 >>= fun z₃ => d₄ y.2 >>= fun z₄ => next (z₃, z₄)) >>= fun z =>
      next (mk' z₁ z₂ z.1 z.2) := by
    simp only [hdec, bind_bind, next_bind]
  exact conveys_three h₁ h₂ (conveys_pair h₃ h₄) ho' (fun _ _ _ => hsat _ _ _ _) hdec' hx

/-- Records of five fields are conveyed field by field. -/
theorem conveys_five {mk : β₁ → β₂ → β₃ → β₄ → β₅ → β} {mk' : γ₁ → γ₂ → γ₃ → γ₄ → γ₅ → γ}
    (h₁ : Conveys o₁ s₁ d₁ a₁ S₁ D₁) (h₂ : Conveys o₂ s₂ d₂ a₂ S₂ D₂)
    (h₃ : Conveys o₃ s₃ d₃ a₃ S₃ D₃) (h₄ : Conveys o₄ s₄ d₄ a₄ S₄ D₄)
    (h₅ : Conveys o₅ s₅ d₅ a₅ S₅ D₅)
    (ho : o = o₁ >>= fun y₁ => o₂ >>= fun y₂ => o₃ >>= fun y₃ => o₄ >>= fun y₄ =>
      o₅ >>= fun y₅ => next (mk y₁ y₂ y₃ y₄ y₅))
    (hsat : ∀ y₁ y₂ y₃ y₄ y₅, sat (mk y₁ y₂ y₃ y₄ y₅) =
      (s₁ y₁ && (s₂ y₂ && (s₃ y₃ && (s₄ y₄ && s₅ y₅)))))
    (hdec : ∀ y₁ y₂ y₃ y₄ y₅, dec (mk y₁ y₂ y₃ y₄ y₅) = d₁ y₁ >>= fun z₁ => d₂ y₂ >>= fun z₂ =>
      d₃ y₃ >>= fun z₃ => d₄ y₄ >>= fun z₄ => d₅ y₅ >>= fun z₅ => next (mk' z₁ z₂ z₃ z₄ z₅))
    (hx : mk' a₁ a₂ a₃ a₄ a₅ = x) :
    Conveys o sat dec x (S₁ ∧ S₂ ∧ S₃ ∧ S₄ ∧ S₅) (D₁ ∧ D₂ ∧ D₃ ∧ D₄ ∧ D₅) := by
  have ho' : o = o₁ >>= fun y₁ => o₂ >>= fun y₂ => o₃ >>= fun y₃ =>
      (o₄ >>= fun y₄ => o₅ >>= fun y₅ => next (y₄, y₅)) >>= fun y =>
      next (mk y₁ y₂ y₃ y.1 y.2) := by
    simp only [ho, bind_bind, next_bind]
  have hdec' (y₁ : β₁) (y₂ : β₂) (y₃ : β₃) (y : β₄ × β₅) : dec (mk y₁ y₂ y₃ y.1 y.2) =
      d₁ y₁ >>= fun z₁ => d₂ y₂ >>= fun z₂ => d₃ y₃ >>= fun z₃ =>
      (d₄ y.1 >>= fun z₄ => d₅ y.2 >>= fun z₅ => next (z₄, z₅)) >>= fun z =>
      next (mk' z₁ z₂ z₃ z.1 z.2) := by
    simp only [hdec, bind_bind, next_bind]
  exact conveys_four h₁ h₂ h₃ (conveys_pair h₄ h₅) ho' (fun _ _ _ _ => hsat _ _ _ _ _) hdec' hx

/-- Records of six fields are conveyed field by field. -/
theorem conveys_six {mk : β₁ → β₂ → β₃ → β₄ → β₅ → β₆ → β}
    {mk' : γ₁ → γ₂ → γ₃ → γ₄ → γ₅ → γ₆ → γ}
    (h₁ : Conveys o₁ s₁ d₁ a₁ S₁ D₁) (h₂ : Conveys o₂ s₂ d₂ a₂ S₂ D₂)
    (h₃ : Conveys o₃ s₃ d₃ a₃ S₃ D₃) (h₄ : Conveys o₄ s₄ d₄ a₄ S₄ D₄)
    (h₅ : Conveys o₅ s₅ d₅ a₅ S₅ D₅) (h₆ : Conveys o₆ s₆ d₆ a₆ S₆ D₆)
    (ho : o = o₁ >>= fun y₁ => o₂ >>= fun y₂ => o₃ >>= fun y₃ => o₄ >>= fun y₄ =>
      o₅ >>= fun y₅ => o₆ >>= fun y₆ => next (mk y₁ y₂ y₃ y₄ y₅ y₆))
    (hsat : ∀ y₁ y₂ y₃ y₄ y₅ y₆, sat (mk y₁ y₂ y₃ y₄ y₅ y₆) =
      (s₁ y₁ && (s₂ y₂ && (s₃ y₃ && (s₄ y₄ && (s₅ y₅ && s₆ y₆))))))
    (hdec : ∀ y₁ y₂ y₃ y₄ y₅ y₆, dec (mk y₁ y₂ y₃ y₄ y₅ y₆) = d₁ y₁ >>= fun z₁ =>
      d₂ y₂ >>= fun z₂ => d₃ y₃ >>= fun z₃ => d₄ y₄ >>= fun z₄ => d₅ y₅ >>= fun z₅ =>
      d₆ y₆ >>= fun z₆ => next (mk' z₁ z₂ z₃ z₄ z₅ z₆))
    (hx : mk' a₁ a₂ a₃ a₄ a₅ a₆ = x) :
    Conveys o sat dec x (S₁ ∧ S₂ ∧ S₃ ∧ S₄ ∧ S₅ ∧ S₆) (D₁ ∧ D₂ ∧ D₃ ∧ D₄ ∧ D₅ ∧ D₆) := by
  have ho' : o = o₁ >>= fun y₁ => o₂ >>= fun y₂ => o₃ >>= fun y₃ => o₄ >>= fun y₄ =>
      (o₅ >>= fun y₅ => o₆ >>= fun y₆ => next (y₅, y₆)) >>= fun y =>
      next (mk y₁ y₂ y₃ y₄ y.1 y.2) := by
    simp only [ho, bind_bind, next_bind]
  have hdec' (y₁ : β₁) (y₂ : β₂) (y₃ : β₃) (y₄ : β₄) (y : β₅ × β₆) :
      dec (mk y₁ y₂ y₃ y₄ y.1 y.2) = d₁ y₁ >>= fun z₁ => d₂ y₂ >>= fun z₂ => d₃ y₃ >>= fun z₃ =>
      d₄ y₄ >>= fun z₄ => (d₅ y.1 >>= fun z₅ => d₆ y.2 >>= fun z₆ => next (z₅, z₆)) >>= fun z =>
      next (mk' z₁ z₂ z₃ z₄ z.1 z.2) := by
    simp only [hdec, bind_bind, next_bind]
  exact conveys_five h₁ h₂ h₃ h₄ (conveys_pair h₅ h₆) ho' (fun _ _ _ _ _ => hsat _ _ _ _ _ _)
    hdec' hx

end

/-! ## Arrays and optional fields -/

section

variable {α β γ : Type u} {enc : α → Outcome β} {sat : β → Bool} {dec : β → Outcome γ}
  {S D : α → Prop} {g : α → γ}

/-- **An array is conveyed** element by element. -/
theorem conveys_walk_map {xs : List α}
    (h : ∀ x ∈ xs, Conveys (enc x) sat dec (g x) (S x) (D x)) :
    Conveys (walk enc xs) (List.all · sat) (walk dec) (xs.map g) (∀ x ∈ xs, S x)
      (∀ x ∈ xs, D x) := by
  induction xs with
  | nil =>
    have hnil : Conveys (walk enc []) (List.all · sat) (walk dec) ([].map g) True True :=
      conveys_next rfl rfl
    exact hnil.iff (by simp) (by simp)
  | cons x xs ih =>
    rw [List.forall_mem_cons] at h
    exact (conveys_two h.1 (ih h.2) rfl (fun _ _ => rfl) (fun _ _ => rfl) rfl).iff
      List.forall_mem_cons.symm List.forall_mem_cons.symm

/-- **An array is conveyed** element by element. -/
theorem conveys_walk {dec : β → Outcome α} {xs : List α}
    (h : ∀ x ∈ xs, Conveys (enc x) sat dec x (S x) (D x)) :
    Conveys (walk enc xs) (List.all · sat) (walk dec) xs (∀ x ∈ xs, S x) (∀ x ∈ xs, D x) := by
  have hmap := conveys_walk_map (g := id) h
  rwa [List.map_id] at hmap

/-- **An optional field is conveyed** where what is in it is. -/
theorem conveys_opt {dec : β → Outcome α} {o : Option α}
    (h : ∀ a ∈ o, Conveys (enc a) sat dec a (S a) (D a)) :
    Conveys (opt enc o) (Option.all sat) (opt dec) o (∀ a ∈ o, S a) (∀ a ∈ o, D a) := by
  cases o with
  | none =>
    have hnone : Conveys (opt enc none) (Option.all sat) (opt dec) (none : Option α) True True :=
      conveys_next rfl rfl
    exact hnone.iff (by simp) (by simp)
  | some a =>
    have hsome : Conveys (opt enc (some a)) (Option.all sat) (opt dec) (some a) (S a) (D a) :=
      conveys_one (h a rfl) rfl (fun _ => rfl) (fun _ => rfl) rfl
    exact hsome.iff (by simp) (by simp)

end

end FlexRic
