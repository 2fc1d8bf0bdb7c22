import Mathlib.Order.Basic

/-!
# FlexRic.Lib.Comparator

Three-way comparators in the style of C: a function of two keys that
returns `1`, `0` or `-1`, with `1` for "the first key goes to the left".

`LawfulCmp` says that a comparator is a total preorder.  Comparators built
from a field (`cmpAsc`, `cmpDesc`) and in sequence (`thenBy`) are lawful,
`cmpAsc_eq_zero` and `thenBy_eq_zero` say which keys they identify.
-/

namespace FlexRic

universe u v

/-- A three-way comparator. -/
abbrev Cmp (κ : Type u) := κ → κ → Int

variable {κ : Type u} {β : Type v}

/-- The answers of a comparator are those of a total preorder. -/
structure LawfulCmp (c : Cmp κ) : Prop where
  cases : ∀ a b, c a b = 1 ∨ c a b = 0 ∨ c a b = -1
  swap : ∀ a b, c a b = 1 ↔ c b a = -1
  trans : ∀ a b d, c a b = 1 → c b d = 1 → c a d = 1
  congr : ∀ a b d, c a b = 0 → c a d = c b d

namespace LawfulCmp

variable {c : Cmp κ} (hc : LawfulCmp c)

include hc

/-- **A key compares as 0 with itself.** -/
theorem refl (a : κ) : c a a = 0 := by
  have hs := hc.swap a a
  obtain h | h | h := hc.cases a a
  · have := hs.mp h
    omega
  · exact h
  · have := hs.mpr h
    omega

/-- To compare as 0 is symmetric. -/
theorem symm {a b : κ} (h : c a b = 0) : c b a = 0 := by
  rw [← hc.congr a b a h]
  exact hc.refl a

theorem congr_right {a b : κ} (h : c a b = 0) (d : κ) : c d a = c d b := by
  have hl := hc.congr a b d h
  have ha := hc.swap d a
  have hb := hc.swap d b
  have ha' := hc.swap a d
  have hb' := hc.swap b d
  obtain h₁ | h₁ | h₁ := hc.cases d a <;> obtain h₂ | h₂ | h₂ := hc.cases d b <;> omega

/-- To compare as 0 is transitive. -/
theorem trans_zero {a b d : κ} (h₁ : c a b = 0) (h₂ : c b d = 0) : c a d = 0 := by
  rw [hc.congr a b d h₁]
  exact h₂

/-- One of two keys is the smaller one. -/
theorem ne_one_of_one {a b : κ} (h : c a b = 1) : c b a ≠ 1 := by
  have := (hc.swap a b).mp h
  omega

end LawfulCmp

/-! ## Comparing by a field -/

/-- `if (f a < f b) return 1; if (f a > f b) return -1; return 0;` -/
def cmpAsc [LT β] [DecidableLT β] (f : κ → β) : Cmp κ := fun a b =>
  if f a < f b then 1 else if f b < f a then -1 else 0

/-- `if (f a < f b) return -1; if (f a > f b) return 1; return 0;` -/
def cmpDesc [LT β] [DecidableLT β] (f : κ → β) : Cmp κ := fun a b => cmpAsc f b a

/-- `rc = c a b; if (rc != 0) return rc; return d a b;` -/
def thenBy (c d : Cmp κ) : Cmp κ := fun a b => if c a b = 0 then d a b else c a b

/-- The order the other way round is lawful too. -/
theorem LawfulCmp.flip {c : Cmp κ} (hc : LawfulCmp c) : LawfulCmp fun a b => c b a where
  cases a b := hc.cases b a
  swap a b := hc.swap b a
  trans a b d h₁ h₂ := hc.trans d b a h₂ h₁
  congr _ _ d h := hc.congr_right (hc.symm h) d

/-- Comparing by a part of the keys. -/
theorem LawfulCmp.comap {c : Cmp β} (hc : LawfulCmp c) (f : κ → β) :
    LawfulCmp fun a b => c (f a) (f b) where
  cases a b := hc.cases (f a) (f b)
  swap a b := hc.swap (f a) (f b)
  trans a b d := hc.trans (f a) (f b) (f d)
  congr a b d := hc.congr (f a) (f b) (f d)

/-- **and so is one after another.** -/
theorem LawfulCmp.thenBy {c d : Cmp κ} (hc : LawfulCmp c) (hd : LawfulCmp d) :
    LawfulCmp (thenBy c d) where
  cases a b := by
    unfold FlexRic.thenBy
    split
    · exact hd.cases a b
    · exact hc.cases a b
  swap a b := by
    unfold FlexRic.thenBy
    by_cases h : c a b = 0
    · rw [if_pos h, if_pos (hc.symm h)]
      exact hd.swap a b
    · rw [if_neg h, if_neg fun h' => h (hc.symm h')]
      exact hc.swap a b
  trans a b e h₁ h₂ := by
    unfold FlexRic.thenBy at *
    by_cases h : c a b = 0
    · rw [if_pos h] at h₁
      rw [hc.congr a b e h]
      split at h₂
      · rename_i h'
        rw [if_pos h']
        exact hd.trans a b e h₁ h₂
      · rename_i h'
        rw [if_neg h']
        exact h₂
    · rw [if_neg h] at h₁
      by_cases h' : c b e = 0
      · have he := hc.congr_right h' a
        rw [if_neg (he ▸ h), ← he]
        exact h₁
      · rw [if_neg h'] at h₂
        have he := hc.trans a b e h₁ h₂
        rw [if_neg (by omega)]
        exact he
  congr a b e h := by
    unfold FlexRic.thenBy at *
    split at h
    · rename_i h'
      rw [hc.congr a b e h', hd.congr a b e h]
    · contradiction

/-- A field in ascending order: 1 says that the first one is smaller. -/
theorem cmpAsc_eq_one [LT β] [DecidableLT β] {f : κ → β} {a b : κ} : cmpAsc f a b = 1 ↔ f a < f b := by
  unfold cmpAsc
  split
  · simp_all
  · split <;> simp_all

section

variable [LT β] [DecidableLT β] [LE β] [Std.IsLinearOrder β] [Std.LawfulOrderLT β]

/-- A field in ascending order: 0 says that the two are equal. -/
theorem cmpAsc_eq_zero {f : κ → β} {a b : κ} : cmpAsc f a b = 0 ↔ f a = f b := by
  unfold cmpAsc
  obtain h | h | h := Std.lt_trichotomy (f a) (f b)
  · rw [if_pos h]
    simp [Std.ne_of_lt h]
  · rw [h]
    simp [Std.lt_irrefl]
  · rw [if_neg (Std.not_gt_of_lt h), if_pos h]
    simp [(Std.ne_of_lt h).symm]

/-- A field orders its keys upwards. -/
theorem lawful_cmpAsc (f : κ → β) : LawfulCmp (cmpAsc f) where
  cases a b := by
    unfold cmpAsc
    split
    · simp
    · split <;> simp
  swap a b := by
    rw [cmpAsc_eq_one]
    unfold cmpAsc
    constructor
    · intro h
      rw [if_neg (Std.not_gt_of_lt h), if_pos h]
    · intro h
      split at h
      · contradiction
      · split at h
        · assumption
        · contradiction
  trans a b d h₁ h₂ := by
    rw [cmpAsc_eq_one] at *
    exact Std.lt_trans h₁ h₂
  congr a b d h := by
    have h' : f a = f b := cmpAsc_eq_zero.mp h
    simp only [cmpAsc, h']

/-- A field orders its keys downwards. -/
theorem lawful_cmpDesc (f : κ → β) : LawfulCmp (cmpDesc f) := (lawful_cmpAsc f).flip

/-- The direction does not matter to equality. -/
theorem cmpDesc_eq_zero {f : κ → β} {a b : κ} : cmpDesc f a b = 0 ↔ f a = f b := by
  unfold cmpDesc
  rw [cmpAsc_eq_zero]
  exact eq_comm

end

theorem thenBy_assoc (c d e : Cmp κ) : thenBy (thenBy c d) e = thenBy c (thenBy d e) := by
  funext a b
  unfold thenBy
  by_cases h : c a b = 0
  · rw [if_pos h, if_pos h]
  · rw [if_neg h, if_neg h, if_neg h]

/-- Both comparators have to find them equal. -/
theorem thenBy_eq_zero {c d : Cmp κ} {a b : κ} :
    thenBy c d a b = 0 ↔ c a b = 0 ∧ d a b = 0 := by
  unfold thenBy
  split <;> simp_all

end FlexRic
