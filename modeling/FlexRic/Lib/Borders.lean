import Mathlib.Order.Bounds.Basic

/-!
# FlexRic.Lib.Borders

Borders of the suffixes of a word, and how far a search may move on.

* A word is its letters `w` and its length `n`; a suffix is the position it starts at.
  `Border w n i p`: the suffix from `p` on is a start of the one from `i` on.
* `Shift w n p t`: the word could be found `t` positions on, where its letters from `p` on
  were found and the one before was not.
* `First` is an entry of a table that is filled from the end of the word; `First.least` is
  the entry in the end.
-/

namespace FlexRic

universe u

variable {α : Type u} {w : Nat → α} {n i j p q t : Nat}

/-! ## Borders -/

/-- The suffix from `p` on is a start of the longer one from `i` on. -/
structure Border (w : Nat → α) (n i p : Nat) : Prop where
  lt : i < p
  le : p ≤ n
  eq : ∀ d, p + d < n → w (i + d) = w (p + d)

/-- The empty suffix. -/
theorem Border.empty (h : i < n) : Border w n i n :=
  ⟨h, Nat.le_refl n, fun _ hd => absurd hd (by omega)⟩

/-- **A border of a border** is a border. -/
theorem Border.trans (h : Border w n i p) (h' : Border w n p q) : Border w n i q where
  lt := h.lt.trans h'.lt
  le := h'.le
  eq := fun d hd => by
    have hlt := h'.lt
    rw [h.eq d (by omega), h'.eq d hd]

/-- The shorter of two borders is one of the longer. -/
theorem Border.of_lt (h : Border w n i p) (h' : Border w n i q) (hlt : p < q) :
    Border w n p q where
  lt := hlt
  le := h'.le
  eq := fun d hd => by rw [← h.eq d (by omega), h'.eq d hd]

/-- Borders with one more letter in front. -/
theorem border_iff_succ (hp : p < n) :
    Border w n i p ↔ Border w n (i + 1) (p + 1) ∧ w i = w p := by
  constructor
  · intro h
    refine ⟨⟨Nat.succ_lt_succ h.lt, hp, fun d hd => ?_⟩, h.eq 0 hp⟩
    have heq := h.eq (d + 1) (by omega)
    rwa [← Nat.add_assoc, ← Nat.add_assoc, Nat.add_right_comm i, Nat.add_right_comm p] at heq
  · rintro ⟨h, hw⟩
    refine ⟨Nat.lt_of_succ_lt_succ h.lt, Nat.le_of_lt hp, fun d hd => ?_⟩
    cases d with
    | zero => exact hw
    | succ d =>
      have heq := h.eq d (by omega)
      rwa [Nat.add_right_comm i, Nat.add_right_comm p] at heq

/-- The longest border. -/
abbrev Widest (w : Nat → α) (n i p : Nat) : Prop := IsLeast {q | Border w n i q} p

/-- **The next border** is the longest one of the border. -/
theorem Border.next (h : Border w n i j) (hq : Widest w n j q) :
    Border w n i q ∧ ∀ p, Border w n i p → j < p → q ≤ p :=
  ⟨h.trans hq.1, fun _ hp hlt => hq.2 (h.of_lt hp hlt)⟩

/-! ## Moving on -/

/-- The letters in front of a border differ. -/
structure Clash (w : Nat → α) (n i p : Nat) : Prop where
  pos : 0 < i
  border : Border w n i p
  ne : w (i - 1) ≠ w (p - 1)

/-- The word can be `t` positions on, where it was found from `p` on and no further. -/
structure Shift (w : Nat → α) (n p t : Nat) : Prop where
  pos : 0 < t
  le : t ≤ n
  eq : ∀ k, p ≤ k → t ≤ k → k < n → w (k - t) = w k
  ne : t < p → w (p - 1 - t) ≠ w (p - 1)

/-- Moving on inside of what was found asks for a border with another letter in front. -/
theorem shift_iff_clash (ht : t < p) (hp : p ≤ n) :
    Shift w n p t ↔ 0 < t ∧ Clash w n (p - t) p := by
  constructor
  · intro h
    refine ⟨h.pos, by omega, ⟨by have := h.pos; omega, hp, fun d hd => ?_⟩, ?_⟩
    · have heq := h.eq (p + d) (by omega) (by omega) hd
      rwa [show p + d - t = p - t + d by omega] at heq
    · rw [show p - t - 1 = p - 1 - t by omega]
      exact h.ne ht
  · rintro ⟨hpos, h⟩
    refine ⟨hpos, by omega, fun k hpk htk hk => ?_, fun _ => ?_⟩
    · have heq := h.border.eq (k - p) (by omega)
      rwa [show p - t + (k - p) = k - t by omega, show p + (k - p) = k by omega] at heq
    · have hne := h.ne
      rwa [show p - t - 1 = p - 1 - t by omega] at hne

/-- Moving on past what was not found asks for a border of the whole word. -/
theorem shift_iff_border (ht : p ≤ t) : Shift w n p t ↔ Border w n 0 t := by
  constructor
  · intro h
    refine ⟨h.pos, h.le, fun d hd => ?_⟩
    have heq := h.eq (t + d) (by omega) (by omega) hd
    rw [Nat.add_sub_cancel_left] at heq
    rwa [Nat.zero_add]
  · intro h
    refine ⟨h.lt, h.le, fun k _ htk hk => ?_, fun hlt => absurd hlt (by omega)⟩
    have heq := h.eq (k - t) (by omega)
    rwa [Nat.zero_add, Nat.add_sub_cancel' htk] at heq

/-- The least of them. -/
abbrev LeastShift (w : Nat → α) (n p t : Nat) : Prop := IsLeast {s | Shift w n p s} t

/-! ## A table of them -/

/-- An entry after the suffixes from `lo` on: none yet, or the least distance to a border
with another letter in front. -/
def First (w : Nat → α) (n lo p v : Nat) : Prop :=
  (v = 0 ∧ ∀ i, lo ≤ i → ¬ Clash w n i p) ∨
    ∃ i, lo ≤ i ∧ Clash w n i p ∧ v = p - i ∧ ∀ i', i < i' → ¬ Clash w n i' p

variable {lo v : Nat}

/-- Nothing shorter than the word itself is looked at first. -/
theorem First.start : First w n (n + 1) p 0 := by
  refine .inl ⟨rfl, fun i hi h => ?_⟩
  have hlt := h.border.lt
  have hle := h.border.le
  omega

/-- A suffix that does not clash changes nothing. -/
theorem First.of_not (h : First w n (lo + 1) p v)
    (hnot : Clash w n lo p → ∃ i, lo < i ∧ Clash w n i p) : First w n lo p v := by
  rcases h with ⟨hv, hnone⟩ | ⟨i, hlo, hi, hv, hmax⟩
  · refine .inl ⟨hv, fun i hlo hi => ?_⟩
    rcases Nat.eq_or_lt_of_le hlo with rfl | hlt
    · obtain ⟨i', hlt, hi'⟩ := hnot hi
      exact hnone i' hlt hi'
    · exact hnone i hlt hi
  · exact .inr ⟨i, by omega, hi, hv, hmax⟩

/-- A suffix that clashes is entered, unless a shorter one was. -/
theorem First.of_clash (h : First w n (lo + 1) p v) (hclash : Clash w n lo p) :
    First w n lo p (if v = 0 then p - lo else v) := by
  rcases h with ⟨rfl, hnone⟩ | ⟨i, hlo, hi, hv, hmax⟩
  · rw [if_pos rfl]
    exact .inr ⟨lo, Nat.le_refl lo, hclash, rfl, fun i' hlt => hnone i' hlt⟩
  · have hlt := hi.border.lt
    rw [if_neg (by omega)]
    exact .inr ⟨i, by omega, hi, hv, hmax⟩

/-- **The entry in the end**: where there is none yet, the next border of the whole word. -/
theorem First.least (h : First w n 1 p v) (hn : p ≤ n)
    (hj : IsLeast {q | p ≤ q ∧ Border w n 0 q} j) :
    LeastShift w n p (if v = 0 then j else v) := by
  rcases h with ⟨rfl, hnone⟩ | ⟨i, -, hi, hv, hmax⟩
  · rw [if_pos rfl]
    refine ⟨(shift_iff_border hj.1.1).2 hj.1.2, fun t ht => ?_⟩
    have hle : p ≤ t := by
      by_contra hlt
      have hclash := ((shift_iff_clash (by omega) hn).1 ht).2
      exact hnone (p - t) hclash.pos hclash
    exact hj.2 ⟨hle, (shift_iff_border hle).1 ht⟩
  · have hlt := hi.border.lt
    have hpos := hi.pos
    rw [if_neg (by omega)]
    refine ⟨?_, fun t ht => ?_⟩
    · refine (shift_iff_clash (by omega) hn).2 ⟨by omega, ?_⟩
      rwa [show p - v = i by omega]
    · by_contra hgt
      have hclash := ((shift_iff_clash (show t < p by omega) hn).1 ht).2
      exact hmax (p - t) (by omega) hclash

end FlexRic
