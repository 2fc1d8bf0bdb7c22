import FlexRic.Ds.ShiftTables
import Mathlib.Data.List.Basic
import Mathlib.Order.MinMax

/-!
# FlexRic.Ds.BooyerMoore

The Boyer-Moore search (`search_booyer_moore` of `alg/string/booyer_moore.c`), as a
machine that takes one round of its loop after the other.

* The position of a mismatch, not the end of the window, is moved on by the second
  table: where more of the needle was found than it is moved on, the window moves
  backwards.  `MovesOn` is the condition under which it moves forward.
* `Window` is what the loop knows: what was found of the needle, and that it is nowhere
  before.  `Window.mismatch`: no occurrence is skipped.
* `booyerMoore_iff`: when the search finds what a naive one finds, inside of its tables
  and with a step forward in each round.
-/

namespace FlexRic

namespace BooyerMoore

/-! ## The search -/

/-- `search_booyer_moore`: before its loop, in it, and what it returns. -/
inductive Search where
  | start
  | looking (d1 d2 : Ints) (i j : Nat)
  | found (pos : Nat)
  | absent

/-- `max(min_val, max(shift1, shift2))`, from the entries of the tables. -/
def shiftBy (len : Nat) (v1 v2 : Int) : Nat := max 1 (max (toSizeT (len - 1 - v1)) (toSizeT v2))

/-- A round of the loop. -/
def round (needle haystack : List UInt8) (d1 d2 : Ints) (i j : Nat) : Outcome Search :=
  if i < haystack.length then
    if letter haystack i ≠ letter needle j then do
      let v1 ← d1.read (toSizeT (char (letter haystack i)))
      let v2 ← d2.read (j + 1 : Nat)
      return .looking d1 d2 (i + shiftBy needle.length v1 v2) (needle.length - 1)
    else if j = 0 then .next (.found i)
    else .next (.looking d1 d2 (i - 1) (j - 1))
  else .next .absent

def step (needle haystack : List UInt8) : Search → Outcome Search
  | .start =>
    if needle = [] ∨ haystack = [] then .next .absent
    else do
      let d1 ← preProcessDelta1 needle
      let d2 ← preProcessDelta2 needle
      return .looking d1 d2 (needle.length - 1) (needle.length - 1)
  | .looking d1 d2 i j => round needle haystack d1 d2 i j
  | .found _ => .blocked
  | .absent => .blocked

def machine (needle haystack : List UInt8) : Machine Search Unit where
  init := .start
  step := fun s _ => step needle haystack s

/-- The position that is returned, or `NULL`. -/
def Search.result : Search → Option (Option Nat)
  | found pos => some (some pos)
  | absent => some none
  | _ => none

/-! ## What is asked of it -/

/-- The needle is in the haystack, from position `q` on. -/
def Occurs (needle haystack : List UInt8) (q : Nat) : Prop :=
  q + needle.length ≤ haystack.length ∧
    ∀ k < needle.length, letter haystack (q + k) = letter needle k

instance (needle haystack : List UInt8) (q : Nat) : Decidable (Occurs needle haystack q) :=
  inferInstanceAs (Decidable (_ ∧ _))

/-- The search from left to right. -/
def naive (needle haystack : List UInt8) : Option Nat :=
  (List.range haystack.length).find? fun q => decide (Occurs needle haystack q)

/-- The window is moved on, or more of the needle is found in it. -/
def Forward (len : Nat) : Search → Search → Prop
  | .looking _ _ i j, .looking _ _ i' j' =>
    i + (len - 1 - j) < i' + (len - 1 - j') ∨ (i + (len - 1 - j) = i' + (len - 1 - j') ∧ j' < j)
  | _, .start => False
  | _, _ => True

instance (len : Nat) (s s' : Search) : Decidable (Forward len s s') := by
  cases s <;> cases s' <;> unfold Forward <;> infer_instance

/-- **What is asked of a search.** -/
structure Correct (needle haystack : List UInt8) : Prop where
  /-- every access is inside of its table -/
  inside : ∀ s, (machine needle haystack).Reachable s → ¬ (step needle haystack s).Aborts
  /-- every round is one forward -/
  forward : ∀ s s', (machine needle haystack).Reachable s → step needle haystack s = .next s' →
    Forward needle.length s s'
  /-- it returns what the naive search does -/
  result : ∃ s, (machine needle haystack).Reachable s ∧ s.result = some (naive needle haystack)

/-- At a mismatch with the byte `c` at position `j` of the needle: the byte is not in what
was found of the needle, or what was found is not in the needle again so close to its end. -/
def MovesOn (needle : List UInt8) (j : Nat) (c : UInt8) : Prop :=
  c < 128 ∧ (c ∉ needle.drop (j + 1) ∨
    ∀ t, t ≤ needle.length - 1 - j → ¬ Shift (letter needle) needle.length (j + 1) t)

/-- The inputs the search is right for. -/
def Fits (needle haystack : List UInt8) : Prop :=
  haystack = [] ∨ ((∀ b ∈ needle, b < 128) ∧
    ∀ d1 d2 i j, (machine needle haystack).Reachable (.looking d1 d2 i j) →
      i < haystack.length → letter haystack i ≠ letter needle j →
        MovesOn needle j (letter haystack i))

variable {needle haystack : List UInt8} {d1 d2 : Ints} {i j q r k : Nat} {c : UInt8} {s s' : Search}

theorem Fits.moves (h : Fits needle haystack)
    (hs : (machine needle haystack).Reachable (.looking d1 d2 i j)) (hi : i < haystack.length)
    (hne : letter haystack i ≠ letter needle j) : MovesOn needle j (letter haystack i) := by
  rcases h with rfl | ⟨-, hmoves⟩
  · exact absurd hi (Nat.not_lt_zero i)
  · exact hmoves d1 d2 i j hs hi hne

/-! ## Moving on -/

/-- The tables of the needle. -/
structure Ready (needle : List UInt8) (d1 d2 : Ints) : Prop where
  size₁ : d1.size = 256
  last : ∀ c : UInt8, Last needle 0 c (-1) (d1.get c.toNat)
  size₂ : d2.size = needle.length + 1
  least : ∀ p, 0 < p → p ≤ needle.length →
    ∃ v : Nat, d2.get p = v ∧ LeastShift (letter needle) needle.length p v

/-- The distance from the last occurrence of a byte to the end of the needle. -/
def FromEnd (needle : List UInt8) (c : UInt8) (v : Nat) : Prop :=
  (c ∉ needle ∧ v = needle.length) ∨
    ∃ k, k < needle.length ∧ letter needle k = c ∧ c ∉ needle.drop (k + 1) ∧
      v = needle.length - 1 - k

/-- The first table has it. -/
theorem Last.fromEnd {v : Int} (h : Last needle 0 c (-1) v) (hn : needle.length < 2 ^ 31) :
    FromEnd needle c (toSizeT (needle.length - 1 - v)) := by
  rcases h with ⟨hc, rfl⟩ | ⟨k, hk, hc, rfl⟩
  · refine .inl ⟨hc, ?_⟩
    rw [show (needle.length : Int) - 1 - -1 = needle.length by omega, toSizeT_of_lt hn]
  · obtain ⟨hlt, hget⟩ := List.getElem?_eq_some_iff.1 hk
    refine .inr ⟨k, hlt, ?_, hc, ?_⟩
    · rw [letter, List.getD_eq_getElem?_getD, hk]
      rfl
    · rw [show (needle.length : Int) - 1 - (0 + k : Nat) = (needle.length - 1 - k : Nat) by omega]
      exact toSizeT_of_lt (by omega)

/-- A mismatch at position `j`, of a byte that the tables are for. -/
theorem Ready.reads (h : Ready needle d1 d2) (hn : needle.length < 2 ^ 31) (hj : j < needle.length)
    (hc : c < 128) :
    ∃ v1 v2 s1 s2, d1.read (toSizeT (char c)) = .next v1 ∧ d2.read (j + 1 : Nat) = .next v2 ∧
      shiftBy needle.length v1 v2 = max 1 (max s1 s2) ∧ FromEnd needle c s1 ∧
      LeastShift (letter needle) needle.length (j + 1) s2 := by
  obtain ⟨v, hv, hleast⟩ := h.least (j + 1) (Nat.succ_pos j) hj
  have hlt := c.toNat_lt
  have hread : d1.read (toSizeT (char c)) = .next (d1.get c.toNat) := by
    rw [char_of_lt hc, toSizeT_of_lt (by omega)]
    exact Ints.read_of_lt (by rw [h.size₁]; omega)
  have hread₂ : d2.read (j + 1 : Nat) = .next v := by
    rw [Ints.read_of_lt (by rw [h.size₂]; omega), hv]
  have hvle := hleast.1.le
  refine ⟨_, _, _, v, hread, hread₂, ?_, (h.last c).fromEnd hn, hleast⟩
  rw [shiftBy, toSizeT_of_lt (show v < 2 ^ 31 by omega)]

theorem letter_mem_drop (hkr : k ≤ r) (hr : r < needle.length) :
    letter needle r ∈ needle.drop k := by
  have hlt : r - k < (needle.drop k).length := by rw [List.length_drop]; omega
  have hget : (needle.drop k)[r - k] = letter needle r := by
    rw [List.getElem_drop, letter, List.getD_eq_getElem _ _ hr]
    congr 1
    omega
  exact hget ▸ List.getElem_mem hlt

/-- **When a window is moved on**: by more than what was found in it. -/
theorem movesOn_iff {s1 s2 : Nat} (hj : j < needle.length) (hne : c ≠ letter needle j)
    (h₁ : FromEnd needle c s1) (h₂ : LeastShift (letter needle) needle.length (j + 1) s2) :
    needle.length - 1 - j < max 1 (max s1 s2) ↔
      (c ∉ needle.drop (j + 1) ∨
        ∀ t, t ≤ needle.length - 1 - j → ¬ Shift (letter needle) needle.length (j + 1) t) := by
  constructor
  · intro hlt
    rcases lt_max_iff.1 hlt with hone | hlt
    · refine .inr fun t ht hshift => ?_
      have hpos := hshift.pos
      omega
    rcases lt_max_iff.1 hlt with hlt₁ | hlt₂
    · refine .inl fun hmem => ?_
      rcases h₁ with ⟨hc, -⟩ | ⟨k, hk, -, hc, hv⟩
      · exact hc (List.mem_of_mem_drop hmem)
      · have hdrop : needle.drop (j + 1) = (needle.drop (k + 1)).drop (j - k) := by
          rw [List.drop_drop]
          congr 1
          omega
        rw [hdrop] at hmem
        exact hc (List.mem_of_mem_drop hmem)
    · refine .inr fun t ht hshift => ?_
      have hle := h₂.2 hshift
      omega
  · rintro (hc | hnone)
    · rcases h₁ with ⟨-, rfl⟩ | ⟨k, hk, hletter, -, rfl⟩
      · omega
      · have hkj : k ≠ j := fun heq => hne (by rw [← hletter, heq])
        have hle : k ≤ j := by
          by_contra hlt
          exact hc (hletter ▸ letter_mem_drop (by omega) hk)
        omega
    · have hlt : needle.length - 1 - j < s2 := by
        by_contra hle
        exact hnone s2 (by omega) h₂.1
      omega

/-! ## What the loop knows -/

/-- The window at position `q`, of which everything behind `j` was found. -/
structure Window (needle haystack : List UInt8) (q j : Nat) : Prop where
  lt : j < needle.length
  eq : ∀ k, j < k → k < needle.length → letter haystack (q + k) = letter needle k
  le : j + 1 < needle.length → q + needle.length ≤ haystack.length
  /-- the needle is nowhere before -/
  first : ∀ q', Occurs needle haystack q' → q ≤ q'

/-- A window that is inside of the haystack up to position `j` is inside of it. -/
theorem Window.inside (h : Window needle haystack q j) (hi : q + j < haystack.length) :
    q + needle.length ≤ haystack.length := by
  have hlt := h.lt
  by_cases hj : j + 1 < needle.length
  · exact h.le hj
  · omega

theorem Window.start (hne : needle ≠ []) : Window needle haystack 0 (needle.length - 1) := by
  have hpos := List.length_pos_iff.2 hne
  exact ⟨by omega, fun k hk hlt => absurd hlt (by omega), fun hlt => absurd hlt (by omega),
    fun q' _ => Nat.zero_le q'⟩

/-- One more letter is found. -/
theorem Window.more (h : Window needle haystack q j) (hi : q + j < haystack.length)
    (heq : letter haystack (q + j) = letter needle j) : Window needle haystack q (j - 1) := by
  have hlt := h.lt
  refine ⟨by omega, fun k hk hkn => ?_, fun _ => h.inside hi, h.first⟩
  rcases Nat.eq_or_lt_of_le (show j ≤ k by omega) with rfl | hlt
  · exact heq
  · exact h.eq k hlt hkn

/-- The needle is found. -/
theorem Window.occurs (h : Window needle haystack q 0) (hi : q < haystack.length)
    (heq : letter haystack q = letter needle 0) : Occurs needle haystack q := by
  refine ⟨h.inside hi, fun k hk => ?_⟩
  rcases Nat.eq_zero_or_pos k with rfl | hpos
  · exact heq
  · exact h.eq k hpos hk

/-- **No occurrence is skipped** at a mismatch. -/
theorem Window.mismatch {s1 s2 : Nat} (h : Window needle haystack q j)
    (hne : letter haystack (q + j) ≠ letter needle j)
    (h₁ : FromEnd needle (letter haystack (q + j)) s1)
    (h₂ : LeastShift (letter needle) needle.length (j + 1) s2) (hr : Occurs needle haystack r) :
    q + j + max 1 (max s1 s2) ≤ r + (needle.length - 1) := by
  have hlt := h.lt
  have hle := h.first r hr
  have hqr : q ≠ r := by
    rintro rfl
    exact hne (hr.2 j hlt)
  have hone : q + j + 1 ≤ r + (needle.length - 1) := by omega
  -- the byte of the mismatch is at its last occurrence at the earliest
  have hbad : q + j + s1 ≤ r + (needle.length - 1) := by
    rcases h₁ with ⟨hc, rfl⟩ | ⟨k, hk, -, hc, rfl⟩
    · by_contra hgt
      have heq := hr.2 (q + j - r) (by omega)
      rw [show r + (q + j - r) = q + j by omega] at heq
      exact hc (heq ▸ List.mem_of_mem_drop (letter_mem_drop (Nat.zero_le _) (by omega)))
    · by_contra hgt
      have heq := hr.2 (q + j - r) (by omega)
      rw [show r + (q + j - r) = q + j by omega] at heq
      exact hc (heq ▸ letter_mem_drop (by omega) (by omega))
  -- and what was found is at its next occurrence at the earliest
  have hgood : q + j + s2 ≤ r + (needle.length - 1) := by
    by_cases hle' : r - q ≤ needle.length
    · have hshift : Shift (letter needle) needle.length (j + 1) (r - q) := by
        refine ⟨by omega, hle', fun k hjk htk hk => ?_, fun ht => ?_⟩
        · have heq := hr.2 (k - (r - q)) (by omega)
          rw [show r + (k - (r - q)) = q + k by omega, h.eq k (by omega) hk] at heq
          exact heq.symm
        · have heq := hr.2 (j - (r - q)) (by omega)
          rw [show r + (j - (r - q)) = q + j by omega] at heq
          rw [Nat.add_sub_cancel, ← heq]
          exact hne
      have hmin := h₂.2 hshift
      omega
    · have hs2 := h₂.1.le
      omega
  omega

/-! ## Rounds -/

/-- What holds before each round. -/
def Inv (needle haystack : List UInt8) : Search → Prop
  | .start => True
  | .looking d1 d2 i j =>
    Ready needle d1 d2 ∧ ∃ q, i = q + j ∧ Window needle haystack q j
  | .found r => Occurs needle haystack r ∧ ∀ q, Occurs needle haystack q → r ≤ q
  | .absent => ∀ q, ¬ Occurs needle haystack q

theorem naive_of_found (hne : needle ≠ []) (h : Inv needle haystack (.found r)) :
    naive needle haystack = some r := by
  have hpos := List.length_pos_iff.2 hne
  have hlen := h.1.1
  refine List.find?_range_eq_some.2 ⟨decide_eq_true h.1, List.mem_range.2 (by omega), ?_⟩
  intro q hq
  have hnot : ¬ Occurs needle haystack q := fun hocc => Nat.not_le.2 hq (h.2 q hocc)
  rw [decide_eq_false hnot]
  rfl

theorem naive_of_absent (h : Inv needle haystack .absent) : naive needle haystack = none := by
  refine List.find?_eq_none.2 fun q _ hq => ?_
  exact h q (of_decide_eq_true hq)

theorem step_start (hne : needle ≠ []) (hhay : haystack ≠ []) (hascii : ∀ b ∈ needle, b < 128)
    (hn : needle.length + 1 < 2 ^ 31) :
    ∃ d1 d2, step needle haystack .start =
        .next (.looking d1 d2 (needle.length - 1) (needle.length - 1)) ∧ Ready needle d1 d2 := by
  obtain ⟨d1, h₁, hsize₁, hlast⟩ := preProcessDelta1_eq hascii (by omega)
  obtain ⟨d2, h₂, hsize₂, hleast⟩ := preProcessDelta2_eq hne hn
  refine ⟨d1, d2, ?_, hsize₁, hlast, hsize₂, hleast⟩
  rw [step, if_neg (not_or.2 ⟨hne, hhay⟩), h₁, Outcome.next_bind, h₂]
  rfl

/-- A round at a mismatch with a byte that the tables are for. -/
theorem round_mismatch (h : Ready needle d1 d2) (hn : needle.length < 2 ^ 31)
    (hj : j < needle.length) (hi : i < haystack.length)
    (hne : letter haystack i ≠ letter needle j) (hc : letter haystack i < 128) :
    ∃ s1 s2, round needle haystack d1 d2 i j =
        .next (.looking d1 d2 (i + max 1 (max s1 s2)) (needle.length - 1)) ∧
      FromEnd needle (letter haystack i) s1 ∧
      LeastShift (letter needle) needle.length (j + 1) s2 := by
  obtain ⟨v1, v2, s1, s2, hread₁, hread₂, hshift, h₁, h₂⟩ := h.reads hn hj hc
  refine ⟨s1, s2, ?_, h₁, h₂⟩
  rw [round, if_pos hi, if_pos hne, hread₁, Outcome.next_bind, hread₂, Outcome.next_bind, hshift]
  rfl

/-- **A round keeps what the loop knows**, and is one forward. -/
theorem round_inv (h : Inv needle haystack (.looking d1 d2 i j)) (hn : needle.length < 2 ^ 31)
    (hmoves : i < haystack.length → letter haystack i ≠ letter needle j →
      MovesOn needle j (letter haystack i)) :
    ∃ s', round needle haystack d1 d2 i j = .next s' ∧ Inv needle haystack s' ∧
      Forward needle.length (.looking d1 d2 i j) s' := by
  obtain ⟨hready, q, rfl, hwin⟩ := h
  have hlt := hwin.lt
  by_cases hi : q + j < haystack.length
  · by_cases hne : letter haystack (q + j) ≠ letter needle j
    · obtain ⟨hc, hmove⟩ := hmoves hi hne
      obtain ⟨s1, s2, hrun, h₁, h₂⟩ := round_mismatch hready hn hlt hi hne hc
      have hfar := (movesOn_iff hlt hne h₁ h₂).2 hmove
      refine ⟨_, hrun, ⟨hready, q + j + max 1 (max s1 s2) - (needle.length - 1), by omega, ?_⟩,
        .inl (by omega)⟩
      refine ⟨by omega, fun k hk hkn => absurd hkn (by omega), fun hkn => absurd hkn (by omega),
        fun r hr => ?_⟩
      have hskip := hwin.mismatch hne h₁ h₂ hr
      omega
    · have heq := not_not.1 hne
      by_cases hj : j = 0
      · subst hj
        refine ⟨.found q, ?_, ⟨hwin.occurs hi heq, hwin.first⟩, trivial⟩
        rw [round, if_pos hi, if_neg hne, if_pos rfl]
        rfl
      · refine ⟨.looking d1 d2 (q + j - 1) (j - 1), ?_, ⟨hready, q, by omega, hwin.more hi heq⟩,
          .inr (by omega)⟩
        rw [round, if_pos hi, if_neg hne, if_neg hj]
  · refine ⟨.absent, ?_, fun r hr => ?_, trivial⟩
    · rw [round, if_neg hi]
    · have hle := hwin.first r hr
      have hin := hr.1
      omega

/-- **A step** of a search whose input fits. -/
theorem step_inv (hne : needle ≠ []) (hn : needle.length + 1 < 2 ^ 31)
    (hfits : Fits needle haystack) (hs : (machine needle haystack).Reachable s)
    (h : Inv needle haystack s) :
    (∃ s', step needle haystack s = .next s' ∧ Inv needle haystack s' ∧
      Forward needle.length s s') ∨ step needle haystack s = .blocked := by
  cases s with
  | start =>
    by_cases hhay : haystack = []
    · subst hhay
      refine .inl ⟨.absent, if_pos (.inr rfl), fun q hq => ?_, trivial⟩
      have hpos := List.length_pos_iff.2 hne
      have hle := hq.1
      rw [List.length_nil] at hle
      omega
    · obtain ⟨d1, d2, hrun, hready⟩ :=
        step_start hne hhay (hfits.resolve_left hhay).1 hn
      refine .inl ⟨_, hrun, ⟨hready, 0, (Nat.zero_add _).symm, Window.start hne⟩, trivial⟩
  | looking d1 d2 i j =>
    exact .inl (round_inv h (by omega) (hfits.moves hs))
  | found r => exact .inr rfl
  | absent => exact .inr rfl

theorem reachable_inv (hne : needle ≠ []) (hn : needle.length + 1 < 2 ^ 31)
    (hfits : Fits needle haystack) (hs : (machine needle haystack).Reachable s) :
    Inv needle haystack s := by
  refine hs.invariant trivial fun s e s' hs h hstep => ?_
  rcases step_inv hne hn hfits hs h with ⟨s₁, hrun, hinv, -⟩ | hblocked
  · rw [show (machine needle haystack).step s e = .next s₁ from hrun, Outcome.next_inj] at hstep
    exact hstep ▸ hinv
  · rw [show (machine needle haystack).step s e = .blocked from hblocked] at hstep
    cases hstep

/-- How many rounds are left at most. -/
def left (needle haystack : List UInt8) (i j : Nat) : Nat :=
  (haystack.length + needle.length - (i + (needle.length - 1 - j))) * needle.length + j

theorem left_lt {i' j' : Nat} (hi : i < haystack.length) (hj : j < needle.length)
    (hj' : j' < needle.length)
    (h : i + (needle.length - 1 - j) < i' + (needle.length - 1 - j') ∨
      (i + (needle.length - 1 - j) = i' + (needle.length - 1 - j') ∧ j' < j)) :
    left needle haystack i' j' < left needle haystack i j := by
  unfold left
  rcases h with hlt | ⟨heq, hlt⟩
  · have hmul : (haystack.length + needle.length - (i' + (needle.length - 1 - j')) + 1) *
        needle.length ≤ (haystack.length + needle.length - (i + (needle.length - 1 - j))) *
          needle.length :=
      Nat.mul_le_mul_right _ (by omega)
    rw [Nat.add_mul, Nat.one_mul] at hmul
    omega
  · rw [heq]
    omega

/-- **The loop ends**, with what the naive search returns. -/
theorem finishes (hne : needle ≠ []) (hn : needle.length + 1 < 2 ^ 31)
    (hfits : Fits needle haystack) (r : Nat) :
    ∀ d1 d2 i j, (machine needle haystack).Reachable (.looking d1 d2 i j) →
      left needle haystack i j < r →
        ∃ s, (machine needle haystack).Reachable s ∧ s.result = some (naive needle haystack) := by
  induction r with
  | zero => exact fun d1 d2 i j _ hlt => absurd hlt (Nat.not_lt_zero _)
  | succ r ih =>
    intro d1 d2 i j hs hleft
    obtain ⟨s', hrun, hinv', hforward⟩ := round_inv (reachable_inv hne hn hfits hs) (by omega)
      (hfits.moves hs)
    have hs' : (machine needle haystack).Reachable s' :=
      Machine.ReachedBy.step (e := ()) hs trivial hrun
    cases s' with
    | start => exact hforward.elim
    | looking d1' d2' i' j' =>
      have hi : i < haystack.length := by
        by_contra hout
        rw [round, if_neg hout] at hrun
        cases hrun
      obtain ⟨-, q, -, hwin⟩ := reachable_inv hne hn hfits hs
      obtain ⟨-, q', -, hwin'⟩ := hinv'
      have hlt := left_lt hi hwin.lt hwin'.lt hforward
      exact ih d1' d2' i' j' hs' (by omega)
    | found r => exact ⟨_, hs', by rw [naive_of_found hne hinv']; rfl⟩
    | absent => exact ⟨_, hs', by rw [naive_of_absent hinv']; rfl⟩

/-! ## The search as a whole -/

/-- A search whose input fits is right. -/
theorem Fits.correct (hne : needle ≠ []) (hn : needle.length + 1 < 2 ^ 31)
    (hfits : Fits needle haystack) : Correct needle haystack where
  inside := fun s hs => by
    rcases step_inv hne hn hfits hs (reachable_inv hne hn hfits hs) with ⟨s', hrun, -⟩ | hblocked
    · exact Outcome.not_aborts_of_next hrun
    · rw [hblocked]
      exact Outcome.blocked_not_aborts
  forward := fun s s' hs hstep => by
    rcases step_inv hne hn hfits hs (reachable_inv hne hn hfits hs) with
      ⟨s₁, hrun, -, hforward⟩ | hblocked
    · rw [hrun, Outcome.next_inj] at hstep
      exact hstep ▸ hforward
    · rw [hblocked] at hstep
      cases hstep
  result := by
    by_cases hhay : haystack = []
    · have hrun : step needle haystack .start = .next .absent := if_pos (.inr hhay)
      have hs : (machine needle haystack).Reachable .absent :=
        Machine.ReachedBy.step (e := ()) Machine.Reachable.init trivial hrun
      exact ⟨_, hs, by rw [naive_of_absent (reachable_inv hne hn hfits hs)]; rfl⟩
    · obtain ⟨d1, d2, hrun, -⟩ := step_start hne hhay (hfits.resolve_left hhay).1 hn
      exact finishes hne hn hfits _ d1 d2 _ _
        (Machine.ReachedBy.step (e := ()) Machine.Reachable.init trivial hrun) (Nat.lt_succ_self _)

/-- The tables are the needle's. -/
def HasTables (needle : List UInt8) : Search → Prop
  | .looking d1 d2 _ j => Ready needle d1 d2 ∧ j < needle.length
  | _ => True

/-- **In every run**, whether or not it moves on. -/
theorem reachable_hasTables (hne : needle ≠ []) (hn : needle.length + 1 < 2 ^ 31)
    (hascii : ∀ b ∈ needle, b < 128) (hs : (machine needle haystack).Reachable s) :
    HasTables needle s := by
  have hpos := List.length_pos_iff.2 hne
  refine hs.invariant trivial fun s _ s' _ h (hstep : step needle haystack s = .next s') => ?_
  cases s with
  | start =>
    by_cases hhay : haystack = []
    · rw [step, if_pos (.inr hhay), Outcome.next_inj] at hstep
      exact hstep ▸ trivial
    · obtain ⟨d1, d2, hrun, hready⟩ := step_start hne hhay hascii hn
      rw [hrun, Outcome.next_inj] at hstep
      exact hstep ▸ ⟨hready, by omega⟩
  | looking d1 d2 i j =>
    rw [step, round] at hstep
    split at hstep
    · split at hstep
      · simp only [Outcome.bind_eq_next] at hstep
        obtain ⟨v1, -, v2, -, hstep⟩ := hstep
        rw [Outcome.pure_eq, Outcome.next_inj] at hstep
        exact hstep ▸ ⟨h.1, by omega⟩
      · split at hstep
        · rw [Outcome.next_inj] at hstep
          exact hstep ▸ trivial
        · rw [Outcome.next_inj] at hstep
          exact hstep ▸ ⟨h.1, Nat.lt_of_le_of_lt (Nat.sub_le j 1) h.2⟩
    · rw [Outcome.next_inj] at hstep
      exact hstep ▸ trivial
  | found r => cases hstep
  | absent => cases hstep

/-- A byte that is no ASCII character is past the end of the first table. -/
theorem read_char_aborts (h : Ready needle d1 d2) (hc : ¬ c < 128) :
    (d1.read (toSizeT (char c))).Aborts := by
  have hge : 128 ≤ c.toNat := Nat.not_lt.1 fun hlt => hc (UInt8.lt_iff_toNat_lt.2 hlt)
  have hlt := c.toNat_lt
  refine Ints.read_aborts (.inr ?_)
  rw [h.size₁, char, if_neg hc, toSizeT]
  omega

/-- A search that is right has an input that fits. -/
theorem Correct.fits (hne : needle ≠ []) (hn : needle.length + 1 < 2 ^ 31)
    (h : Correct needle haystack) : Fits needle haystack := by
  by_cases hhay : haystack = []
  · exact .inl hhay
  have hascii : ∀ b ∈ needle, b < 128 := by
    intro b hb
    by_contra hnot
    refine h.inside .start Machine.Reachable.init ?_
    rw [step, if_neg (not_or.2 ⟨hne, hhay⟩), Outcome.bind_aborts]
    exact .inl (preProcessDelta1_aborts ⟨b, hb, hnot⟩)
  refine .inr ⟨hascii, fun d1 d2 i j hs hi hmis => ?_⟩
  obtain ⟨hready, hj⟩ := reachable_hasTables hne hn hascii hs
  have hc : letter haystack i < 128 := by
    by_contra hc
    refine h.inside _ hs ?_
    rw [step, round, if_pos hi, if_pos hmis, Outcome.bind_aborts]
    exact .inl (read_char_aborts hready hc)
  obtain ⟨s1, s2, hrun, h₁, h₂⟩ := round_mismatch hready (by omega) hj hi hmis hc
  have hforward := h.forward _ _ hs hrun
  refine ⟨hc, (movesOn_iff hj hmis h₁ h₂).1 ?_⟩
  rcases hforward with hlt | ⟨-, hlt⟩
  · omega
  · omega

/-- **When a search is right**: it finds what the naive search finds, inside of its tables
and forward in each round, if and only if the bytes it looks up are ASCII characters and
every mismatch moves the window on. -/
theorem booyerMoore_iff (needle haystack : List UInt8) (hne : needle ≠ [])
    (hn : needle.length + 1 < 2 ^ 31) : Correct needle haystack ↔ Fits needle haystack :=
  ⟨fun h => h.fits hne hn, fun h => h.correct hne hn⟩

/-- `ab` in `bab`. -/
theorem booyerMoore_iff_ab :
    Correct [97, 98] [98, 97, 98] ↔ Fits [97, 98] [98, 97, 98] :=
  booyerMoore_iff [97, 98] [98, 97, 98] (by decide) (by decide)

/-- **Two searches that go wrong**: for `é` in UTF-8, whose first byte is written past the
front of a table, and for `xababab` in `aaaabab`, where the window goes back. -/
theorem booyerMoore_wrong :
    ¬ Correct [0xC3, 0xA9] [0x61] ∧
      ¬ Correct [120, 97, 98, 97, 98, 97, 98] [97, 97, 97, 97, 98, 97, 98] := by
  constructor
  · intro h
    refine h.inside .start Machine.Reachable.init (Outcome.aborts_of_aborted ?_)
    decide
  · intro h
    obtain ⟨s, hs, hback⟩ := Machine.Reachable.exists_of_run
      (M := machine [120, 97, 98, 97, 98, 97, 98] [97, 97, 97, 97, 98, 97, 98])
      (List.replicate 5 ())
      (fun s => (step [120, 97, 98, 97, 98, 97, 98] [97, 97, 97, 97, 98, 97, 98] s).toOption.any
        fun s' => !decide (Forward 7 s s')) (by decide)
    obtain ⟨s', hstep, hnot⟩ := (Option.any_eq_true _ _).1 hback
    have hforward : Forward 7 s s' := h.forward s s' hs (Outcome.toOption_eq_some.1 hstep)
    rw [decide_eq_true hforward] at hnot
    cases hnot

end BooyerMoore

end FlexRic
