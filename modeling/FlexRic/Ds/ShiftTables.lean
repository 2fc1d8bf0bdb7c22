import FlexRic.Lib.Borders
import FlexRic.Lib.Ints
import Mathlib.Data.List.GetD

/-!
# FlexRic.Ds.ShiftTables

The two tables that a Boyer-Moore search is prepared with (`pre_process_delta_1` and
`pre_process_delta_2` of `alg/string/booyer_moore.c`).

* `char` is signed, so a byte from 128 on is a negative index into the first table:
  `preProcessDelta1_eq`, `preProcessDelta1_aborts`.
* The second table is filled along the borders of the needle's suffixes.  `Cursor` is
  where the inner loop is on them; `preProcessDelta2_eq`: the entry for the suffix from
  `p` on is the least distance the needle can be moved on.
-/

namespace FlexRic

namespace BooyerMoore

/-- The value of a `char`. -/
def char (b : UInt8) : Int := if b < 128 then b.toNat else b.toNat - 256

/-- `needle[k]`, for a position inside of it. -/
def letter (needle : List UInt8) (k : Nat) : UInt8 := needle.getD k 0

/-! ## The rightmost occurrence of a character -/

/-- `for(i = 0; i < len; ++i) d.arr[(int)needle[i]] = i;` from position `i` on. -/
def fillDelta1 : List UInt8 → Nat → Ints → Outcome Ints
  | [], _, d => .next d
  | b :: bs, i, d => do
    let d ← d.write (char b) (toInt i)
    fillDelta1 bs (i + 1) d

/-- `pre_process_delta_1`. -/
def preProcessDelta1 (needle : List UInt8) : Outcome Ints :=
  fillDelta1 needle 0 ⟨256, fun _ => -1⟩

/-! ## The good suffixes -/

/-- `if(a[k] == 0) a[k] = v;` -/
def writeIfZero (a : Ints) (k : Nat) (v : Int) : Outcome Ints := do
  let old ← a.read k
  if old = 0 then a.write k v else .next a

/-- The inner loop of `pre_process_delta_2`; it goes on to later and later positions. -/
def fallBack (needle : List UInt8) (pattern : Ints) (i : Nat) :
    Nat → Ints → Nat → Outcome (Ints × Nat)
  | 0, _, _ => .blocked
  | fuel + 1, shift, j =>
    if j < needle.length + 1 ∧ letter needle (i - 1) ≠ letter needle (j - 1) then do
      let shift ← writeIfZero shift j (toInt (j - i : Nat))
      let next ← pattern.read j
      fallBack needle pattern i fuel shift (toSizeT next)
    else .next (shift, j)

/-- The loop from position `i` down, which leaves the two arrays. -/
def fillDelta2 (needle : List UInt8) : Nat → Nat → Ints → Ints → Outcome (Ints × Ints)
  | 0, _, shift, pattern => .next (shift, pattern)
  | i + 1, j, shift, pattern => do
    let fallen ← fallBack needle pattern (i + 1) (needle.length + 2) shift j
    let pattern ← pattern.write i (toInt (fallen.2 - 1 : Nat))
    fillDelta2 needle i (fallen.2 - 1) fallen.1 pattern

/-- `if(j == i) j = pattern[j];` -/
def nextBorder (pattern : Ints) (i j : Nat) : Outcome Nat :=
  if j = i then do
    let next ← pattern.read j
    return toSizeT next
  else .next j

/-- The loop of the second case, for `r` positions from `i` on. -/
def fillBorders (pattern : Ints) : Nat → Nat → Nat → Ints → Outcome Ints
  | 0, _, _, shift => .next shift
  | r + 1, i, j, shift => do
    let shift ← writeIfZero shift i (toInt j)
    let j ← nextBorder pattern i j
    fillBorders pattern r (i + 1) j shift

/-- `pre_process_delta_2`. -/
def preProcessDelta2 (needle : List UInt8) : Outcome Ints := do
  let len := needle.length
  let pattern ← (Ints.calloc (len + 1)).write len (toInt (len + 1 : Nat))
  let tables ← fillDelta2 needle len (len + 1) (Ints.calloc (len + 1)) pattern
  let first ← tables.2.read 0
  fillBorders tables.2 (len + 1) 0 (toSizeT first) tables.1

/-! ## What the first table says -/

variable {needle bs : List UInt8} {b c : UInt8} {d d' : Ints} {i j : Nat}

theorem char_of_lt (h : b < 128) : char b = b.toNat := if_pos h

theorem char_neg (h : ¬ b < 128) : char b < 0 := by
  have hlt := b.toNat_lt
  rw [char, if_neg h]
  omega

/-- The entry is the position of the last occurrence, or what it was. -/
def Last (bs : List UInt8) (i : Nat) (c : UInt8) (old v : Int) : Prop :=
  (c ∉ bs ∧ v = old) ∨
    ∃ k, bs[k]? = some c ∧ c ∉ bs.drop (k + 1) ∧ v = (i + k : Nat)

theorem Last.cons {old v : Int} (h : Last bs (i + 1) c (if c = b then (i : Int) else old) v) :
    Last (b :: bs) i c old v := by
  rcases h with ⟨hc, hv⟩ | ⟨k, hk, hc, hv⟩
  · by_cases hcb : c = b
    · rw [if_pos hcb] at hv
      exact .inr ⟨0, by rw [hcb]; rfl, hc, hv⟩
    · rw [if_neg hcb] at hv
      exact .inl ⟨fun hmem => (List.mem_cons.1 hmem).elim hcb hc, hv⟩
  · refine .inr ⟨k + 1, hk, hc, ?_⟩
    rw [hv]
    omega

theorem fillDelta1_eq (hbs : ∀ b ∈ bs, b < 128) (hlen : i + bs.length ≤ 2 ^ 31)
    (hsize : d.size = 256) :
    ∃ d', fillDelta1 bs i d = .next d' ∧ d'.size = 256 ∧
      ∀ c : UInt8, Last bs i c (d.get c.toNat) (d'.get c.toNat) := by
  induction bs generalizing i d with
  | nil => exact ⟨d, rfl, hsize, fun c => .inl ⟨List.not_mem_nil, rfl⟩⟩
  | cons b bs ih =>
    have hb := hbs b List.mem_cons_self
    have hlt := b.toNat_lt
    rw [List.length_cons] at hlen
    have hwrite : d.write (char b) (toInt i) = .next (d.put b.toNat i) := by
      rw [char_of_lt hb, toInt_of_lt (by omega)]
      exact Ints.write_of_lt (by omega)
    obtain ⟨d', hfill, hsize', hd'⟩ :=
      ih (i := i + 1) (d := d.put b.toNat i) (fun c hc => hbs c (List.mem_cons_of_mem b hc))
        (by omega) hsize
    refine ⟨d', ?_, hsize', fun c => Last.cons ?_⟩
    · rw [fillDelta1, hwrite, Outcome.next_bind, hfill]
    · have hold : (d.put b.toNat i).get c.toNat = if c = b then (i : Int) else d.get c.toNat := by
        by_cases hcb : c = b
        · rw [if_pos hcb, hcb, Ints.get_put_self]
        · rw [if_neg hcb, Ints.get_put_of_ne fun heq => hcb (UInt8.toNat_inj.1 heq)]
      have hlast := hd' c
      rwa [hold] at hlast

/-- **The first table**, of a needle of ASCII characters. -/
theorem preProcessDelta1_eq (hbs : ∀ b ∈ needle, b < 128) (hlen : needle.length ≤ 2 ^ 31) :
    ∃ d, preProcessDelta1 needle = .next d ∧ d.size = 256 ∧
      ∀ c : UInt8, Last needle 0 c (-1) (d.get c.toNat) :=
  fillDelta1_eq hbs (by omega) rfl

theorem fillDelta1_aborts (hbs : ∃ b ∈ bs, ¬ b < 128) : (fillDelta1 bs i d).Aborts := by
  induction bs generalizing i d with
  | nil =>
    obtain ⟨b, hb, -⟩ := hbs
    cases hb
  | cons b bs ih =>
    rw [fillDelta1, Outcome.bind_aborts]
    by_cases hb : b < 128
    · cases hw : d.write (char b) (toInt i) with
      | next d' =>
        refine .inr ⟨d', rfl, ih ?_⟩
        obtain ⟨b', hmem, hb'⟩ := hbs
        rcases List.mem_cons.1 hmem with rfl | hmem
        · exact absurd hb hb'
        · exact ⟨b', hmem, hb'⟩
      | abort m => exact .inl ⟨m, rfl⟩
      | blocked =>
        unfold Ints.write at hw
        split at hw <;> cases hw
    · exact .inl (Ints.write_aborts (.inl (char_neg hb)))

/-- **Any other needle** is written past the front of the table. -/
theorem preProcessDelta1_aborts (hbs : ∃ b ∈ needle, ¬ b < 128) :
    (preProcessDelta1 needle).Aborts :=
  fillDelta1_aborts hbs

/-! ## Along the borders -/

section Borders

variable {w : Nat → UInt8} {n p : Nat} {lo : Nat → Nat} {shift pattern : Ints}

/-- The longest borders of the suffixes from `lo` on; the empty one has `n + 1`. -/
structure Pattern (w : Nat → UInt8) (n lo : Nat) (pattern : Ints) : Prop where
  size : pattern.size = n + 1
  last : pattern.get n = (n + 1 : Nat)
  get : ∀ k, lo ≤ k → k < n → ∃ q : Nat, pattern.get k = q ∧ Widest w n k q

/-- The table of shifts after the suffixes from `lo p` on. -/
structure Filled (w : Nat → UInt8) (n : Nat) (lo : Nat → Nat) (shift : Ints) : Prop where
  size : shift.size = n + 1
  get : ∀ p, 0 < p → p ≤ n → ∃ v : Nat, shift.get p = v ∧ First w n (lo p) p v

/-- The inner loop has come to `j` on the borders of the suffix from `i` on. -/
structure Cursor (w : Nat → UInt8) (n i j : Nat) : Prop where
  border : j = n + 1 ∨ Border w n i j
  ne : ∀ p, Border w n i p → p < j → w (i - 1) ≠ w (p - 1)

theorem Filled.mono {lo' : Nat → Nat} (h : Filled w n lo shift)
    (hlo : ∀ p v, 0 < p → p ≤ n → First w n (lo p) p v → First w n (lo' p) p v) :
    Filled w n lo' shift where
  size := h.size
  get := fun p hp hn =>
    let ⟨v, hv, hfirst⟩ := h.get p hp hn
    ⟨v, hv, hlo p v hp hn hfirst⟩

theorem writeIfZero_eq {a : Ints} {k : Nat} {v : Int} (hk : k < a.size) :
    writeIfZero a k v = .next (if a.get k = 0 then a.put k v else a) := by
  rw [writeIfZero, Ints.read_of_lt hk, Outcome.next_bind]
  by_cases hz : a.get k = 0
  · rw [if_pos hz, if_pos hz, Ints.write_of_lt hk]
  · rw [if_neg hz, if_neg hz]

/-- **The entry of a border with another letter in front of it** is entered. -/
theorem Filled.enter (h : Filled w n (fun p => if p < j then i else i + 1) shift)
    (hclash : Clash w n i j) (hn : n + 1 < 2 ^ 31) :
    ∃ shift', writeIfZero shift j (toInt (j - i : Nat)) = .next shift' ∧
      Filled w n (fun p => if p ≤ j then i else i + 1) shift' := by
  have hle := hclash.border.le
  have hlt := hclash.border.lt
  have hj : j < shift.size := by rw [h.size]; omega
  obtain ⟨v, hv, hfirst⟩ := h.get j (by omega) hle
  simp only [Nat.lt_irrefl, if_false] at hfirst
  refine ⟨_, writeIfZero_eq hj, ?_, fun p hp hpn => ?_⟩
  · split <;> exact h.size
  · by_cases hpj : p = j
    · subst hpj
      refine ⟨if v = 0 then p - i else v, ?_, ?_⟩
      · rw [hv, toInt_of_lt (by omega)]
        by_cases hz : v = 0
        · rw [if_pos (by rw [hz]; rfl), if_pos hz, Ints.get_put_self]
        · rw [if_neg (by omega), if_neg hz, hv]
      · rw [if_pos (Nat.le_refl p)]
        exact hfirst.of_clash hclash
    · obtain ⟨u, hu, hfirstp⟩ := h.get p hp hpn
      refine ⟨u, ?_, ?_⟩
      · split
        · rw [Ints.get_put_of_ne hpj, hu]
        · exact hu
      · have hiff : p ≤ j ↔ p < j := by omega
        simp only [hiff]
        exact hfirstp

/-- The next border, which the table of patterns has. -/
theorem Pattern.next (h : Pattern w n i pattern) (hcur : Cursor w n i j) (hb : Border w n i j)
    (hne : w (i - 1) ≠ w (j - 1)) :
    ∃ q : Nat, pattern.get j = q ∧ j < q ∧ q ≤ n + 1 ∧ Cursor w n i q ∧
      ∀ p, Border w n i p → j < p → q ≤ p := by
  have hvisited : ∀ p, Border w n i p → p ≤ j → w (i - 1) ≠ w (p - 1) := by
    intro p hp hle
    rcases Nat.lt_or_eq_of_le hle with hlt | rfl
    · exact hcur.ne p hp hlt
    · exact hne
  rcases Nat.lt_or_eq_of_le hb.le with hlt | rfl
  · obtain ⟨q, hq, hw⟩ := h.get j (Nat.le_of_lt hb.lt) hlt
    obtain ⟨hiq, hleast⟩ := hb.next hw
    refine ⟨q, hq, hw.1.lt, Nat.le_succ_of_le hiq.le, ⟨.inr hiq, fun p hp hpq => ?_⟩, hleast⟩
    by_cases hle : p ≤ j
    · exact hvisited p hp hle
    · have := hleast p hp (by omega)
      omega
  · refine ⟨j + 1, h.last, Nat.lt_succ_self j, Nat.le_refl _, ⟨.inl rfl, fun p hp _ => ?_⟩,
      fun p hp hlt => hlt⟩
    exact hvisited p hp hp.le

/-- **The inner loop** stops where the letters agree, or past the empty border; every
border with another letter in front is entered. -/
theorem fallBack_eq {fuel : Nat} (hi : 0 < i) (hin : i ≤ needle.length)
    (hn : needle.length + 1 < 2 ^ 31)
    (hpat : Pattern (letter needle) needle.length i pattern)
    (hfilled : Filled (letter needle) needle.length (fun p => if p < j then i else i + 1) shift)
    (hcur : Cursor (letter needle) needle.length i j) (hj : j ≤ needle.length + 1)
    (hfuel : needle.length + 1 - j < fuel) :
    ∃ shift' j', fallBack needle pattern i fuel shift j = .next (shift', j') ∧
      Filled (letter needle) needle.length (fun _ => i) shift' ∧
      Cursor (letter needle) needle.length i j' ∧
      (j' = needle.length + 1 ∨ letter needle (i - 1) = letter needle (j' - 1)) := by
  induction fuel generalizing shift j with
  | zero => omega
  | succ fuel ih =>
    rw [fallBack]
    by_cases hgo : j < needle.length + 1 ∧ letter needle (i - 1) ≠ letter needle (j - 1)
    · obtain ⟨hlt, hne⟩ := hgo
      have hb := hcur.border.resolve_left (by omega)
      obtain ⟨shift₁, hwrite, h₁⟩ := hfilled.enter ⟨hi, hb, hne⟩ hn
      obtain ⟨q, hq, hjq, hqn, hcur', hleast⟩ := hpat.next hcur hb hne
      have hread : pattern.read j = .next q := by
        rw [Ints.read_of_lt (by rw [hpat.size]; exact hlt), hq]
      have h₂ : Filled (letter needle) needle.length (fun p => if p < q then i else i + 1)
          shift₁ := by
        refine h₁.mono fun p v hp hpn hfirst => ?_
        by_cases hpj : p ≤ j
        · rw [if_pos hpj] at hfirst
          rw [if_pos (by omega)]
          exact hfirst
        · rw [if_neg hpj] at hfirst
          split
          · refine hfirst.of_not fun hclash => ?_
            have := hleast p hclash.border (by omega)
            omega
          · exact hfirst
      rw [if_pos ⟨hlt, hne⟩, hwrite, Outcome.next_bind, hread, Outcome.next_bind,
        toSizeT_of_lt (by omega)]
      exact ih h₂ hcur' hqn (by omega)
    · have hstop : j = needle.length + 1 ∨ letter needle (i - 1) = letter needle (j - 1) := by
        by_cases hlt : j < needle.length + 1
        · exact .inr (not_not.1 fun hne => hgo ⟨hlt, hne⟩)
        · exact .inl (by omega)
      rw [if_neg hgo]
      refine ⟨shift, j, rfl, hfilled.mono fun p v hp hpn hfirst => ?_, hcur, hstop⟩
      by_cases hpj : p < j
      · rwa [if_pos hpj] at hfirst
      · rw [if_neg hpj] at hfirst
        refine hfirst.of_not fun hclash => ?_
        -- a border further on was entered for the border the loop stopped at
        rcases hstop with hend | heq
        · omega
        · have hb : Border (letter needle) needle.length i j :=
            hcur.border.resolve_left (by have := hclash.border.le; omega)
          rcases Nat.lt_or_eq_of_le (Nat.not_lt.1 hpj) with hlt | rfl
          · refine ⟨j, hb.lt, Nat.zero_lt_of_lt hb.lt, hb.of_lt hclash.border hlt, ?_⟩
            rw [← heq]
            exact hclash.ne
          · exact absurd heq hclash.ne

/-- What the outer loop has at position `i`: the longest border of the suffix from there. -/
def Entry (w : Nat → UInt8) (n i j : Nat) : Prop :=
  (i = n ∧ j = n + 1) ∨ (i < n ∧ Widest w n i j)

theorem Entry.le_border (h : Entry w n i j) (hp : Border w n i p) : j ≤ p := by
  rcases h with ⟨rfl, rfl⟩ | ⟨-, hw⟩
  · exact absurd hp.lt (Nat.not_lt.2 hp.le)
  · exact hw.2 hp

theorem Entry.cursor (h : Entry w n i j) : Cursor w n i j where
  border := h.imp (fun hend => hend.2) fun hw => hw.2.1
  ne := fun _ hp hlt => absurd (h.le_border hp) (Nat.not_le.2 hlt)

theorem Entry.le (h : Entry w n i j) : j ≤ n + 1 := by
  rcases h with ⟨-, rfl⟩ | ⟨-, hw⟩
  · exact Nat.le_refl _
  · exact Nat.le_succ_of_le hw.1.le

/-- Where the inner loop stopped, the suffix with one more letter has its longest border. -/
theorem Cursor.entry (h : Cursor w n (i + 1) j) (hin : i + 1 ≤ n)
    (hstop : j = n + 1 ∨ w i = w (j - 1)) : Widest w n i (j - 1) := by
  have hleast : ∀ q, Border w n i q → q < n → j ≤ q + 1 := by
    intro q hq hqn
    obtain ⟨hq', hw⟩ := (border_iff_succ hqn).1 hq
    by_contra hlt
    exact h.ne (q + 1) hq' (by omega) hw
  refine ⟨?_, fun q hq => ?_⟩
  · rcases h.border with rfl | hb
    · exact Border.empty (by omega)
    · have hlt := hb.lt
      have hle := hb.le
      rcases hstop with hend | heq
      · omega
      · refine (border_iff_succ (by omega)).2 ⟨?_, heq⟩
        rwa [Nat.sub_add_cancel (by omega)]
  · rcases Nat.lt_or_eq_of_le (show q ≤ n from hq.le) with hqn | rfl
    · have := hleast q hq hqn
      omega
    · rcases h.border with rfl | hb
      · exact Nat.le_refl _
      · have := hb.le
        omega

/-- **The outer loop** leaves the longest borders of all suffixes, and the distances to the
borders with another letter in front. -/
theorem fillDelta2_eq (hin : i ≤ needle.length) (hn : needle.length + 1 < 2 ^ 31)
    (hpat : Pattern (letter needle) needle.length i pattern)
    (hfilled : Filled (letter needle) needle.length (fun _ => i + 1) shift)
    (hentry : Entry (letter needle) needle.length i j) :
    ∃ shift' pattern', fillDelta2 needle i j shift pattern = .next (shift', pattern') ∧
      Filled (letter needle) needle.length (fun _ => 1) shift' ∧
      Pattern (letter needle) needle.length 0 pattern' := by
  induction i generalizing j shift pattern with
  | zero => exact ⟨shift, pattern, rfl, hfilled, hpat⟩
  | succ i ih =>
    have hfilled' : Filled (letter needle) needle.length
        (fun p => if p < j then i + 1 else i + 1 + 1) shift := by
      refine hfilled.mono fun p v _ _ hfirst => ?_
      by_cases hpj : p < j
      · rw [if_pos hpj]
        exact hfirst.of_not fun hclash =>
          absurd (hentry.le_border hclash.border) (Nat.not_le.2 hpj)
      · rwa [if_neg hpj]
    obtain ⟨shift₁, j₁, hfall, h₁, hcur, hstop⟩ := fallBack_eq (Nat.succ_pos i) hin hn hpat hfilled'
      hentry.cursor hentry.le (show _ < needle.length + 2 by omega)
    have hwidest := hcur.entry hin hstop
    have hle := hwidest.1.le
    have hwrite : pattern.write i (toInt (j₁ - 1 : Nat)) =
        .next (pattern.put i (j₁ - 1 : Nat)) := by
      rw [toInt_of_lt (by omega)]
      exact Ints.write_of_lt (by rw [hpat.size]; omega)
    have hpat' : Pattern (letter needle) needle.length i (pattern.put i (j₁ - 1 : Nat)) := by
      refine ⟨hpat.size, ?_, fun k hk hkn => ?_⟩
      · rw [Ints.get_put_of_ne (by omega), hpat.last]
      · rcases Nat.eq_or_lt_of_le hk with rfl | hlt
        · exact ⟨j₁ - 1, Ints.get_put_self, hwidest⟩
        · rw [Ints.get_put_of_ne (by omega)]
          exact hpat.get k hlt hkn
    obtain ⟨shift', pattern', hrest, hres⟩ :=
      ih (Nat.le_of_succ_le hin) hpat' h₁ (.inr ⟨hin, hwidest⟩)
    refine ⟨shift', pattern', ?_, hres⟩
    rw [fillDelta2, hfall, Outcome.next_bind, hwrite, Outcome.next_bind, hrest]

/-- The table before the second case came to position `i`, and after it. -/
structure Bordered (w : Nat → UInt8) (n i : Nat) (shift : Ints) : Prop where
  size : shift.size = n + 1
  done : ∀ p, 0 < p → p < i → p ≤ n → ∃ v : Nat, shift.get p = v ∧ LeastShift w n p v
  first : ∀ p, 0 < p → i ≤ p → p ≤ n → ∃ v : Nat, shift.get p = v ∧ First w n 1 p v

/-- The next border of the whole word from position `i` on. -/
abbrev NextBorder (w : Nat → UInt8) (n i j : Nat) : Prop :=
  IsLeast {q | i ≤ q ∧ Border w n 0 q} j

theorem Bordered.enter (h : Bordered w n i shift) (hin : i ≤ n) (hj : NextBorder w n i j)
    (hn : n + 1 < 2 ^ 31) :
    ∃ shift', writeIfZero shift i (toInt j) = .next shift' ∧ Bordered w n (i + 1) shift' := by
  have hi : i < shift.size := by rw [h.size]; omega
  have hjn := hj.1.2.le
  have hget : ∀ p, p ≠ i → (if shift.get i = 0 then shift.put i (toInt j) else shift).get p =
      shift.get p := by
    intro p hp
    split
    · exact Ints.get_put_of_ne hp
    · rfl
  refine ⟨_, writeIfZero_eq hi, ?_, fun p hp hpi hpn => ?_, fun p hp hip hpn => ?_⟩
  · split <;> exact h.size
  · rcases Nat.lt_or_eq_of_le (Nat.le_of_lt_succ hpi) with hlt | rfl
    · rw [hget p (Nat.ne_of_lt hlt)]
      exact h.done p hp hlt hpn
    · obtain ⟨v, hv, hfirst⟩ := h.first p hp (Nat.le_refl p) hpn
      refine ⟨_, ?_, hfirst.least hpn hj⟩
      rw [hv, toInt_of_lt (by omega)]
      by_cases hz : v = 0
      · rw [if_pos (by rw [hz]; rfl), if_pos hz, Ints.get_put_self]
      · rw [if_neg (by omega), if_neg hz, hv]
  · rw [hget p (by omega)]
    exact h.first p hp (by omega) hpn

/-- **The border from the next position on**, as long as there is a next position. -/
theorem Pattern.nextBorder_eq (h : Pattern w n 0 pattern) (hin : i ≤ n) (hj : NextBorder w n i j)
    (hn : n + 1 < 2 ^ 31) :
    ∃ j', nextBorder pattern i j = .next j' ∧ (i < n → NextBorder w n (i + 1) j') := by
  rw [nextBorder]
  by_cases hji : j = i
  · subst hji
    have hread : pattern.read j = .next (pattern.get j) :=
      Ints.read_of_lt (by rw [h.size]; omega)
    rw [if_pos rfl, hread]
    refine ⟨_, rfl, fun hlt => ?_⟩
    obtain ⟨q, hq, hw⟩ := h.get j (Nat.zero_le j) hlt
    have hle := hw.1.le
    obtain ⟨hb, hleast⟩ := hj.1.2.next hw
    rw [hq, toSizeT_of_lt (by omega)]
    exact ⟨⟨hw.1.lt, hb⟩, fun p hp => hleast p hp.2 hp.1⟩
  · have hle := hj.1.1
    rw [if_neg hji]
    refine ⟨j, rfl, fun _ => ⟨⟨by omega, hj.1.2⟩, fun p hp => ?_⟩⟩
    exact hj.2 ⟨Nat.le_of_succ_le hp.1, hp.2⟩

/-- **The second case** enters the borders of the whole word. -/
theorem fillBorders_eq {r : Nat} (hr : i + r = n + 1) (hn : n + 1 < 2 ^ 31)
    (hpat : Pattern w n 0 pattern) (hshift : Bordered w n i shift)
    (hj : i ≤ n → NextBorder w n i j) :
    ∃ shift', fillBorders pattern r i j shift = .next shift' ∧ Bordered w n (n + 1) shift' := by
  induction r generalizing i j shift with
  | zero =>
    rw [Nat.add_zero] at hr
    exact ⟨shift, rfl, hr ▸ hshift⟩
  | succ r ih =>
    have hin : i ≤ n := by omega
    obtain ⟨shift₁, hwrite, h₁⟩ := hshift.enter hin (hj hin) hn
    obtain ⟨j', hnext, hj'⟩ := hpat.nextBorder_eq hin (hj hin) hn
    obtain ⟨shift', hrest, h'⟩ := ih (by omega) h₁ hj'
    refine ⟨shift', ?_, h'⟩
    rw [fillBorders, hwrite, Outcome.next_bind, hnext, Outcome.next_bind, hrest]

end Borders

/-- **The second table**: the entry for the suffix from `p` on is the least distance the
needle can be moved on, where this suffix was found and the letter before it was not. -/
theorem preProcessDelta2_eq (hne : needle ≠ []) (hn : needle.length + 1 < 2 ^ 31) :
    ∃ d, preProcessDelta2 needle = .next d ∧ d.size = needle.length + 1 ∧
      ∀ p, 0 < p → p ≤ needle.length →
        ∃ v : Nat, d.get p = v ∧ LeastShift (letter needle) needle.length p v := by
  have hpos : 0 < needle.length := List.length_pos_iff.2 hne
  have hwrite : (Ints.calloc (needle.length + 1)).write needle.length
      (toInt (needle.length + 1 : Nat)) =
      .next ((Ints.calloc (needle.length + 1)).put needle.length (needle.length + 1 : Nat)) := by
    rw [toInt_of_lt hn]
    exact Ints.write_of_lt (Nat.lt_succ_self _)
  have hpat : Pattern (letter needle) needle.length needle.length
      ((Ints.calloc (needle.length + 1)).put needle.length (needle.length + 1 : Nat)) :=
    ⟨rfl, Ints.get_put_self, fun k hk hlt => absurd hlt (Nat.not_lt.2 hk)⟩
  have hfilled : Filled (letter needle) needle.length (fun _ => needle.length + 1)
      (Ints.calloc (needle.length + 1)) :=
    ⟨rfl, fun p _ _ => ⟨0, rfl, First.start⟩⟩
  obtain ⟨shift, pattern, hfill, hshift, hpattern⟩ :=
    fillDelta2_eq (Nat.le_refl _) hn hpat hfilled (.inl ⟨rfl, rfl⟩)
  obtain ⟨q, hq, hw⟩ := hpattern.get 0 (Nat.le_refl 0) hpos
  have hqle := hw.1.le
  have hread : pattern.read (0 : Nat) = .next q := by
    rw [Ints.read_of_lt (by rw [hpattern.size]; omega), hq]
  have hbordered : Bordered (letter needle) needle.length 0 shift :=
    ⟨hshift.size, fun p _ hp _ => absurd hp (Nat.not_lt_zero p), fun p hp _ hpn =>
      hshift.get p hp hpn⟩
  obtain ⟨d, hborders, hd⟩ := fillBorders_eq (Nat.zero_add _) hn hpattern hbordered
    fun _ => ⟨⟨Nat.zero_le q, hw.1⟩, fun p hp => hw.2 hp.2⟩
  refine ⟨d, ?_, hd.size, fun p hp hpn => hd.done p hp (Nat.lt_succ_of_le hpn) hpn⟩
  rw [preProcessDelta2, hwrite, Outcome.next_bind, hfill, Outcome.next_bind]
  show ((pattern.read (0 : Nat)) >>= fun first => fillBorders pattern _ 0 (toSizeT first) shift) = _
  rw [hread, Outcome.next_bind, toSizeT_of_lt (by omega), hborders]

end BooyerMoore

end FlexRic
