import FlexRic.Lib.Copies
import Mathlib.Data.List.TakeWhile

/-!
# FlexRic.Lib.Format

What the conversions of `printf` make of their arguments, as octets without a NUL.

* `text`, `decimal`, `signed`, `hex`, `string` and `fixed2` are a literal, `%u`, `%d` (and
  `%ld`), `%x`, `%s` and `%.2f`;
* `NoNul`: none of them has a NUL, so that `strlen` finds the end of what they write.
-/

namespace FlexRic

namespace Format

open Plain

/-- The octets of ASCII characters. -/
def ascii (cs : List Char) : List Octet := cs.map fun c => c.toNat.toUInt8

/-- Literal text. -/
def text (s : String) : List Octet := ascii s.toList

/-- `%u`. -/
def decimal (n : Nat) : List Octet := ascii (Nat.toDigits 10 n)

/-- `%d`. -/
def signed : Int → List Octet
  | .ofNat n => decimal n
  | .negSucc n => text "-" ++ decimal (n + 1)

/-- `%x`. -/
def hex (n : Nat) : List Octet := ascii (Nat.toDigits 16 n)

/-- `strlen`. -/
def strlen (bs : List Octet) : Nat := (bs.takeWhile (· != 0)).length

/-- `%s` of a string in a block, with a NUL in it or behind it; where there is no block, the
pointer is `NULL`. -/
def string (s : Arr Octet) : List Octet :=
  if s.items = [] then text "(null)" else s.items.takeWhile (· != 0)

/-- The hundredths in `m * 2 ^ e`, rounded to nearest, ties to even. -/
def hundredths (m : Nat) (e : Int) : Nat :=
  match e with
  | .ofNat e => m * 100 * 2 ^ e
  | .negSucc e =>
    let d := 2 ^ (e + 1)
    let q := m * 100 / d
    let r := m * 100 % d
    if d < 2 * r ∨ (2 * r = d ∧ q % 2 = 1) then q + 1 else q

/-- `%.2f` of a `float`. -/
def fixed2 (x : FloatBits) : List Octet :=
  let sign := if x.toNat < 2 ^ 31 then [] else text "-"
  let exponent : Nat := x.toNat / 2 ^ 23 % 2 ^ 8
  let fraction : Nat := x.toNat % 2 ^ 23
  if exponent = 255 then sign ++ text (if fraction = 0 then "inf" else "nan")
  else
    let q := if exponent = 0 then hundredths fraction (1 - 150)
      else hundredths (fraction + 2 ^ 23) (exponent - 150)
    sign ++ decimal (q / 100) ++ text "." ++ decimal (q % 100 / 10) ++ decimal (q % 10)

/-- Text that `strlen` sees to its end. -/
def NoNul (bs : List Octet) : Prop := ∀ b ∈ bs, b ≠ 0

instance (bs : List Octet) : Decidable (NoNul bs) :=
  decidable_of_iff (bs.all (· != 0) = true)
    (List.all_eq_true.trans (forall₂_congr fun _ _ => bne_iff_ne))

variable {bs cs : List Octet}

/-- A text has no zero in it exactly when its parts have none. -/
theorem noNul_append : NoNul (bs ++ cs) ↔ NoNul bs ∧ NoNul cs := List.forall_mem_append

theorem noNul_nil : NoNul [] := fun _ hb => by cases hb

/-- `strlen` counts all of a text without a zero. -/
theorem strlen_of_noNul (h : NoNul bs) : strlen bs = bs.length := by
  have hall : ∀ b ∈ bs, (b != 0) = true := fun b hb => bne_iff_ne.mpr (h b hb)
  rw [strlen, List.takeWhile_eq_self_iff.mpr hall]

/-- The first NUL ends the string. -/
theorem strlen_append_zero (h : NoNul bs) : strlen (bs ++ 0 :: cs) = bs.length := by
  induction bs with
  | nil => rfl
  | cons b bs ih =>
    have hb : (b != 0) = true := bne_iff_ne.mpr (h b List.mem_cons_self)
    have htail := ih fun x hx => h x (List.mem_cons_of_mem _ hx)
    rw [strlen] at htail ⊢
    rw [List.cons_append, List.takeWhile_cons, if_pos hb, List.length_cons, List.length_cons, htail]

/-- ASCII characters are no zeroes. -/
theorem noNul_ascii {s : List Char} (h : ∀ c ∈ s, 0 < c.toNat ∧ c.toNat < 256) :
    NoNul (ascii s) := by
  intro b hb
  obtain ⟨c, hc, rfl⟩ := List.mem_map.mp hb
  obtain ⟨hpos, hlt⟩ := h c hc
  intro heq
  have hnat := congrArg UInt8.toNat heq
  rw [Nat.toUInt8, UInt8.toNat_ofNat', Nat.mod_eq_of_lt hlt] at hnat
  exact absurd hnat (Nat.ne_of_gt hpos)

/-- A digit of a base up to sixteen. -/
theorem digitChar_ascii : ∀ d < 16, 0 < (Nat.digitChar d).toNat ∧ (Nat.digitChar d).toNat < 256 := by
  decide

/-- Digits are ASCII characters. -/
theorem toDigits_ascii {base n : Nat} (hb : 1 < base) (hle : base ≤ 16) :
    ∀ c ∈ Nat.toDigits base n, 0 < c.toNat ∧ c.toNat < 256 := by
  induction n using Nat.strongRecOn with
  | ind n ih =>
    intro c hc
    rw [Nat.toDigits_eq_if hb] at hc
    by_cases hn : n < base
    · rw [if_pos hn] at hc
      rw [List.mem_singleton.mp hc]
      exact digitChar_ascii n (Nat.lt_of_lt_of_le hn hle)
    · rw [if_neg hn] at hc
      obtain hc | hc := List.mem_append.mp hc
      · exact ih (n / base) (Nat.div_lt_self (by omega) hb) c hc
      · rw [List.mem_singleton.mp hc]
        exact digitChar_ascii _ (Nat.lt_of_lt_of_le (Nat.mod_lt n (by omega)) hle)

theorem noNul_decimal (n : Nat) : NoNul (decimal n) :=
  noNul_ascii (toDigits_ascii (by decide) (by decide))

theorem noNul_hex (n : Nat) : NoNul (hex n) :=
  noNul_ascii (toDigits_ascii (by decide) (by decide))

/-- **A number below `10 ^ k` has at most `k` digits.** -/
theorem length_decimal_le {n k : Nat} (hk : 0 < k) (hn : n < 10 ^ k) : (decimal n).length ≤ k := by
  rw [decimal, ascii, List.length_map]
  exact (Nat.length_toDigits_le_iff (by decide) hk).mpr hn

/-- A number with its sign has at most one character more than its digits. -/
theorem length_signed_le {i : Int} {k : Nat} (hk : 0 < k) (hi : i.natAbs < 10 ^ k) :
    (signed i).length ≤ k + 1 := by
  cases i with
  | ofNat n => exact Nat.le_succ_of_le (length_decimal_le hk hi)
  | negSucc n =>
    rw [signed, List.length_append, Nat.add_comm]
    exact Nat.add_le_add_right (length_decimal_le hk hi) 1

theorem noNul_signed (i : Int) : NoNul (signed i) := by
  cases i with
  | ofNat n => exact noNul_decimal n
  | negSucc n => exact noNul_append.mpr ⟨by decide, noNul_decimal _⟩

/-- A string ends at its first zero. -/
theorem noNul_string (s : Arr Octet) : NoNul (string s) := by
  unfold string
  split
  · decide
  · intro b hb
    exact bne_iff_ne.mp (List.mem_takeWhile_imp (p := (· != 0)) hb)

/-- The texts of floats have no zero in them. -/
theorem noNul_fixed2 (x : FloatBits) : NoNul (fixed2 x) := by
  have hsign : NoNul (if x.toNat < 2 ^ 31 then [] else text "-") := by
    split
    · exact noNul_nil
    · decide
  unfold fixed2
  dsimp only
  split
  · refine noNul_append.mpr ⟨hsign, ?_⟩
    split <;> decide
  · exact noNul_append.mpr ⟨noNul_append.mpr ⟨noNul_append.mpr ⟨noNul_append.mpr
      ⟨hsign, noNul_decimal _⟩, by decide⟩, noNul_decimal _⟩, noNul_decimal _⟩

example : fixed2 0x42280000 = text "42.00" ∧ fixed2 0x3E000000 = text "0.12" ∧
    fixed2 0xBEC00000 = text "-0.38" := by decide

end Format

end FlexRic
