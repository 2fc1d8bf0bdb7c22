import Mathlib.Data.Nat.Bitwise
import Mathlib.Tactic.IntervalCases

/-!
# FlexRic.Lib.Bits

Numbers cut into bytes and put together again, as shifts, masks and ors of
C code do it.

* `or_shiftLeft`: an or of disjoint parts is a sum, which `omega` can take.
* `glue_byte`, `glue_low`: a byte put below the bits above it, and the last
  bits put below the bytes.
-/

namespace FlexRic

namespace Bits

/-- Low bits put beside shifted ones are added to them. -/
theorem or_shiftLeft {b i : Nat} (h : b < 2 ^ i) (a : Nat) : a <<< i ||| b = a * 2 ^ i + b := by
  rw [← Nat.shiftLeft_add_eq_or_of_lt h, Nat.shiftLeft_eq]

/-- The byte of `n` at bit `k`, under the bits above it. -/
theorem glue_byte (n k : Nat) :
    (n >>> (k + 8)) <<< (k + 8) ||| ((n >>> k) % 2 ^ 8) <<< k = (n >>> k) <<< k := by
  apply Nat.eq_of_testBit_eq
  intro i
  simp only [Nat.testBit_or, Nat.testBit_shiftLeft, Nat.testBit_shiftRight,
    Nat.testBit_mod_two_pow, ge_iff_le]
  by_cases hlow : k ≤ i
  · by_cases hhigh : k + 8 ≤ i
    · have hin : ¬ i - k < 8 := by omega
      have hi : k + 8 + (i - (k + 8)) = k + (i - k) := by omega
      simp [hlow, hhigh, hin, hi]
    · have hin : i - k < 8 := by omega
      simp [hlow, hhigh, hin]
  · have hhigh : ¬ k + 8 ≤ i := by omega
    simp [hlow, hhigh]

/-- The last `k` bits of `n`, under the bits above them. -/
theorem glue_low (n k : Nat) : (n >>> k) <<< k ||| n % 2 ^ k = n := by
  rw [or_shiftLeft (Nat.mod_lt n (Nat.two_pow_pos k)), Nat.shiftRight_eq_div_pow]
  exact Nat.div_add_mod' n (2 ^ k)

/-- A number that fits in the bits above `k` and one byte more is one byte
above `k`. -/
theorem shiftRight_mod_byte {n k : Nat} (h : n < 2 ^ (k + 8)) : (n >>> k) % 2 ^ 8 = n >>> k := by
  apply Nat.mod_eq_of_lt
  rw [Nat.shiftRight_eq_div_pow]
  apply Nat.div_lt_of_lt_mul
  rwa [← Nat.pow_add]

/-- Two bytes and the last `k` bits make up a number of that size. -/
theorem glue_two_bytes {n k : Nat} (h : n < 2 ^ (k + 8 + 8)) :
    ((n >>> (k + 8)) % 2 ^ 8) <<< (k + 8) ||| ((n >>> k) % 2 ^ 8) <<< k ||| n % 2 ^ k = n := by
  rw [shiftRight_mod_byte h, glue_byte, glue_low]

/-- Three bytes and the last `k` bits make up a number of that size. -/
theorem glue_three_bytes {n k : Nat} (h : n < 2 ^ (k + 8 + 8 + 8)) :
    ((n >>> (k + 8 + 8)) % 2 ^ 8) <<< (k + 8 + 8) ||| ((n >>> (k + 8)) % 2 ^ 8) <<< (k + 8) |||
      ((n >>> k) % 2 ^ 8) <<< k ||| n % 2 ^ k = n := by
  rw [shiftRight_mod_byte h, glue_byte, glue_byte, glue_low]

/-- A mask of the bits a shift by `u` leaves of a byte. -/
theorem mask_byte {u : Nat} (h : u ≤ 8) : 0xFF >>> u = 2 ^ (8 - u) - 1 := by
  interval_cases u <;> rfl

/-- Bits moved to the top of a byte and back. -/
theorem top_of_byte (n : Nat) {u : Nat} (h : u ≤ 8) :
    ((n % 2 ^ (8 - u)) <<< u % 2 ^ 8) >>> u = n % 2 ^ (8 - u) := by
  have hlt : (n % 2 ^ (8 - u)) <<< u < 2 ^ 8 := by
    rw [Nat.shiftLeft_eq]
    calc n % 2 ^ (8 - u) * 2 ^ u < 2 ^ (8 - u) * 2 ^ u :=
          Nat.mul_lt_mul_of_pos_right (Nat.mod_lt n (Nat.two_pow_pos _)) (Nat.two_pow_pos u)
      _ = 2 ^ 8 := by rw [← Nat.pow_add, Nat.sub_add_cancel h]
  rw [Nat.mod_eq_of_lt hlt, Nat.shiftLeft_shiftRight]

end Bits

end FlexRic
