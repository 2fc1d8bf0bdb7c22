import FlexRic.Lib.Bits
import Mathlib.Tactic.Linarith
import Mathlib.Tactic.Positivity
import Mathlib.Tactic.Ring

/-!
# FlexRic.Lib.Octets

Numbers as lists of octets.

* `split n v`, `combine`: `n` octets, the low one first, as `memcpy` moves a
  number on a little-endian machine.
* `unsigned`, `signed`: the number that octets stand for, the high one first,
  without and with a sign (two's complement).
* `shrink`: the fewest octets that stand for the same signed number.
  `signed_shrink` and `length_shrink_le` say that they do, and how many there
  are.
-/

namespace FlexRic

namespace Octets

/-! ## The low octet first -/

/-- The `n` low octets of a number. -/
def split : Nat → Nat → List UInt8
  | 0, _ => []
  | n + 1, v => v.toUInt8 :: split n (v / 256)

def combine : List UInt8 → Nat
  | [] => 0
  | b :: bs => b.toNat + 256 * combine bs

/-- A number is split into as many octets as are asked for. -/
@[simp] theorem length_split (n v : Nat) : (split n v).length = n := by
  induction n generalizing v with
  | zero => rfl
  | succ n ih => rw [split, List.length_cons, ih]

/-- A number that was split is put together again, but for what the octets do not hold. -/
theorem combine_split (n v : Nat) : combine (split n v) = v % 256 ^ n := by
  induction n generalizing v with
  | zero => rw [split, combine, Nat.pow_zero, Nat.mod_one]
  | succ n ih =>
    rw [split, combine, ih, Nat.pow_succ', Nat.mod_mul]
    exact congrArg (· + _) UInt8.toNat_ofNat'

/-- **A number that fits comes back.** -/
theorem combine_split_of_lt {n v : Nat} (h : v < 256 ^ n) : combine (split n v) = v := by
  rw [combine_split, Nat.mod_eq_of_lt h]

/-- `n` octets are a number below `256 ^ n`. -/
theorem combine_lt (bs : List UInt8) : combine bs < 256 ^ bs.length := by
  induction bs with
  | nil => exact Nat.zero_lt_one
  | cons b bs ih =>
    have hb : b.toNat < 256 := b.toNat_lt
    rw [combine, List.length_cons, Nat.pow_succ]
    omega

/-- **Octets come back.** -/
theorem split_combine (bs : List UInt8) : split bs.length (combine bs) = bs := by
  induction bs with
  | nil => rfl
  | cons b bs ih =>
    have hb : b.toNat < 256 := b.toNat_lt
    have hlow : (b.toNat + 256 * combine bs).toUInt8 = b := by
      rw [← UInt8.toNat_inj]
      refine UInt8.toNat_ofNat'.trans ?_
      omega
    have hhigh : (b.toNat + 256 * combine bs) / 256 = combine bs := by omega
    rw [List.length_cons, combine, split, hlow, hhigh, ih]

/-! ## The high octet first -/

/-- The number octets stand for. -/
def unsigned : List UInt8 → Nat
  | [] => 0
  | b :: bs => b.toNat * 256 ^ bs.length + unsigned bs

/-- The number octets stand for in two's complement. -/
def signed : List UInt8 → Int
  | [] => 0
  | b :: bs => unsigned (b :: bs) - if b.toNat < 128 then 0 else 256 ^ (bs.length + 1)

/-- The octets in front count for more. -/
theorem unsigned_append (as bs : List UInt8) :
    unsigned (as ++ bs) = unsigned as * 256 ^ bs.length + unsigned bs := by
  induction as with
  | nil => simp [unsigned]
  | cons a as ih =>
    rw [List.cons_append, unsigned, unsigned, ih, List.length_append, Nat.pow_add]
    ring

/-- The octets of a number in the other order. -/
theorem unsigned_reverse (bs : List UInt8) : unsigned bs.reverse = combine bs := by
  induction bs with
  | nil => rfl
  | cons b bs ih =>
    rw [List.reverse_cons, unsigned_append, ih, combine]
    simp only [unsigned, List.length_cons, List.length_nil]
    omega

/-- The other order has the same bound. -/
theorem unsigned_lt (bs : List UInt8) : unsigned bs < 256 ^ bs.length := by
  have h := combine_lt bs.reverse
  rwa [← unsigned_reverse, List.reverse_reverse, List.length_reverse] at h

/-- Without the sign bit the number is as unsigned. -/
theorem signed_of_lt {b : UInt8} {bs : List UInt8} (h : b.toNat < 128) :
    signed (b :: bs) = unsigned (b :: bs) := by
  rw [signed, if_pos h, Int.sub_zero]

/-- The first octet has the sign. -/
theorem signed_nonneg_iff (b : UInt8) (bs : List UInt8) :
    0 ≤ signed (b :: bs) ↔ b.toNat < 128 := by
  constructor
  · intro h
    by_contra hb
    have hlt : (unsigned (b :: bs) : Int) < 256 ^ (bs.length + 1) := by
      exact_mod_cast unsigned_lt (b :: bs)
    rw [signed, if_neg hb] at h
    omega
  · intro h
    rw [signed_of_lt h]
    exact Int.natCast_nonneg _

/-- A number that is not negative has no sign in its octets. -/
theorem signed_of_nonneg {bs : List UInt8} (h : 0 ≤ signed bs) : signed bs = unsigned bs := by
  cases bs with
  | nil => rfl
  | cons b bs => exact signed_of_lt ((signed_nonneg_iff b bs).mp h)

/-- Octets with room for a sign stand for a number that is not negative. -/
theorem signed_of_room {bs : List UInt8} (h : 2 * unsigned bs < 256 ^ bs.length) :
    signed bs = unsigned bs := by
  cases bs with
  | nil => rfl
  | cons b bs =>
    apply signed_of_lt
    by_contra hb
    have hhigh : 128 * 256 ^ bs.length ≤ b.toNat * 256 ^ bs.length :=
      Nat.mul_le_mul_right _ (by omega)
    rw [unsigned, List.length_cons, Nat.pow_succ] at h
    omega

/-- As many octets that stand for the same number are the same octets. -/
theorem unsigned_injective {as bs : List UInt8} (hlen : as.length = bs.length)
    (h : unsigned as = unsigned bs) : as = bs := by
  have hcombine : combine as.reverse = combine bs.reverse := by
    rw [← unsigned_reverse, ← unsigned_reverse, List.reverse_reverse, List.reverse_reverse, h]
  have hsplit := split_combine as.reverse
  rw [hcombine, List.length_reverse, hlen, ← List.length_reverse, split_combine] at hsplit
  exact (List.reverse_inj.mp hsplit).symm

/-! ## The fewest octets -/

/-- The first octet only repeats the sign of the second. -/
def redundant (b c : UInt8) : Bool :=
  b == 0x00 && c &&& 0x80 == 0 || b == 0xff && c &&& 0x80 != 0

/-- Octets without the first ones that are redundant. -/
def shrink : List UInt8 → List UInt8
  | b :: c :: bs => if redundant b c then shrink (c :: bs) else b :: c :: bs
  | bs => bs

/-- The mask of the sign bit. -/
theorem and_0x80 (c : UInt8) : c &&& 0x80 = 0 ↔ c.toNat < 128 := by
  have hc : c.toNat < 256 := c.toNat_lt
  rw [← UInt8.toNat_inj, UInt8.toNat_and, show (0x80 : UInt8).toNat = 2 ^ 7 from rfl,
    Nat.and_two_pow, Nat.testBit_eq_decide_div_mod_eq]
  by_cases h : c.toNat < 128
  · have hbit : ¬ c.toNat / 128 % 2 = 1 := by omega
    simp [h, hbit]
  · have hbit : c.toNat / 128 % 2 = 1 := by omega
    simp [h, hbit]

/-- The first octet repeats the sign of the second. -/
theorem redundant_iff (b c : UInt8) :
    redundant b c = true ↔ b = 0 ∧ c.toNat < 128 ∨ b = 255 ∧ 128 ≤ c.toNat := by
  simp only [redundant, Bool.or_eq_true, Bool.and_eq_true, beq_iff_eq, bne_iff_ne, ne_eq, and_0x80,
    Nat.not_lt]

/-- **Dropping redundant octets keeps the number.** -/
theorem signed_shrink (bs : List UInt8) : signed (shrink bs) = signed bs := by
  fun_induction shrink bs with
  | case1 b c bs h ih =>
    rw [ih]
    simp only [signed, unsigned, List.length_cons]
    rcases (redundant_iff b c).mp h with ⟨rfl, hc⟩ | ⟨rfl, hc⟩
    · simp [hc]
    · rw [if_neg (by omega), if_neg (by decide)]
      push_cast
      ring
  | case2 b c bs h => rfl
  | case3 bs h => rfl

/-- After the shortening no redundant octet is left in front. -/
theorem shrink_head {bs cs : List UInt8} {b c : UInt8} (h : shrink bs = b :: c :: cs) :
    redundant b c = false := by
  fun_induction shrink bs with
  | case1 b' c' bs hr ih => exact ih h
  | case2 b' c' bs hr =>
    cases h
    exact Bool.eq_false_iff.mpr hr
  | case3 bs hr => exact absurd h (hr b c cs)

/-- A number in the fewest octets. -/
def minimal : List UInt8 → Bool
  | [] => false
  | [_] => true
  | b :: c :: _ => !redundant b c

/-- **so what is left is minimal.** -/
theorem minimal_shrink {bs : List UInt8} (h : bs ≠ []) : minimal (shrink bs) = true := by
  fun_induction shrink bs with
  | case1 b c bs hr ih => exact ih (List.cons_ne_nil _ _)
  | case2 b c bs hr => rw [minimal, Bool.not_eq_true', Bool.eq_false_iff.mpr hr]
  | case3 bs hr =>
    match bs, hr, h with
    | [_], _, _ => rfl
    | b :: c :: bs, hr, _ => exact absurd rfl (hr b c bs)

/-- Half of the numbers of that many octets are negative. -/
theorem signed_lt (bs : List UInt8) : 2 * signed bs < 256 ^ bs.length := by
  cases bs with
  | nil => decide
  | cons b bs =>
    have hlt : (unsigned bs : Int) < 256 ^ bs.length := by exact_mod_cast unsigned_lt bs
    have hb : (b.toNat : Int) < 256 := by exact_mod_cast b.toNat_lt
    have hpos : (0 : Int) < 256 ^ bs.length := by positivity
    rw [signed, unsigned, List.length_cons, pow_succ]
    push_cast
    split
    · next h128 => nlinarith [show (b.toNat : Int) ≤ 127 by omega]
    · nlinarith

/-- Octets none of which is redundant stand for a large number. -/
theorem le_signed {b c : UInt8} {bs : List UInt8} (hr : redundant b c = false)
    (h : 0 ≤ signed (b :: c :: bs)) : 256 ^ (bs.length + 1) ≤ 2 * signed (b :: c :: bs) := by
  have hpos : (0 : Int) < 256 ^ bs.length := by positivity
  rw [signed_of_nonneg h, unsigned, unsigned, List.length_cons, pow_succ]
  push_cast
  by_cases h0 : b = 0
  · have hc : ¬ c.toNat < 128 := fun hc => by
      rw [(redundant_iff b c).mpr (.inl ⟨h0, hc⟩)] at hr
      cases hr
    have hc : (128 : Int) * 256 ^ bs.length ≤ c.toNat * 256 ^ bs.length :=
      mul_le_mul_of_nonneg_right (by omega) hpos.le
    have hb0 : (0 : Int) ≤ b.toNat * 256 ^ (bs.length + 1) := by positivity
    omega
  · have hb1 : b.toNat ≠ 0 := fun h1 => h0 (UInt8.toNat_inj.mp h1)
    have hb1 : (1 : Int) ≤ b.toNat := by omega
    rw [pow_succ]
    nlinarith

/-- **How many octets a number takes** that is not negative. -/
theorem length_shrink_le {bs : List UInt8} (h : 0 ≤ signed bs) (n : Nat) :
    (shrink bs).length ≤ n + 1 ↔ 2 * signed bs < 256 ^ (n + 1) := by
  rw [← signed_shrink] at h ⊢
  have hhead (b c : UInt8) (cs : List UInt8) := @shrink_head bs cs b c
  generalize shrink bs = cs at h hhead
  have hlt := signed_lt cs
  constructor
  · intro hlen
    exact hlt.trans_le (pow_le_pow_right₀ (by decide) hlen)
  · match cs, h, hhead with
    | [], _, _ => exact fun _ => Nat.zero_le _
    | [b], _, _ => exact fun _ => Nat.le_add_left 1 n
    | b :: c :: cs, h, hhead =>
      intro hsmall
      by_contra hlen
      have hpow : (256 : Int) ^ (n + 1) ≤ 256 ^ (cs.length + 1) :=
        pow_le_pow_right₀ (by decide) (by simp only [List.length_cons] at hlen; omega)
      have hlow := le_signed (hhead b c cs rfl) h
      omega

/-! ## Reading octets one by one -/

/-- `(v << 8) | b`. -/
theorem toNat_shiftLeft_or (v : UInt64) (b : UInt8) :
    (v <<< 8 ||| b.toUInt64).toNat = (v.toNat * 256 + b.toNat) % 2 ^ 64 := by
  have hb : b.toNat < 2 ^ 8 := b.toNat_lt
  have hhigh : (v <<< 8).toNat = (v.toNat % 2 ^ 56) <<< 8 := by
    rw [UInt64.toNat_shiftLeft, show (8 : UInt64).toNat % 64 = 8 from rfl, Nat.shiftLeft_eq,
      Nat.shiftLeft_eq]
    omega
  rw [UInt64.toNat_or, hhigh, UInt8.toNat_toUInt64, Bits.or_shiftLeft hb]
  omega

/-- Octets put into a number one by one. -/
theorem toNat_foldl (bs : List UInt8) (v : UInt64) :
    (bs.foldl (fun (v : UInt64) b => v <<< 8 ||| b.toUInt64) v).toNat =
      (v.toNat * 256 ^ bs.length + unsigned bs) % 2 ^ 64 := by
  induction bs generalizing v with
  | nil => simp [unsigned]
  | cons b bs ih =>
    rw [List.foldl_cons, ih, toNat_shiftLeft_or, unsigned, List.length_cons, Nat.pow_succ',
      Nat.add_mod, Nat.mod_mul_mod, ← Nat.add_mod]
    congr 1
    ring

/-! ## Bits, the high one first -/

/-- Bit `i` of octets, counted from the high bit of the first one. -/
def bit (bs : List UInt8) (i : Nat) : Bool := (bs.getD (i / 8) 0).toNat.testBit (7 - i % 8)

/-- **The bits of octets** are those of the number they stand for. -/
theorem bit_eq_testBit {bs : List UInt8} {i : Nat} (h : i < 8 * bs.length) :
    bit bs i = (unsigned bs).testBit (8 * bs.length - 1 - i) := by
  induction bs generalizing i with
  | nil => cases h
  | cons b bs ih =>
    have hlt : unsigned bs < 2 ^ (8 * bs.length) := by
      rw [Nat.pow_mul]
      exact unsigned_lt bs
    have hsplit : unsigned (b :: bs) = 2 ^ (8 * bs.length) * b.toNat + unsigned bs := by
      rw [unsigned, Nat.mul_comm, Nat.pow_mul]
    rw [List.length_cons] at h ⊢
    rw [hsplit, Nat.testBit_two_pow_mul_add _ hlt]
    by_cases hi : i < 8
    · rw [if_neg (by omega), bit, Nat.div_eq_of_lt hi, List.getD_cons_zero]
      congr 1
      omega
    · have hrest : bit (b :: bs) i = bit bs (i - 8) := by
        rw [bit, bit, show i / 8 = (i - 8) / 8 + 1 by omega, List.getD_cons_succ,
          show i % 8 = (i - 8) % 8 by omega]
      rw [if_pos (by omega), hrest, ih (by omega)]
      congr 1
      omega

/-- **A number of `w` bits at the front of octets**, zeroes behind it. -/
theorem bits_iff {bs : List UInt8} {w u v : Nat} (hlen : w + u = 8 * bs.length)
    (hv : v < 2 ^ w) :
    ((∀ i < w, bit bs i = v.testBit (w - 1 - i)) ∧ ∀ i, w ≤ i → i < w + u → bit bs i = false) ↔
      unsigned bs = v * 2 ^ u := by
  constructor
  · rintro ⟨hbits, hrest⟩
    refine Nat.eq_of_testBit_eq fun j => ?_
    rw [Nat.testBit_mul_two_pow]
    by_cases hj : j < 8 * bs.length
    · have hbit : bit bs (8 * bs.length - 1 - j) = _ := bit_eq_testBit (by omega)
      rw [show 8 * bs.length - 1 - (8 * bs.length - 1 - j) = j by omega] at hbit
      rw [← hbit]
      by_cases hu : u ≤ j
      · rw [hbits _ (by omega), decide_eq_true hu, Bool.true_and]
        congr 1
        omega
      · rw [hrest _ (by omega) (by omega), decide_eq_false hu, Bool.false_and]
    · have hlt : unsigned bs < 2 ^ j := by
        refine (unsigned_lt bs).trans_le ?_
        rw [show (256 : Nat) = 2 ^ 8 from rfl, ← Nat.pow_mul]
        exact Nat.pow_le_pow_right (by decide) (by omega)
      have hvlt : v < 2 ^ (j - u) := hv.trans_le (Nat.pow_le_pow_right (by decide) (by omega))
      rw [Nat.testBit_lt_two_pow hlt, Nat.testBit_lt_two_pow hvlt, Bool.and_false]
  · intro heq
    refine ⟨fun i hi => ?_, fun i hi hlt => ?_⟩
    · rw [bit_eq_testBit (by omega), heq, Nat.testBit_mul_two_pow,
        decide_eq_true (show u ≤ 8 * bs.length - 1 - i by omega), Bool.true_and]
      congr 1
      omega
    · rw [bit_eq_testBit (by omega), heq, Nat.testBit_mul_two_pow,
        decide_eq_false (show ¬ u ≤ 8 * bs.length - 1 - i by omega), Bool.false_and]

end Octets

end FlexRic
