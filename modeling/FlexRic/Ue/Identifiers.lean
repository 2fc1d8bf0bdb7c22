import FlexRic.Ue.CellGlobalId
import Mathlib.Data.Nat.Digits.Lemmas
import Mathlib.RingTheory.Coprime.Lemmas
import Mathlib.Tactic.Linarith

/-!
# FlexRic.Ue.Identifiers

The identifiers that `util/conversions.c` turns into bit strings and back: which of
them come back, and which of the bit strings have the order of bits that a
`BIT STRING` asks for.

* Of the NR cell ids, those with bit 31 do not come back, and of the AMF region ids, the
  encoder refuses those from 64 on (`identifier_roundTrip`).
* The AMF ids and the gNB ids have the high bit first.  The cell ids and the ids of eNBs
  have the low octet first, so their order is right only for ids that repeat
  one digit (`identifier_bitString`).
-/

namespace FlexRic

/-- **A `BIT STRING` of `w` bits**: the high bit of the number is the first bit of the first octet,
and the unused bits are at the end and zero. -/
structure BitString.IsBits (b : BitString) (w v : Nat) : Prop where
  unused : b.bitsUnused < 8
  size : w + b.bitsUnused = 8 * b.size
  bits : ∀ i < w, Octets.bit b.buf i = v.testBit (w - 1 - i)
  rest : ∀ i, w ≤ i → i < w + b.bitsUnused → Octets.bit b.buf i = false

/-- The bits of a string, as a number. -/
theorem BitString.isBits_iff {b : BitString} {w v : Nat} (hunused : b.bitsUnused < 8)
    (hsize : w + b.bitsUnused = 8 * b.size) (hv : v < 2 ^ w) :
    b.IsBits w v ↔ Octets.unsigned b.buf = v * 2 ^ b.bitsUnused := by
  rw [← Octets.bits_iff hsize hv]
  exact ⟨fun h => ⟨h.bits, h.rest⟩, fun h => ⟨hunused, hsize, h.1, h.2⟩⟩

namespace Ue

/-- An identifier of the width that its `BIT STRING` has. -/
inductive Identifier where
  | amfRegionId (v : BitVec 8)
  | amfSetId (v : BitVec 10)
  | amfPtr (v : BitVec 6)
  | nrCellId (v : BitVec 36)
  | eutraCellId (v : BitVec 28)
  | macroEnbId (v : BitVec 20)
  | homeEnbId (v : BitVec 28)
  | shortMacroEnbId (v : BitVec 18)
  | longMacroEnbId (v : BitVec 21)
  | macroNgEnbId (v : BitVec 20)
  | shortMacroNgEnbId (v : BitVec 18)
  | longMacroNgEnbId (v : BitVec 21)
  | gnbId (unused : Fin 11) (v : BitVec (32 - unused))

namespace Identifier

def width : Identifier → Nat
  | amfRegionId _ => 8
  | amfSetId _ => 10
  | amfPtr _ => 6
  | nrCellId _ => 36
  | eutraCellId _ | homeEnbId _ => 28
  | macroEnbId _ | macroNgEnbId _ => 20
  | shortMacroEnbId _ | shortMacroNgEnbId _ => 18
  | longMacroEnbId _ | longMacroNgEnbId _ => 21
  | gnbId unused _ => 32 - unused

def value : Identifier → Nat
  | amfRegionId v => v.toNat
  | amfSetId v => v.toNat
  | amfPtr v => v.toNat
  | nrCellId v => v.toNat
  | eutraCellId v | homeEnbId v => v.toNat
  | macroEnbId v | macroNgEnbId v => v.toNat
  | shortMacroEnbId v | shortMacroNgEnbId v => v.toNat
  | longMacroEnbId v | longMacroNgEnbId v => v.toNat
  | gnbId _ v => v.toNat

/-- An identifier is below the power of two of its width. -/
theorem value_lt (id : Identifier) : id.value < 2 ^ id.width := by
  cases id <;> exact BitVec.isLt _

/-- `e2ap_gnb_id_t` of a gNB id. -/
def ofGnbId (unused : Fin 11) (v : BitVec (32 - unused)) : E2apGnbId :=
  ⟨v.toNat.toUInt32, unused.val.toUInt32⟩

/-- The bit string of an identifier, by the converter of its kind. -/
def toBitString : Identifier → Outcome BitString
  | amfRegionId v => cpAmfRegionIdToBitString v.toNat.toUInt8
  | amfSetId v => cpAmfSetIdToBitString v.toNat.toUInt16
  | amfPtr v => cpAmfPtrToBitString v.toNat.toUInt8
  | nrCellId v => cpNrCellIdToBitString v.toNat.toUInt64
  | eutraCellId v => cpEutraCellIdToBitString v.toNat.toUInt32
  | macroEnbId v => cpMacroEnbIdToBitString v.toNat.toUInt32
  | homeEnbId v => cpHomeEnbIdToBitString v.toNat.toUInt32
  | shortMacroEnbId v => cpShortMacroEnbIdToBitString v.toNat.toUInt32
  | longMacroEnbId v => cpLongMacroEnbIdToBitString v.toNat.toUInt32
  | macroNgEnbId v => cpMacroNgEnbIdToBitString v.toNat.toUInt32
  | shortMacroNgEnbId v => cpShortMacroNgEnbIdToBitString v.toNat.toUInt32
  | longMacroNgEnbId v => cpLongMacroNgEnbIdToBitString v.toNat.toUInt32
  | gnbId unused v => cpGnbIdToBitString (ofGnbId unused v)

/-! ## Round trip -/

/-- The converters of the kind, one after the other, give the identifier back. -/
def ComesBack : Identifier → Prop
  | amfRegionId v => Back cpAmfRegionIdToBitString cpAmfRegionIdToU8 v.toNat.toUInt8
  | amfSetId v => Back cpAmfSetIdToBitString cpAmfSetIdToU16 v.toNat.toUInt16
  | amfPtr v => Back cpAmfPtrToBitString cpAmfPtrToU8 v.toNat.toUInt8
  | nrCellId v => Back cpNrCellIdToBitString cpNrCellIdToU64 v.toNat.toUInt64
  | eutraCellId v => Back cpEutraCellIdToBitString cpEutraCellIdToU32 v.toNat.toUInt32
  | macroEnbId v => Back cpMacroEnbIdToBitString cpMacroEnbIdToU32 v.toNat.toUInt32
  | homeEnbId v => Back cpHomeEnbIdToBitString cpHomeEnbIdToU32 v.toNat.toUInt32
  | shortMacroEnbId v => Back cpShortMacroEnbIdToBitString cpShortMacroEnbIdToU32 v.toNat.toUInt32
  | longMacroEnbId v => Back cpLongMacroEnbIdToBitString cpLongMacroEnbIdToU32 v.toNat.toUInt32
  | macroNgEnbId v => Back cpMacroNgEnbIdToBitString cpMacroNgEnbIdToU32 v.toNat.toUInt32
  | shortMacroNgEnbId v =>
    Back cpShortMacroNgEnbIdToBitString cpShortMacroNgEnbIdToU32 v.toNat.toUInt32
  | longMacroNgEnbId v =>
    Back cpLongMacroNgEnbIdToBitString cpLongMacroNgEnbIdToU32 v.toNat.toUInt32
  | gnbId unused v => Back cpGnbIdToBitString cpBitStringToGnbId (ofGnbId unused v)

/-- An AMF region id below 64, an NR cell id without bit 31, and any identifier of another kind. -/
def Survives : Identifier → Prop
  | amfRegionId v => v.toNat < 64
  | nrCellId v => v.toNat / 2 ^ 31 % 2 = 0
  | _ => True

theorem toNat_toUInt32_of_lt {w : Nat} (v : BitVec w) (hw : w ≤ 32) :
    v.toNat.toUInt32.toNat = v.toNat := by
  rw [toNat_toUInt32, Nat.mod_eq_of_lt]
  exact v.isLt.trans_le (Nat.pow_le_pow_right (by decide) hw)

/-- The ids of eNBs and of their cells come back. -/
theorem back_id {bits octets unused : Nat} (v : BitVec bits)
    (hbits : bits + unused = 8 * octets + 8) (hw : bits ≤ 32) (hunused : unused ≤ 8) :
    Back (cpIdToBitString bits octets unused) (cpBitStringToId octets unused) v.toNat.toUInt32 := by
  rw [cpId_back bits octets unused hbits hunused, toNat_toUInt32_of_lt v hw]
  exact v.isLt

/-- The region is asserted below 64, the bound of the pointer. -/
theorem back_amfRegionId (v : BitVec 8) :
    Back cpAmfRegionIdToBitString cpAmfRegionIdToU8 v.toNat.toUInt8 ↔ v.toNat < 64 := by
  have hv : v.toNat < 256 := v.isLt
  rw [amfRegionId_back, UInt8.lt_iff_toNat_lt, toNat_toUInt8, Nat.mod_eq_of_lt hv]
  rfl

/-- The bit 31 of an NR cell id is taken for a sign. -/
theorem back_nrCellId (v : BitVec 36) :
    Back cpNrCellIdToBitString cpNrCellIdToU64 v.toNat.toUInt64 ↔ v.toNat / 2 ^ 31 % 2 = 0 := by
  obtain ⟨b, hb, w, hw, hval⟩ := cpNrCellIdToU64_of_enc v
  have hv : v.toNat < 2 ^ 36 := v.isLt
  rw [back_next hb, hw, Outcome.next_inj, ← UInt64.toNat_inj, hval, UInt64.toNat_ofNat']
  split <;> omega

/-- The gNB ids of `32 - unused` bits pass the checks of the encoder, and their octets are those of
the id moved to the top. -/
theorem cpGnbIdToBitString_of_lt (unused : Fin 11) (v : BitVec (32 - unused)) :
    ∃ b, cpGnbIdToBitString (ofGnbId unused v) = .next b ∧ b.bitsUnused < 8 ∧
      32 - unused.val + b.bitsUnused = 8 * b.size ∧
        Octets.unsigned b.buf = v.toNat * 2 ^ b.bitsUnused := by
  have hv := v.isLt
  have hn := toNat_toUInt32_of_lt v (Nat.sub_le _ _)
  have hunused := unused.isLt
  have hu : unused.val.toUInt32.toNat = unused.val := by
    rw [toNat_toUInt32]
    omega
  unfold ofGnbId
  generalize v.toNat = n at hv hn ⊢
  have hlt : unused.val.toUInt32 < 11 := by
    rw [UInt32.lt_iff_toNat_lt, hu]
    exact unused.isLt
  have hlost : n >>> (32 - unused.val) = 0 := by
    rw [Nat.shiftRight_eq_div_pow]
    exact Nat.div_eq_of_lt hv
  have hoctet {k u : Nat} (hk : u ≤ k) :
      (0xFF &&& n >>> (k - u)).toUInt8.toNat = n * 2 ^ u / 2 ^ k % 256 := by
    have hpow : 2 ^ k = 2 ^ (k - u) * 2 ^ u := by rw [← Nat.pow_add, Nat.sub_add_cancel hk]
    rw [octet_of_mask, Nat.shiftRight_eq_div_pow, hpow,
      Nat.mul_div_mul_right _ _ (Nat.two_pow_pos u)]
    rfl
  have hlast {u : Nat} (hle : u ≤ 8) :
      ((n &&& 0xFF >>> u) <<< u).toUInt8.toNat = n * 2 ^ u % 256 := by
    have hpow : 256 = 2 ^ (8 - u) * 2 ^ u := by rw [← Nat.pow_add, Nat.sub_add_cancel hle]
    rw [Bits.mask_byte hle, Nat.and_two_pow_sub_one_eq_mod, toNat_toUInt8, Nat.shiftLeft_eq,
      hpow, Nat.mul_mod_mul_right, Nat.mul_mod_mul_right, Nat.mod_mod]
  have htop {u m : Nat} (hm : 32 - unused.val + u = m) : n * 2 ^ u < 2 ^ m := by
    rw [← hm, Nat.pow_add]
    exact Nat.mul_lt_mul_of_pos_right hv (Nat.two_pow_pos u)
  simp only [cpGnbIdToBitString, hlt, hu, hn, hlost, Outcome.assert, decide_true, reduceIte,
    Outcome.next_bind, Outcome.pure_eq]
  by_cases h7 : 7 < unused.val
  · -- three octets
    have h7' : unused.val.toUInt32 > 7 := by
      rw [gt_iff_lt, UInt32.lt_iff_toNat_lt, hu]
      exact h7
    rw [if_pos h7', show unused.val % 8 = unused.val - 8 by omega]
    refine ⟨_, rfl, show unused.val - 8 < 8 by omega, ?_, ?_⟩
    · simp only [BitString.size, List.length_cons, List.length_nil]
      omega
    · have hlt := htop (u := unused.val - 8) (m := 24) (by omega)
      simp only [Octets.unsigned, hoctet (show unused.val - 8 ≤ 16 by omega),
        hoctet (show unused.val - 8 ≤ 8 by omega), hlast (show unused.val - 8 ≤ 8 by omega),
        List.length_cons, List.length_nil]
      omega
  · -- four octets
    have h7' : ¬ unused.val.toUInt32 > 7 := by
      rw [gt_iff_lt, UInt32.lt_iff_toNat_lt, hu]
      exact h7
    rw [if_neg h7', show unused.val % 8 = unused.val by omega]
    refine ⟨_, rfl, show unused.val < 8 by omega, ?_, ?_⟩
    · simp only [BitString.size, List.length_cons, List.length_nil]
      omega
    · have hlt := htop (u := unused.val) (m := 32) (by omega)
      simp only [Octets.unsigned, hoctet (show unused.val ≤ 24 by omega),
        hoctet (show unused.val ≤ 16 by omega), hoctet (show unused.val ≤ 8 by omega),
        hlast (show unused.val ≤ 8 by omega), List.length_cons, List.length_nil]
      omega

/-- **Identifiers through the converters.** An identifier comes back if and only if it is no
AMF region id from 64 on and no NR cell id with bit 31. -/
theorem identifier_roundTrip (id : Identifier) : id.ComesBack ↔ id.Survives := by
  cases id with
  | amfRegionId v => exact back_amfRegionId v
  | amfSetId v => exact iff_of_true (back_amfSetId v) trivial
  | amfPtr v => exact iff_of_true (back_amfPtr v) trivial
  | nrCellId v => exact back_nrCellId v
  | eutraCellId v | homeEnbId v =>
    exact iff_of_true (back_id v rfl (by decide) (by decide)) trivial
  | macroEnbId v | macroNgEnbId v =>
    exact iff_of_true (back_id v rfl (by decide) (by decide)) trivial
  | shortMacroEnbId v | shortMacroNgEnbId v =>
    exact iff_of_true (back_id v rfl (by decide) (by decide)) trivial
  | longMacroEnbId v | longMacroNgEnbId v =>
    exact iff_of_true (back_id v rfl (by decide) (by decide)) trivial
  | gnbId unused v =>
    obtain ⟨b, hb, -⟩ := cpGnbIdToBitString_of_lt unused v
    exact iff_of_true ⟨b, hb, gnbId_roundTrip hb⟩ trivial

/-- An NR cell id with bit 31 comes back with all bits above it set, and an AMF region id from 64 on
is refused. -/
theorem identifiers_lost :
    ¬ (nrCellId 0x080000000).ComesBack ∧ ¬ (amfRegionId 64).ComesBack := by
  rw [ComesBack, ComesBack, back_nrCellId, back_amfRegionId]
  decide

/-! ## Order of the bits -/

/-- The bit string of the identifier that the encoder of the E2AP messages makes, where it has one:
`MACRO_ENB_ID_TO_BIT_STRING`. -/
def elsewhere : Identifier → Option BitString
  | macroEnbId v => some (macroEnbIdToBitString v.toNat.toUInt32)
  | _ => none

/-- **The converter of the kind gives the `BIT STRING` of the identifier**, as the encoder of the
E2AP messages does. -/
def InOrder (id : Identifier) : Prop :=
  ∃ b, id.toBitString = .next b ∧ b.IsBits id.width id.value ∧ ∀ b' ∈ id.elsewhere, b = b'

/-- A number of `w` bits that is one digit of `g` bits, over and over. -/
def Repeats (g w v : Nat) : Prop := (2 ^ w - 1) / (2 ^ g - 1) ∣ v

instance (g w v : Nat) : Decidable (Repeats g w v) := inferInstanceAs (Decidable (_ ∣ _))

/-- An AMF region id below 64, an id with the low octet first that repeats one digit of the width
that the octets and the last bits share, and any other identifier. -/
def Symmetric : Identifier → Prop
  | amfRegionId v => v.toNat < 64
  | nrCellId v => Repeats 4 36 v.toNat
  | eutraCellId v | homeEnbId v => Repeats 4 28 v.toNat
  | macroEnbId v | macroNgEnbId v => Repeats 4 20 v.toNat
  | shortMacroEnbId v | shortMacroNgEnbId v => Repeats 2 18 v.toNat
  | longMacroEnbId v | longMacroNgEnbId v => Repeats 1 21 v.toNat
  | amfSetId _ | amfPtr _ | gnbId _ _ => True

/-- `MACRO_ENB_ID_TO_BIT_STRING` has the high bit first. -/
theorem isBits_macroEnbId (v : BitVec 20) :
    (macroEnbIdToBitString v.toNat.toUInt32).IsBits 20 v.toNat := by
  have hv : v.toNat < 2 ^ 20 := v.isLt
  rw [BitString.isBits_iff (by show 4 < 8; decide) rfl hv, macroEnbIdToBitString,
    toNat_toUInt32_of_lt v (by decide)]
  simp only [Octets.unsigned, toNat_toUInt8, Nat.shiftRight_eq_div_pow, Nat.shiftLeft_eq,
    show (0x0F : Nat) = 2 ^ 4 - 1 from rfl, Nat.and_two_pow_sub_one_eq_mod, List.length_cons,
    List.length_nil]
  omega

/-- Two bit strings of one number are one. -/
theorem isBits_unique {b b' : BitString} {w v : Nat} (hb : b.IsBits w v) (hb' : b'.IsBits w v)
    (hv : v < 2 ^ w) : b = b' := by
  obtain ⟨buf, u⟩ := b
  obtain ⟨buf', u'⟩ := b'
  have hsize : w + u = 8 * buf.length := hb.size
  have hsize' : w + u' = 8 * buf'.length := hb'.size
  have hu : u < 8 := hb.unused
  have hu' : u' < 8 := hb'.unused
  obtain rfl : u = u' := by omega
  have hval := (BitString.isBits_iff hb.unused hb.size hv).mp hb
  have hval' := (BitString.isBits_iff hb'.unused hb'.size hv).mp hb'
  have hbuf : buf = buf' :=
    Octets.unsigned_injective (by omega) (hval.trans hval'.symm)
  rw [hbuf]

/-! ### The low octet first -/

/-- The low octet first is the high bit first, if turning the octets round does not change the
id. -/
theorem isBits_lowFirst {bits octets unused n : Nat} (hbits : bits + unused = 8 * octets + 8)
    (hunused : unused < 8) (hn : n < 2 ^ bits) :
    (⟨Octets.split octets n ++ [(n >>> (8 * octets) <<< unused).toUInt8], unused⟩ :
      BitString).IsBits bits n ↔
        Octets.unsigned (Octets.split octets n) * 2 ^ (8 - unused) + n / 256 ^ octets = n := by
  have hlen : (Octets.split octets n ++ [(n >>> (8 * octets) <<< unused).toUInt8]).length =
      octets + 1 := by
    rw [List.length_append, Octets.length_split, List.length_singleton]
  have hpow : 2 ^ (8 - unused) * 2 ^ unused = 256 := by
    rw [← Nat.pow_add, Nat.sub_add_cancel hunused.le]
  have htop : n / 256 ^ octets * 2 ^ unused < 2 ^ (8 - unused) * 2 ^ unused := by
    have hlt : n / 256 ^ octets < 2 ^ (8 - unused) := by
      rw [Nat.div_lt_iff_lt_mul (Nat.pow_pos (by decide)), show (256 : Nat) = 2 ^ 8 from rfl,
        ← Nat.pow_mul, ← Nat.pow_add, show 8 - unused + 8 * octets = bits by omega]
      exact hn
    exact Nat.mul_lt_mul_of_pos_right hlt (Nat.two_pow_pos unused)
  have hlast : (n >>> (8 * octets) <<< unused).toUInt8.toNat = n / 256 ^ octets * 2 ^ unused := by
    rw [toNat_toUInt8, Nat.shiftLeft_eq, Nat.shiftRight_eq_div_pow, Nat.pow_mul]
    exact Nat.mod_eq_of_lt (hpow ▸ htop)
  rw [BitString.isBits_iff hunused (by rw [BitString.size, hlen]; exact hbits) hn]
  show Octets.unsigned _ = n * 2 ^ unused ↔ _
  rw [Octets.unsigned_append, Octets.unsigned, Octets.unsigned, List.length_singleton,
    List.length_nil, hlast, pow_one, pow_zero, Nat.mul_one, Nat.add_zero, ← hpow, ← Nat.mul_assoc,
    ← Nat.add_mul]
  exact Nat.mul_left_inj (Nat.two_pow_pos unused).ne'

section LowFirst

variable {b₀ b₁ b₂ b₃ t n : Nat}

/-- A number below the other's factor is 0, if the factors have no divisor in common. -/
theorem eq_zero_of_mul_eq {a c : Nat} {x y : Int} (hac : Nat.Coprime a c) (h : a * x = c * y)
    (hy : |y| < a) : y = 0 := by
  have hdvd : (a : Int) ∣ y :=
    (Nat.isCoprime_iff_coprime.mpr hac).dvd_of_dvd_mul_left ⟨x, h.symm⟩
  exact Int.eq_zero_of_abs_lt_dvd hdvd hy

/-- A number has one last octet. -/
theorem octet_inj {x x' y y' : Nat} (h : x * 256 + y = x' * 256 + y') (hy : y < 256)
    (hy' : y' < 256) : x = x' ∧ y = y' := by
  omega

/-- An octet is two digits of four bits. -/
theorem exists_nibbles {b : Nat} (hb : b < 256) : ∃ x y, b = x * 16 + y ∧ x < 16 ∧ y < 16 :=
  ⟨b / 16, b % 16, (Nat.div_add_mod' b 16).symm, by omega, Nat.mod_lt _ (by decide)⟩

/-- Octets in both orders, and the bits behind them, give one number of 18 bits. -/
theorem turned_18 (h₀ : b₀ < 256) (h₁ : b₁ < 256) (ht : t < 4) :
    (b₀ * 256 + b₁) * 4 + t = t * 65536 + b₁ * 256 + b₀ ↔
      87381 ∣ t * 65536 + b₁ * 256 + b₀ := by
  constructor
  · intro h
    have hb₁ : (b₁ - 85 * t : Int) = 0 := by
      refine eq_zero_of_mul_eq (a := 341) (c := 84) (x := b₀ - 85 * t) (by decide) ?_ ?_
      · zify at h
        push_cast
        linarith
      · clear h
        rw [abs_lt]
        omega
    obtain rfl : b₁ = 85 * t := by linarith
    exact ⟨t, by linarith⟩
  · rintro ⟨k, hk⟩
    obtain rfl : k = t := by omega
    have hoctets : b₁ * 256 + b₀ = 85 * k * 256 + 85 * k := by linarith
    obtain ⟨rfl, rfl⟩ := octet_inj hoctets h₀ (by linarith)
    ring

/-- Octets in both orders, and the bits behind them, give one number of 20 bits. -/
theorem turned_20 (h₀ : b₀ < 256) (h₁ : b₁ < 256) (ht : t < 16) :
    (b₀ * 256 + b₁) * 16 + t = t * 65536 + b₁ * 256 + b₀ ↔
      0x11111 ∣ t * 65536 + b₁ * 256 + b₀ := by
  constructor
  · intro h
    have hb₁ : (b₁ - 17 * t : Int) = 0 := by
      refine eq_zero_of_mul_eq (a := 273) (c := 16) (x := b₀ - 17 * t) (by decide) ?_ ?_
      · zify at h
        push_cast
        linarith
      · clear h
        rw [abs_lt]
        omega
    obtain rfl : b₁ = 17 * t := by linarith
    exact ⟨t, by linarith⟩
  · rintro ⟨k, hk⟩
    obtain rfl : k = t := by omega
    have hoctets : b₁ * 256 + b₀ = 17 * k * 256 + 17 * k := by linarith
    obtain ⟨rfl, rfl⟩ := octet_inj hoctets h₀ (by linarith)
    ring

/-- Octets in both orders, and the bits behind them, give one number of 21 bits. -/
theorem turned_21 (h₀ : b₀ < 256) (h₁ : b₁ < 256) (ht : t < 32) :
    (b₀ * 256 + b₁) * 32 + t = t * 65536 + b₁ * 256 + b₀ ↔
      0x1FFFFF ∣ t * 65536 + b₁ * 256 + b₀ := by
  constructor
  · intro h
    obtain hlt | hge := Nat.lt_or_ge (b₁ * 32 + t) 8191
    · have hs : (b₁ * 32 + t : Int) = 0 := by
        refine eq_zero_of_mul_eq (a := 8191) (c := 7) (x := b₀ - 8 * t) (by decide) ?_ ?_
        · zify at h
          push_cast
          linarith
        · clear h
          rw [abs_lt]
          omega
      exact ⟨0, by linarith⟩
    · obtain rfl : b₁ = 255 := by linarith
      obtain rfl : t = 31 := by linarith
      exact ⟨1, by linarith⟩
  · rintro ⟨k, hk⟩
    obtain rfl | rfl : k = 0 ∨ k = 1 := by omega
    · omega
    · obtain rfl : t = 31 := by omega
      have hoctets : b₁ * 256 + b₀ = 255 * 256 + 255 := by linarith
      obtain ⟨rfl, rfl⟩ := octet_inj hoctets h₀ (by decide)
      rfl

/-- Octets in both orders, and the bits behind them, give one number of 28 bits. -/
theorem turned_28 (h₀ : b₀ < 256) (h₁ : b₁ < 256) (h₂ : b₂ < 256) (ht : t < 16) :
    (b₀ * 65536 + b₁ * 256 + b₂) * 16 + t = t * 16777216 + b₂ * 65536 + b₁ * 256 + b₀ ↔
      0x1111111 ∣ t * 16777216 + b₂ * 65536 + b₁ * 256 + b₀ := by
  constructor
  · intro h
    obtain ⟨x₀, y₀, rfl, hx₀, hy₀⟩ := exists_nibbles h₀
    obtain ⟨x₁, y₁, rfl, hx₁, hy₁⟩ := exists_nibbles h₁
    obtain ⟨x₂, y₂, rfl, hx₂, hy₂⟩ := exists_nibbles h₂
    -- both sides are seven digits of four bits, the low one first
    have hdigits : [t, y₂, x₂, y₁, x₁, y₀, x₀] = [y₀, x₀, y₁, x₁, y₂, x₂, t] := by
      refine Nat.ofDigits_inj_of_len_eq (b := 16) (by decide) rfl ?_ ?_ ?_
      · simp [ht, hx₀, hy₀, hx₁, hy₁, hx₂, hy₂]
      · simp [ht, hx₀, hy₀, hx₁, hy₁, hx₂, hy₂]
      · simp only [Nat.ofDigits_cons, Nat.ofDigits_nil]
        linarith
    simp only [List.cons.injEq] at hdigits
    obtain ⟨rfl, rfl, rfl, rfl, rfl, rfl, -⟩ := hdigits
    exact ⟨t, by linarith⟩
  · rintro ⟨k, hk⟩
    obtain rfl : k = t := by omega
    have hoctets : (b₂ * 256 + b₁) * 256 + b₀ = (17 * k * 256 + 17 * k) * 256 + 17 * k := by
      linarith
    obtain ⟨hb, rfl⟩ := octet_inj hoctets h₀ (by linarith)
    obtain ⟨rfl, rfl⟩ := octet_inj hb h₁ (by linarith)
    ring

/-- Octets in both orders, and the bits behind them, give one number of 36 bits. -/
theorem turned_36 (h₀ : b₀ < 256) (h₁ : b₁ < 256) (h₂ : b₂ < 256) (h₃ : b₃ < 256) (ht : t < 16) :
    (b₀ * 16777216 + b₁ * 65536 + b₂ * 256 + b₃) * 16 + t =
        t * 4294967296 + b₃ * 16777216 + b₂ * 65536 + b₁ * 256 + b₀ ↔
      0x111111111 ∣ t * 4294967296 + b₃ * 16777216 + b₂ * 65536 + b₁ * 256 + b₀ := by
  constructor
  · intro h
    obtain ⟨x₀, y₀, rfl, hx₀, hy₀⟩ := exists_nibbles h₀
    obtain ⟨x₁, y₁, rfl, hx₁, hy₁⟩ := exists_nibbles h₁
    obtain ⟨x₂, y₂, rfl, hx₂, hy₂⟩ := exists_nibbles h₂
    obtain ⟨x₃, y₃, rfl, hx₃, hy₃⟩ := exists_nibbles h₃
    have hdigits : [t, y₃, x₃, y₂, x₂, y₁, x₁, y₀, x₀] = [y₀, x₀, y₁, x₁, y₂, x₂, y₃, x₃, t] := by
      refine Nat.ofDigits_inj_of_len_eq (b := 16) (by decide) rfl ?_ ?_ ?_
      · simp [ht, hx₀, hy₀, hx₁, hy₁, hx₂, hy₂, hx₃, hy₃]
      · simp [ht, hx₀, hy₀, hx₁, hy₁, hx₂, hy₂, hx₃, hy₃]
      · simp only [Nat.ofDigits_cons, Nat.ofDigits_nil]
        linarith
    simp only [List.cons.injEq] at hdigits
    obtain ⟨rfl, rfl, rfl, rfl, rfl, rfl, rfl, rfl, -⟩ := hdigits
    exact ⟨t, by linarith⟩
  · rintro ⟨k, hk⟩
    obtain rfl : k = t := by omega
    have hoctets : ((b₃ * 256 + b₂) * 256 + b₁) * 256 + b₀ =
        ((17 * k * 256 + 17 * k) * 256 + 17 * k) * 256 + 17 * k := by linarith
    obtain ⟨hb, rfl⟩ := octet_inj hoctets h₀ (by linarith)
    obtain ⟨hb', rfl⟩ := octet_inj hb h₁ (by linarith)
    obtain ⟨rfl, rfl⟩ := octet_inj hb' h₂ (by linarith)
    ring

/-- The two octets and the last bits of an id. -/
theorem unsigned_split_two :
    Octets.unsigned (Octets.split 2 n) = n % 256 * 256 + n / 256 % 256 ∧
      n = n / 65536 * 65536 + n / 256 % 256 * 256 + n % 256 := by
  refine ⟨?_, by omega⟩
  simp [Octets.unsigned, Octets.split]

/-- In 18 bits, the octets are in order where the id is one digit of two bits, repeated. -/
theorem isBits_18 (hn : n < 2 ^ 18) :
    Octets.unsigned (Octets.split 2 n) * 2 ^ 2 + n / 256 ^ 2 = n ↔ Repeats 2 18 n := by
  obtain ⟨hsplit, hsum⟩ := unsigned_split_two (n := n)
  have h := turned_18 (show n % 256 < 256 by omega) (show n / 256 % 256 < 256 by omega)
    (show n / 65536 < 4 by omega)
  rw [← hsum] at h
  rw [hsplit]
  exact h

/-- In 20 bits, the octets are in order where the id is one hexadecimal digit, repeated. -/
theorem isBits_20 (hn : n < 2 ^ 20) :
    Octets.unsigned (Octets.split 2 n) * 2 ^ 4 + n / 256 ^ 2 = n ↔ Repeats 4 20 n := by
  obtain ⟨hsplit, hsum⟩ := unsigned_split_two (n := n)
  have h := turned_20 (show n % 256 < 256 by omega) (show n / 256 % 256 < 256 by omega)
    (show n / 65536 < 16 by omega)
  rw [← hsum] at h
  rw [hsplit]
  exact h

/-- In 21 bits, the octets are in order where the id is one bit, repeated. -/
theorem isBits_21 (hn : n < 2 ^ 21) :
    Octets.unsigned (Octets.split 2 n) * 2 ^ 5 + n / 256 ^ 2 = n ↔ Repeats 1 21 n := by
  obtain ⟨hsplit, hsum⟩ := unsigned_split_two (n := n)
  have h := turned_21 (show n % 256 < 256 by omega) (show n / 256 % 256 < 256 by omega)
    (show n / 65536 < 32 by omega)
  rw [← hsum] at h
  rw [hsplit]
  exact h

/-- In 28 bits, the octets are in order where the id is one hexadecimal digit, repeated. -/
theorem isBits_28 (hn : n < 2 ^ 28) :
    Octets.unsigned (Octets.split 3 n) * 2 ^ 4 + n / 256 ^ 3 = n ↔ Repeats 4 28 n := by
  have hsplit : Octets.unsigned (Octets.split 3 n) =
      n % 256 * 65536 + n / 256 % 256 * 256 + n / 65536 % 256 := by
    simp [Octets.unsigned, Octets.split, Nat.div_div_eq_div_mul, Nat.add_assoc]
  have h₂ : n / 65536 = n / 256 / 256 := (Nat.div_div_eq_div_mul n 256 256).symm
  have h₃ : n / 16777216 = n / 65536 / 256 := (Nat.div_div_eq_div_mul n 65536 256).symm
  have hsum : n = n / 16777216 * 16777216 + n / 65536 % 256 * 65536 + n / 256 % 256 * 256 +
      n % 256 := by omega
  have h := turned_28 (show n % 256 < 256 by omega) (show n / 256 % 256 < 256 by omega)
    (show n / 65536 % 256 < 256 by omega) (show n / 16777216 < 16 by omega)
  rw [← hsum] at h
  rw [hsplit]
  exact h

/-- In 36 bits, the octets are in order where the id is one hexadecimal digit, repeated. -/
theorem isBits_36 (hn : n < 2 ^ 36) :
    Octets.unsigned (Octets.split 4 n) * 2 ^ 4 + n / 256 ^ 4 = n ↔ Repeats 4 36 n := by
  have hsplit : Octets.unsigned (Octets.split 4 n) = n % 256 * 16777216 + n / 256 % 256 * 65536 +
      n / 65536 % 256 * 256 + n / 16777216 % 256 := by
    simp [Octets.unsigned, Octets.split, Nat.div_div_eq_div_mul, Nat.add_assoc]
  have h₂ : n / 65536 = n / 256 / 256 := (Nat.div_div_eq_div_mul n 256 256).symm
  have h₃ : n / 16777216 = n / 65536 / 256 := (Nat.div_div_eq_div_mul n 65536 256).symm
  have h₄ : n / 4294967296 = n / 16777216 / 256 := (Nat.div_div_eq_div_mul n 16777216 256).symm
  have hsum : n = n / 4294967296 * 4294967296 + n / 16777216 % 256 * 16777216 +
      n / 65536 % 256 * 65536 + n / 256 % 256 * 256 + n % 256 := by omega
  have h := turned_36 (show n % 256 < 256 by omega) (show n / 256 % 256 < 256 by omega)
    (show n / 65536 % 256 < 256 by omega) (show n / 16777216 % 256 < 256 by omega)
    (show n / 4294967296 < 16 by omega)
  rw [← hsum] at h
  rw [hsplit]
  exact h

end LowFirst

/-- An identifier whose bit string has the order of bits, if the encoder of the E2AP messages has
none of its own. -/
theorem inOrder_iff (id : Identifier) {b : BitString} (henc : id.toBitString = .next b)
    (hnone : id.elsewhere = none) : id.InOrder ↔ b.IsBits id.width id.value := by
  rw [InOrder, henc, hnone]
  refine ⟨fun ⟨b', hb, h, _⟩ => ?_, fun h => ⟨b, rfl, h, nofun⟩⟩
  rw [Outcome.next_inj.mp hb]
  exact h

/-- An id with the low octet first. -/
theorem inOrder_lowFirst (id : Identifier) {octets unused : Nat}
    (henc : id.toBitString = cpIdToBitString id.width octets unused id.value.toUInt32)
    (hnone : id.elsewhere = none) (hw : id.width ≤ 32)
    (hbits : id.width + unused = 8 * octets + 8) (hunused : unused < 8) : id.InOrder ↔
      Octets.unsigned (Octets.split octets id.value) * 2 ^ (8 - unused) + id.value / 256 ^ octets =
        id.value := by
  have hlt := id.value_lt
  have hn : id.value.toUInt32.toNat = id.value := by
    rw [toNat_toUInt32]
    exact Nat.mod_eq_of_lt (hlt.trans_le (Nat.pow_le_pow_right (by decide) hw))
  rw [cpIdToBitString_of_lt octets unused (hn.trans_lt hlt), hn] at henc
  rw [inOrder_iff id henc hnone]
  exact isBits_lowFirst hbits hunused hlt

/-- A macro eNB id also has to be the one of the E2AP messages; its bits say that. -/
theorem inOrder_macroEnbId (v : BitVec 20) :
    (macroEnbId v).InOrder ↔ (macroNgEnbId v).InOrder := by
  refine ⟨fun ⟨b, hb, h, _⟩ => ⟨b, hb, h, nofun⟩, fun ⟨b, hb, h, _⟩ => ⟨b, hb, h, fun b' hb' => ?_⟩⟩
  obtain rfl := Option.some_inj.mp hb'
  exact isBits_unique h (isBits_macroEnbId v) v.isLt

/-- An ng-eNB id of 20 bits is in order where it is one hexadecimal digit, repeated. -/
theorem inOrder_macroNgEnbId (v : BitVec 20) :
    (macroNgEnbId v).InOrder ↔ Repeats 4 20 v.toNat :=
  (inOrder_lowFirst (macroNgEnbId v) rfl rfl (Nat.le_of_ble_eq_true rfl) rfl (by decide)).trans
    (isBits_20 v.isLt)

/-- A region is in order below 64. -/
theorem inOrder_amfRegionId (v : BitVec 8) : (amfRegionId v).InOrder ↔ v.toNat < 64 := by
  have hv : v.toNat < 2 ^ 8 := v.isLt
  have hn : v.toNat.toUInt8.toNat = v.toNat := by
    rw [toNat_toUInt8]
    exact Nat.mod_eq_of_lt hv
  have hlt : v.toNat.toUInt8 < 64 ↔ v.toNat < 64 := by
    rw [UInt8.lt_iff_toNat_lt, hn]
    rfl
  by_cases h : v.toNat < 64
  · have henc : (amfRegionId v).toBitString = .next ⟨[v.toNat.toUInt8], 0⟩ := by
      rw [toBitString, cpAmfRegionIdToBitString, decide_eq_true (hlt.mpr h)]
      rfl
    refine iff_of_true ((inOrder_iff _ henc rfl).mpr ?_) h
    refine (BitString.isBits_iff (by show 0 < 8; decide) rfl hv).mpr ?_
    simp only [Octets.unsigned, hn, List.length_nil]
    omega
  · refine iff_of_false (fun hin => h (hlt.mp ?_)) h
    obtain ⟨b, hb, -⟩ := hin
    obtain ⟨_, hassert, -⟩ := Outcome.bind_eq_next.mp hb
    exact of_decide_eq_true (Outcome.assert_eq_next.mp hassert)

/-- A set is always in order. -/
theorem inOrder_amfSetId (v : BitVec 10) : (amfSetId v).InOrder := by
  have hv : v.toNat < 2 ^ 10 := v.isLt
  refine (inOrder_iff (amfSetId v) (cpAmfSetIdToBitString_eq v) rfl).mpr ?_
  refine (BitString.isBits_iff (by show 6 < 8; decide) rfl hv).mpr ?_
  simp only [Octets.unsigned, toNat_toUInt8, Nat.shiftRight_eq_div_pow, Nat.shiftLeft_eq,
    List.length_cons, List.length_nil]
  omega

/-- A pointer is always in order. -/
theorem inOrder_amfPtr (v : BitVec 6) : (amfPtr v).InOrder := by
  have hv : v.toNat < 2 ^ 6 := v.isLt
  refine (inOrder_iff (amfPtr v) (cpAmfPtrToBitString_eq v) rfl).mpr ?_
  refine (BitString.isBits_iff (by show 2 < 8; decide) rfl hv).mpr ?_
  simp only [Octets.unsigned, toNat_toUInt8, Nat.shiftLeft_eq, List.length_nil]
  omega

/-- NR cells have 36 bits. -/
theorem inOrder_nrCellId (v : BitVec 36) : (nrCellId v).InOrder ↔ Repeats 4 36 v.toNat := by
  have hv : v.toNat < 2 ^ 36 := v.isLt
  have hn : v.toNat.toUInt64.toNat = v.toNat := by
    rw [UInt64.toNat_ofNat']
    omega
  have henc : cpNrCellIdToBitString v.toNat.toUInt64 =
      .next ⟨Octets.split 4 v.toNat ++ [(v.toNat >>> (8 * 4) <<< 4).toUInt8], 4⟩ := by
    simp only [cpNrCellIdToBitString, hn, hv, Outcome.assert, decide_true, reduceIte,
      Outcome.next_bind, Outcome.pure_eq]
  exact (inOrder_iff (nrCellId v) henc rfl).trans ((isBits_lowFirst
    (show 36 + 4 = 8 * 4 + 8 from rfl) (by decide) hv).trans (isBits_36 hv))

/-- **The order of the bits of identifiers.** The bit string of an identifier has the high bit first
and zeroes behind the last one, and is the one of the E2AP messages, if and only if the identifier
is an AMF set id, an AMF pointer, a gNB id, an AMF region id below 64, or repeats one digit. -/
theorem identifier_bitString (id : Identifier) : id.InOrder ↔ id.Symmetric := by
  cases id with
  | amfRegionId v => exact inOrder_amfRegionId v
  | amfSetId v => exact iff_of_true (inOrder_amfSetId v) trivial
  | amfPtr v => exact iff_of_true (inOrder_amfPtr v) trivial
  | nrCellId v => exact inOrder_nrCellId v
  | eutraCellId v | homeEnbId v =>
    exact (inOrder_lowFirst _ rfl rfl (Nat.le_of_ble_eq_true rfl) rfl (by decide)).trans
      (isBits_28 v.isLt)
  | macroEnbId v => exact (inOrder_macroEnbId v).trans (inOrder_macroNgEnbId v)
  | macroNgEnbId v => exact inOrder_macroNgEnbId v
  | shortMacroEnbId v | shortMacroNgEnbId v =>
    exact (inOrder_lowFirst _ rfl rfl (Nat.le_of_ble_eq_true rfl) rfl (by decide)).trans
      (isBits_18 v.isLt)
  | longMacroEnbId v | longMacroNgEnbId v =>
    exact (inOrder_lowFirst _ rfl rfl (Nat.le_of_ble_eq_true rfl) rfl (by decide)).trans
      (isBits_21 v.isLt)
  | gnbId unused v =>
    obtain ⟨b, hb, hunused, hsize, hval⟩ := cpGnbIdToBitString_of_lt unused v
    refine iff_of_true ((inOrder_iff (gnbId unused v) hb rfl).mpr ?_) trivial
    exact (BitString.isBits_iff hunused hsize v.isLt).mpr hval

/-- The cell id 1 of an NR cell and of an E-UTRA cell, and the macro eNB id 1, begin with their low
octet; AMF region ids from 64 on have no bit string. -/
theorem identifiers_turned : ¬ (nrCellId 1).InOrder ∧ ¬ (macroEnbId 1).InOrder ∧
    ¬ (amfRegionId 64).InOrder := by
  rw [inOrder_nrCellId, inOrder_macroEnbId, inOrder_macroNgEnbId, inOrder_amfRegionId]
  decide

end Identifier

end Ue

end FlexRic
