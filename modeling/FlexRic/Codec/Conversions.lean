import FlexRic.E2ap.Ids
import FlexRic.Lib.Bits
import FlexRic.Lib.Machine

/-!
# FlexRic.Codec.Conversions

The conversions between the numbers of a message and the octets and bits on
the wire (`util/conversions.h`, `util/conversions.c`):

* `mccMncToPlmnid`, `plmnidToMccMnc`: a PLMN in three octets of digits;
* `macroEnbIdToBitString`, `bitStringToMacroEnbId`: an id in twenty bits;
* `cpGnbIdToBitString`, `cpBitStringToGnbId`: a gNB id in 22 to 32 bits.

A PLMN and a twenty-bit id are truncated without a word; each has the exact
condition under which it comes back (`plmn_roundTrip`, `macroEnbId_roundTrip`).
A gNB id is checked by the encoder and always comes back.
-/

namespace FlexRic

/-- `byte_array_t`, and the contents of an `OCTET_STRING_t`. -/
abbrev Bytes := List UInt8

/-- `BIT_STRING_t`; the size is that of the buffer. -/
structure BitString where
  buf : Bytes
  bitsUnused : Nat
  deriving DecidableEq, Repr

namespace BitString

def size (b : BitString) : Nat := b.buf.length

/-- The size in bits, as the generated constraint checks compute it. -/
def bits (b : BitString) : Nat := 8 * b.size - b.bitsUnused % 8

end BitString

/-- `buf[i]` of a buffer that holds it, as an `int`. -/
def octet (buf : Bytes) (i : Nat) : Nat := (buf.getD i 0).toNat

@[simp] theorem octet_cons_zero (b : UInt8) (bs : Bytes) : octet (b :: bs) 0 = b.toNat := rfl

@[simp] theorem octet_cons_succ (b : UInt8) (bs : Bytes) (i : Nat) :
    octet (b :: bs) (i + 1) = octet bs i := rfl

/-! ## PLMN -/

/-- `MCC_HUNDREDS`. -/
def mccHundreds (value : Nat) : Nat := value / 100

/-- `MNC_HUNDREDS`: 15 stands for an MNC of two digits. -/
def mncHundreds (value mncDigitLength : Nat) : Nat :=
  if mncDigitLength = 2 then 15 else value / 100

/-- `MCC_MNC_DECIMAL`. -/
def mccMncDecimal (value : Nat) : Nat := value / 10 % 10

/-- `MCC_MNC_DIGIT`. -/
def mccMncDigit (value : Nat) : Nat := value % 10

/-- `MCC_MNC_TO_PLMNID`; storing into `uint8_t` drops what is above. -/
def mccMncToPlmnid (plmn : E2apPlmn) : Bytes :=
  let mcc := plmn.mcc.toNat
  let mnc := plmn.mnc.toNat
  [(mccMncDecimal mcc <<< 4 ||| mccHundreds mcc).toUInt8,
    (mncHundreds mnc plmn.mncDigitLen.toNat <<< 4 ||| mccMncDigit mcc).toUInt8,
    (mccMncDigit mnc <<< 4 ||| mccMncDecimal mnc).toUInt8]

/-- The low and the high digit of an octet. -/
def lowDigit (b : Nat) : Nat := b &&& 0x0F

def highDigit (b : Nat) : Nat := b >>> 4 &&& 0x0F

/-- The number of digits of the MNC, from the digit that stands for its
hundreds, and the hundreds themselves. -/
def mncDigitLength (hundreds : Nat) : Nat := if hundreds = 0xF then 2 else 3

def mncHundredsBack (hundreds : Nat) : Nat :=
  if mncDigitLength hundreds = 2 then 0 else hundreds * 100

/-- `PLMNID_TO_MCC_MNC`. -/
def plmnidToMccMnc (buf : Bytes) : E2apPlmn where
  mcc := (lowDigit (octet buf 0) * 100 + highDigit (octet buf 0) * 10
    + lowDigit (octet buf 1)).toUInt16
  mncDigitLen := (mncDigitLength (highDigit (octet buf 1))).toUInt8
  mnc := (mncHundredsBack (highDigit (octet buf 1)) + lowDigit (octet buf 2) * 10
    + highDigit (octet buf 2)).toUInt16

/-- The PLMNs three octets can carry. -/
def PlmnFits (plmn : E2apPlmn) : Prop :=
  plmn.mcc.toNat < 1600 ∧
    (plmn.mncDigitLen.toNat = 2 ∧ plmn.mnc.toNat < 100 ∨
      plmn.mncDigitLen.toNat = 3 ∧ plmn.mnc.toNat < 1500)

instance (plmn : E2apPlmn) : Decidable (PlmnFits plmn) := inferInstanceAs (Decidable (_ ∧ _))

theorem lowDigit_eq (b : Nat) : lowDigit b = b % 16 := Nat.and_two_pow_sub_one_eq_mod b 4

theorem highDigit_eq (b : Nat) : highDigit b = b / 16 % 16 := by
  rw [highDigit, Nat.shiftRight_eq_div_pow]
  exact Nat.and_two_pow_sub_one_eq_mod (b / 2 ^ 4) 4

@[simp] theorem toNat_toUInt8 (n : Nat) : n.toUInt8.toNat = n % 256 := UInt8.toNat_ofNat'

@[simp] theorem toNat_toUInt16 (n : Nat) : n.toUInt16.toNat = n % 65536 := UInt16.toNat_ofNat'

@[simp] theorem toNat_toUInt32 (n : Nat) : n.toUInt32.toNat = n % 4294967296 :=
  UInt32.toNat_ofNat'

theorem toUInt8_eq_iff {n : Nat} (h : n < 256) {x : UInt8} : n.toUInt8 = x ↔ n = x.toNat := by
  rw [← UInt8.toNat_inj, toNat_toUInt8, Nat.mod_eq_of_lt h]

theorem toUInt16_eq_iff {n : Nat} (h : n < 65536) {x : UInt16} :
    n.toUInt16 = x ↔ n = x.toNat := by
  rw [← UInt16.toNat_inj, toNat_toUInt16, Nat.mod_eq_of_lt h]

theorem toUInt32_eq_iff {n : Nat} (h : n < 4294967296) {x : UInt32} :
    n.toUInt32 = x ↔ n = x.toNat := by
  rw [← UInt32.toNat_inj, toNat_toUInt32, Nat.mod_eq_of_lt h]

/-- The digits of an octet put together from two: of the low one the last
four bits come back, and of the high one too if the low one did not reach it. -/
theorem lowDigit_octet (a b : Nat) : lowDigit ((a <<< 4 ||| b) % 256) = b % 16 := by
  rw [lowDigit_eq, Nat.mod_mod_of_dvd _ (by decide), show (16 : Nat) = 2 ^ 4 from rfl,
    Nat.or_mod_two_pow, Nat.shiftLeft_eq, Nat.mul_mod_left, Nat.zero_or]

theorem highDigit_octet (a : Nat) {b : Nat} (hb : b < 16) :
    highDigit ((a <<< 4 ||| b) % 256) = a % 16 := by
  rw [highDigit_eq, Bits.or_shiftLeft (i := 4) hb]
  omega

theorem highDigit_lt (b : Nat) : highDigit b < 16 := by
  rw [highDigit_eq]
  omega

/-- The country code that comes back: exact below 1600, and below 1600 in any
case. -/
theorem mcc_back {m : Nat} :
    lowDigit ((mccMncDecimal m <<< 4 ||| mccHundreds m) % 256) * 100 +
      highDigit ((mccMncDecimal m <<< 4 ||| mccHundreds m) % 256) * 10 + mccMncDigit m = m ↔
      m < 1600 := by
  rw [lowDigit_octet]
  have htop := highDigit_lt ((mccMncDecimal m <<< 4 ||| mccHundreds m) % 256)
  have hexact := @highDigit_octet (mccMncDecimal m) (mccHundreds m)
  generalize highDigit ((mccMncDecimal m <<< 4 ||| mccHundreds m) % 256) = top at htop hexact
  simp only [mccHundreds, mccMncDecimal, mccMncDigit] at *
  constructor
  · intro h
    omega
  · intro h
    have := hexact (by omega)
    omega

/-- The network code that comes back, with the number of its digits. -/
theorem mnc_back {m len : Nat} :
    (mncDigitLength (mncHundreds m len % 16) = len ∧
      mncHundredsBack (mncHundreds m len % 16) + mccMncDecimal m * 10 + mccMncDigit m = m) ↔
      (len = 2 ∧ m < 100 ∨ len = 3 ∧ m < 1500) := by
  simp only [mncHundredsBack, mccMncDecimal, mccMncDigit]
  generalize ht : mncHundreds m len % 16 = t
  generalize hl : mncDigitLength t = len'
  simp only [mncHundreds, mncDigitLength] at ht hl
  split at ht <;> split at hl <;> subst hl <;> simp only [reduceIte, Nat.reduceEqDiff] <;> omega

theorem lowDigit_lt (b : Nat) : lowDigit b < 16 := by
  rw [lowDigit_eq]
  omega

theorem mncDigitLength_lt (t : Nat) : mncDigitLength t < 256 := by
  unfold mncDigitLength
  split <;> decide

theorem mncHundredsBack_le (t : Nat) : mncHundredsBack t ≤ t * 100 := by
  unfold mncHundredsBack
  split
  · exact Nat.zero_le _
  · exact Nat.le_refl _

/-- What is read fits the fields of the PLMN it is stored in. -/
theorem plmnidToMccMnc_eq_iff {b₀ b₁ b₂ : UInt8} {plmn : E2apPlmn} :
    plmnidToMccMnc [b₀, b₁, b₂] = plmn ↔
      lowDigit b₀.toNat * 100 + highDigit b₀.toNat * 10 + lowDigit b₁.toNat = plmn.mcc.toNat ∧
      mncDigitLength (highDigit b₁.toNat) = plmn.mncDigitLen.toNat ∧
      mncHundredsBack (highDigit b₁.toNat) + lowDigit b₂.toNat * 10 + highDigit b₂.toNat =
        plmn.mnc.toNat := by
  have hl₀ := lowDigit_lt b₀.toNat
  have hh₀ := highDigit_lt b₀.toNat
  have hl₁ := lowDigit_lt b₁.toNat
  have hh₁ := highDigit_lt b₁.toNat
  have hl₂ := lowDigit_lt b₂.toNat
  have hh₂ := highDigit_lt b₂.toNat
  have hhundreds := mncHundredsBack_le (highDigit b₁.toNat)
  obtain ⟨mcc, mnc, mncDigitLen⟩ := plmn
  simp only [plmnidToMccMnc, octet_cons_zero, octet_cons_succ, E2apPlmn.mk.injEq]
  rw [toUInt16_eq_iff (by omega), toUInt16_eq_iff (by omega), toUInt8_eq_iff (mncDigitLength_lt _),
    and_comm (a := mncHundredsBack _ + _ + _ = _)]

/-- **A PLMN comes back exactly when it fits** its three octets. -/
theorem plmn_roundTrip (plmn : E2apPlmn) :
    plmnidToMccMnc (mccMncToPlmnid plmn) = plmn ↔ PlmnFits plmn := by
  have hdigit : ∀ v, mccMncDigit v % 16 = mccMncDigit v := fun v => by
    unfold mccMncDigit
    omega
  have hdecimal : ∀ v, mccMncDecimal v % 16 = mccMncDecimal v := fun v => by
    unfold mccMncDecimal
    omega
  have hlt : ∀ v, mccMncDecimal v < 16 ∧ mccMncDigit v < 16 := fun v => by
    have := hdigit v
    have := hdecimal v
    omega
  rw [mccMncToPlmnid, plmnidToMccMnc_eq_iff, toNat_toUInt8, toNat_toUInt8, toNat_toUInt8,
    lowDigit_octet _ (mccMncDigit _), lowDigit_octet _ (mccMncDecimal _),
    highDigit_octet _ (hlt _).2, highDigit_octet _ (hlt _).1, hdigit, hdigit, hdecimal,
    mcc_back, mnc_back, PlmnFits]

/-- What comes back of a PLMN that may not fit. -/
theorem plmn_back (plmn : E2apPlmn) :
    (∃ top < 16, (plmnidToMccMnc (mccMncToPlmnid plmn)).mcc.toNat =
      mccHundreds plmn.mcc.toNat % 16 * 100 + top * 10 + mccMncDigit plmn.mcc.toNat) ∧
    ∃ hundreds < 16, (plmnidToMccMnc (mccMncToPlmnid plmn)).mncDigitLen.toNat =
        mncDigitLength hundreds ∧
      (plmnidToMccMnc (mccMncToPlmnid plmn)).mnc.toNat =
        mncHundredsBack hundreds + plmn.mnc.toNat % 100 := by
  obtain ⟨hmcc, hlen, hmnc⟩ := plmnidToMccMnc_eq_iff.mp (Eq.refl (plmnidToMccMnc
    (mccMncToPlmnid plmn)))
  have hdigit (v : Nat) : mccMncDigit v < 16 := by
    unfold mccMncDigit
    omega
  have hdecimal (v : Nat) : mccMncDecimal v < 16 := by
    unfold mccMncDecimal
    omega
  simp only [toNat_toUInt8, lowDigit_octet, Nat.mod_eq_of_lt (hdigit _),
    Nat.mod_eq_of_lt (hdecimal _)] at hmcc hmnc
  rw [highDigit_octet _ (hdecimal _), Nat.mod_eq_of_lt (hdigit _), Nat.add_assoc] at hmnc
  have htwo (v : Nat) : mccMncDecimal v * 10 + mccMncDigit v = v % 100 := by
    unfold mccMncDecimal mccMncDigit
    omega
  rw [htwo] at hmnc
  exact ⟨⟨_, highDigit_lt _, hmcc.symm⟩, _, highDigit_lt _, hlen.symm, hmnc.symm⟩

/-- **A PLMN that is back after two times fits**: an MCC that comes back beyond
1600 loses its first digits the second time. -/
theorem plmnFits_of_twice {plmn : E2apPlmn}
    (h : plmnidToMccMnc (mccMncToPlmnid (plmnidToMccMnc (mccMncToPlmnid plmn))) = plmn) :
    PlmnFits plmn := by
  obtain ⟨⟨top, htop, hmcc⟩, -⟩ := plmn_back plmn
  obtain ⟨⟨top', htop', hmcc'⟩, hundreds, hlt, hlen, hmnc⟩ :=
    plmn_back (plmnidToMccMnc (mccMncToPlmnid plmn))
  rw [h] at hmcc' hlen hmnc
  simp only [mccHundreds, mccMncDigit] at hmcc hmcc'
  refine ⟨by omega, ?_⟩
  rw [hlen, hmnc]
  simp only [mncHundredsBack, mncDigitLength]
  split
  · next h15 => exact .inl ⟨rfl, by simp; omega⟩
  · next h15 => exact .inr ⟨rfl, by simp; omega⟩

/-! ## Twenty-bit ids -/

/-- `MACRO_ENB_ID_TO_BIT_STRING`. -/
def macroEnbIdToBitString (macroId : UInt32) : BitString :=
  let n := macroId.toNat
  ⟨[(n >>> 12).toUInt8, (n >>> 4).toUInt8, ((n &&& 0x0F) <<< 4).toUInt8], 4⟩

/-- `BIT_STRING_TO_MACRO_ENB_ID`. -/
def bitStringToMacroEnbId (asn : BitString) : Outcome UInt32 := do
  Outcome.assert (asn.bitsUnused = 4) "(aSN)->bits_unused == 4"
  return (octet asn.buf 0 <<< 12 ||| octet asn.buf 1 <<< 4 ||| octet asn.buf 2 >>> 4).toUInt32

/-- The last twenty bits of an id come back. -/
theorem bitStringToMacroEnbId_back (macroId : UInt32) :
    bitStringToMacroEnbId (macroEnbIdToBitString macroId) =
      .next (macroId.toNat % 2 ^ 20).toUInt32 := by
  generalize hn : macroId.toNat = n
  have hlast : ((n &&& 0x0F) <<< 4 % 256) >>> 4 = n % 2 ^ 4 := by
    rw [show (0x0F : Nat) = 2 ^ 4 - 1 from rfl, Nat.and_two_pow_sub_one_eq_mod]
    exact Bits.top_of_byte n (u := 4) (by decide)
  have hglue : (n >>> 12 % 256) <<< 12 ||| (n >>> 4 % 256) <<< 4 ||| n % 2 ^ 4 = n % 2 ^ 20 := by
    have h := Bits.glue_two_bytes (n := n % 2 ^ 20) (k := 4) (Nat.mod_lt n (by decide))
    have h₁₂ : (n % 2 ^ 20) >>> 12 % 256 = n >>> 12 % 256 := by
      rw [Nat.shiftRight_eq_div_pow, Nat.shiftRight_eq_div_pow,
        show 2 ^ 20 = 2 ^ 12 * 256 from rfl, Nat.mod_mul_right_div_self, Nat.mod_mod]
    have h₄ : (n % 2 ^ 20) >>> 4 % 256 = n >>> 4 % 256 := by
      rw [Nat.shiftRight_eq_div_pow, Nat.shiftRight_eq_div_pow,
        show 2 ^ 20 = 2 ^ 4 * 65536 from rfl, Nat.mod_mul_right_div_self,
        Nat.mod_mod_of_dvd _ (by decide)]
    have h₀ : n % 2 ^ 20 % 2 ^ 4 = n % 2 ^ 4 := Nat.mod_mod_of_dvd n (by decide)
    rw [h₀] at h
    rw [← h₁₂, ← h₄]
    exact h
  simp only [bitStringToMacroEnbId, macroEnbIdToBitString, hn, Outcome.assert, octet_cons_zero,
    octet_cons_succ, toNat_toUInt8, decide_true, reduceIte, Outcome.next_bind, Outcome.pure_eq]
  rw [← hglue, ← hlast]

/-- **A macro eNB id and a RIC id come back exactly when they fit** twenty bits. -/
theorem macroEnbId_roundTrip (macroId : UInt32) :
    bitStringToMacroEnbId (macroEnbIdToBitString macroId) = .next macroId ↔
      macroId.toNat < 2 ^ 20 := by
  rw [bitStringToMacroEnbId_back, Outcome.next_inj, toUInt32_eq_iff (by omega)]
  omega

/-! ## gNB ids -/

/-- `cp_gnb_id_to_bit_string`: an id of 22 to 32 bits, the first of four
octets left out when they are not needed. -/
def cpGnbIdToBitString (src : E2apGnbId) : Outcome BitString := do
  let nbId := src.nbId.toNat
  Outcome.assert (src.unused < 11) "src.unused < 11"
  Outcome.assert (nbId >>> (32 - src.unused.toNat) = 0)
    "Some bits are not set to zero and value would be lost"
  let bitsUnused := src.unused.toNat % 8
  if src.unused > 7 then
    let unused := src.unused.toNat - 8
    return ⟨[(0xFF &&& nbId >>> (16 - unused)).toUInt8, (0xFF &&& nbId >>> (8 - unused)).toUInt8,
      ((nbId &&& 0xFF >>> unused) <<< unused).toUInt8], bitsUnused⟩
  else
    let unused := src.unused.toNat
    return ⟨[(0xFF &&& nbId >>> (24 - unused)).toUInt8, (0xFF &&& nbId >>> (16 - unused)).toUInt8,
      (0xFF &&& nbId >>> (8 - unused)).toUInt8,
      ((nbId &&& 0xFF >>> unused) <<< unused).toUInt8], bitsUnused⟩

/-- `cp_bit_string_to_gnb_id`. -/
def cpBitStringToGnbId (src : BitString) : Outcome E2apGnbId := do
  Outcome.assert (src.size < 5) "Max. 32 bits permited [22..32]"
  Outcome.assert (src.size = 3 || src.size = 4) "src.size == 3 || src.size == 4"
  Outcome.assert (src.bitsUnused < 8) "src.bits_unused < 8"
  if src.size = 3 then
    Outcome.assert (src.bitsUnused < 3) "Min. 22 bits"
    return ⟨(octet src.buf 0 <<< (16 - src.bitsUnused) ||| octet src.buf 1 <<< (8 - src.bitsUnused)
      ||| octet src.buf 2 >>> src.bitsUnused).toUInt32, (src.bitsUnused + 8).toUInt32⟩
  else
    return ⟨(octet src.buf 0 <<< (24 - src.bitsUnused) ||| octet src.buf 1 <<< (16 - src.bitsUnused)
      ||| octet src.buf 2 <<< (8 - src.bitsUnused)
      ||| octet src.buf 3 >>> src.bitsUnused).toUInt32, src.bitsUnused.toUInt32⟩

theorem octet_of_mask (n : Nat) : (0xFF &&& n).toUInt8.toNat = n % 2 ^ 8 := by
  rw [Nat.and_comm, show (0xFF : Nat) = 2 ^ 8 - 1 from rfl, Nat.and_two_pow_sub_one_eq_mod,
    toNat_toUInt8, Nat.mod_mod]

/-- The last octet, its unused bits shifted out again. -/
theorem last_octet (n : Nat) {u : Nat} (h : u ≤ 8) :
    ((n &&& 0xFF >>> u) <<< u).toUInt8.toNat >>> u = n % 2 ^ (8 - u) := by
  rw [Bits.mask_byte h, Nat.and_two_pow_sub_one_eq_mod, toNat_toUInt8]
  exact Bits.top_of_byte n h

/-- **A gNB id the encoder accepts comes back.** -/
theorem gnbId_roundTrip {src : E2apGnbId} {b : BitString} (h : cpGnbIdToBitString src = .next b) :
    cpBitStringToGnbId b = .next src := by
  obtain ⟨nbId, unused⟩ := src
  simp only [cpGnbIdToBitString, Outcome.bind_eq_next, Outcome.assert_eq_next, decide_eq_true_eq,
    Outcome.pure_eq] at h
  obtain ⟨-, hunused, -, hlost, h⟩ := h
  have hu : unused.toNat < 11 := UInt32.lt_iff_toNat_lt.mp hunused
  have hn : nbId.toNat < 2 ^ (32 - unused.toNat) := by
    rw [Nat.shiftRight_eq_div_pow] at hlost
    exact (Nat.div_eq_zero_iff_lt (Nat.two_pow_pos _)).mp hlost
  split at h
  · -- three octets
    next h7 =>
    have h7 : 7 < unused.toNat := UInt32.lt_iff_toNat_lt.mp h7
    generalize hv : unused.toNat - 8 = v at h
    have hmod : unused.toNat % 8 = v := by omega
    have hglue := Bits.glue_two_bytes (n := nbId.toNat) (k := 8 - v)
      (by rwa [show 8 - v + 8 + 8 = 32 - unused.toNat by omega])
    rw [hmod, Outcome.next_inj] at h
    subst h
    have hsize : v < 8 ∧ v < 3 := by omega
    simp only [cpBitStringToGnbId, BitString.size, List.length_cons, List.length_nil, Nat.zero_add,
      Nat.reduceAdd, Nat.reduceLT, hsize.1, hsize.2, decide_true, Bool.true_or, Outcome.assert,
      reduceIte, Outcome.next_bind, Outcome.pure_eq, octet_cons_zero, octet_cons_succ,
      octet_of_mask, last_octet nbId.toNat (show v ≤ 8 by omega), Outcome.next_inj,
      E2apGnbId.mk.injEq]
    rw [show 16 - v = 8 - v + 8 by omega, hglue, toUInt32_eq_iff nbId.toNat_lt,
      toUInt32_eq_iff (by omega)]
    exact ⟨rfl, by omega⟩
  · -- four octets
    next h7 =>
    have h7 : ¬ 7 < unused.toNat := fun hlt => h7 (UInt32.lt_iff_toNat_lt.mpr hlt)
    generalize hv : unused.toNat = v at h
    have hmod : v % 8 = v := by omega
    have hglue := Bits.glue_three_bytes (n := nbId.toNat) (k := 8 - v)
      (by rwa [show 8 - v + 8 + 8 + 8 = 32 - unused.toNat by omega])
    rw [hmod, Outcome.next_inj] at h
    subst h
    have hsize : v < 8 := by omega
    simp only [cpBitStringToGnbId, BitString.size, List.length_cons, List.length_nil, Nat.zero_add,
      Nat.reduceAdd, Nat.reduceLT, Nat.reduceEqDiff, hsize, decide_true, Bool.or_true,
      Outcome.assert, reduceIte, Outcome.next_bind, Outcome.pure_eq, octet_cons_zero,
      octet_cons_succ, octet_of_mask, last_octet nbId.toNat (show v ≤ 8 by omega),
      Outcome.next_inj, E2apGnbId.mk.injEq]
    rw [show 24 - v = 8 - v + 8 + 8 by omega, show 16 - v = 8 - v + 8 by omega, hglue,
      toUInt32_eq_iff nbId.toNat_lt, toUInt32_eq_iff (by omega)]
    exact ⟨rfl, hv.symm⟩

end FlexRic
