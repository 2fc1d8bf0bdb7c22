import FlexRic.Lib.Octets
import FlexRic.Lib.Carries
import FlexRic.Ue.UeIdTypes

/-!
# FlexRic.Ue.Conversions

The conversions between the ids of an identity and the bits and octets on the
wire (`util/conversions.h`, `util/conversions.c`).

* `cpAmfRegionIdToBitString` refuses ids that its eight bits could carry
  (`amfRegionId_back`); an AMF set id and an AMF pointer always come back.
* `cpIdToBitString`, `cpBitStringToId`: an id of an eNB, the low octet first and
  the last octet shifted to its top.  `cpId_back`: it comes back exactly
  when it fits.
-/

namespace FlexRic

namespace Ue

/-! ## AMF ids -/

/-- `cp_amf_region_id_to_bit_string`. -/
def cpAmfRegionIdToBitString (src : UInt8) : Outcome BitString := do
  Outcome.assert (src < 64) "src < 64"
  return ⟨[src], 0⟩

/-- `cp_amf_region_id_to_u8`. -/
def cpAmfRegionIdToU8 (src : BitString) : Outcome UInt8 := do
  Outcome.assert (src.bitsUnused = 0) "src.bits_unused == 0"
  Outcome.assert (src.size = 1) "src.size == 1"
  return (octet src.buf 0).toUInt8

/-- `cp_amf_set_id_to_bit_string`. -/
def cpAmfSetIdToBitString (val : UInt16) : Outcome BitString := do
  Outcome.assert (val < 1024) "val < 1024"
  let n := val.toNat
  return ⟨[(n <<< 6 >>> 8).toUInt8, (n <<< 6).toUInt8], 6⟩

/-- `cp_amf_set_id_to_u16`. -/
def cpAmfSetIdToU16 (src : BitString) : Outcome UInt16 := do
  Outcome.assert (src.bitsUnused = 6) "src.bits_unused == 6"
  Outcome.assert (src.size = 2) "src.size == 2"
  return (octet src.buf 0 <<< 8 >>> 6 ||| octet src.buf 1 >>> 6).toUInt16

/-- `cp_amf_ptr_to_bit_string`. -/
def cpAmfPtrToBitString (src : UInt8) : Outcome BitString := do
  Outcome.assert (src < 64) "src < 64"
  return ⟨[(src.toNat <<< 2).toUInt8], 2⟩

/-- `cp_amf_ptr_to_u8`. -/
def cpAmfPtrToU8 (src : BitString) : Outcome UInt8 := do
  Outcome.assert (src.bitsUnused = 2) "src.bits_unused == 2"
  Outcome.assert (src.size = 1) "src.size == 1"
  return (octet src.buf 0 >>> 2).toUInt8

/-- **An AMF region id comes back exactly when it is below 64**: a quarter of
those there are. -/
theorem amfRegionId_back (src : UInt8) :
    Back cpAmfRegionIdToBitString cpAmfRegionIdToU8 src ↔ src < 64 := by
  by_cases h : src < 64
  · have henc : cpAmfRegionIdToBitString src = .next ⟨[src], 0⟩ := by
      simp [cpAmfRegionIdToBitString, h, Outcome.assert]
    rw [back_next henc]
    simp [cpAmfRegionIdToU8, BitString.size, Outcome.assert, h]
  · simp [Back, cpAmfRegionIdToBitString, h]

/-- The octets of an AMF set id. -/
theorem cpAmfSetIdToBitString_eq (v : BitVec 10) : cpAmfSetIdToBitString v.toNat.toUInt16 =
    .next ⟨[(v.toNat <<< 6 >>> 8).toUInt8, (v.toNat <<< 6).toUInt8], 6⟩ := by
  have hv : v.toNat < 1024 := v.isLt
  have hn : v.toNat.toUInt16.toNat = v.toNat := by
    rw [toNat_toUInt16]
    omega
  have hlt : v.toNat.toUInt16 < 1024 := by
    rw [UInt16.lt_iff_toNat_lt, hn]
    exact hv
  simp [cpAmfSetIdToBitString, hlt, hn, Outcome.assert]

/-- The octet of an AMF pointer. -/
theorem cpAmfPtrToBitString_eq (v : BitVec 6) : cpAmfPtrToBitString v.toNat.toUInt8 =
    .next ⟨[(v.toNat <<< 2).toUInt8], 2⟩ := by
  have hv : v.toNat < 64 := v.isLt
  have hn : v.toNat.toUInt8.toNat = v.toNat := by
    rw [toNat_toUInt8]
    omega
  have hlt : v.toNat.toUInt8 < 64 := by
    rw [UInt8.lt_iff_toNat_lt, hn]
    exact hv
  simp [cpAmfPtrToBitString, hlt, hn, Outcome.assert]

/-- AMF set ids come back. -/
theorem back_amfSetId (v : BitVec 10) :
    Back cpAmfSetIdToBitString cpAmfSetIdToU16 v.toNat.toUInt16 := by
  have hv : v.toNat < 1024 := v.isLt
  have hlow : ((v.toNat <<< 6) % 256) >>> 6 = v.toNat % 4 := by
    simp only [Nat.shiftLeft_eq, Nat.shiftRight_eq_div_pow]
    omega
  have hhigh : ((v.toNat <<< 6 >>> 8) % 256) <<< 8 >>> 6 = (v.toNat / 4) <<< 2 := by
    simp only [Nat.shiftLeft_eq, Nat.shiftRight_eq_div_pow]
    omega
  have hglue : (v.toNat / 4) <<< 2 ||| v.toNat % 4 = v.toNat := by
    rw [Bits.or_shiftLeft (Nat.mod_lt _ (by decide) : v.toNat % 4 < 2 ^ 2)]
    omega
  rw [back_next (cpAmfSetIdToBitString_eq v)]
  simp only [cpAmfSetIdToU16, BitString.size, Outcome.assert, List.length_cons, List.length_nil,
    decide_true, reduceIte, Outcome.next_bind, Outcome.pure_eq, octet_cons_zero, octet_cons_succ,
    toNat_toUInt8, hlow, hhigh, hglue]

/-- AMF pointers come back. -/
theorem back_amfPtr (v : BitVec 6) : Back cpAmfPtrToBitString cpAmfPtrToU8 v.toNat.toUInt8 := by
  have hv : v.toNat < 64 := v.isLt
  have hback : ((v.toNat <<< 2) % 256) >>> 2 = v.toNat := by
    simp only [Nat.shiftLeft_eq, Nat.shiftRight_eq_div_pow]
    omega
  rw [back_next (cpAmfPtrToBitString_eq v)]
  simp only [cpAmfPtrToU8, BitString.size, Outcome.assert, List.length_cons, List.length_nil,
    decide_true, reduceIte, Outcome.next_bind, Outcome.pure_eq, octet_cons_zero, toNat_toUInt8,
    hback]

/-- **An AMF set id comes back** through its bit string. -/
theorem amfSetId_back (v : BitVec 10) :
    ∃ b, cpAmfSetIdToBitString v.toNat.toUInt16 = .next b ∧
      ∃ w, cpAmfSetIdToU16 b = .next w ∧ BitVec.ofNat 10 w.toNat = v := by
  obtain ⟨b, henc, hdec⟩ := back_amfSetId v
  refine ⟨b, henc, _, hdec, ?_⟩
  have hv : v.toNat < 1024 := v.isLt
  rw [toNat_toUInt16, Nat.mod_eq_of_lt (by omega)]
  exact (BitVec.ofNat_toNat 10 v).trans v.setWidth_eq

/-- An AMF pointer comes back through its bit string. -/
theorem amfPtr_back (v : BitVec 6) :
    ∃ b, cpAmfPtrToBitString v.toNat.toUInt8 = .next b ∧
      ∃ w, cpAmfPtrToU8 b = .next w ∧ BitVec.ofNat 6 w.toNat = v := by
  obtain ⟨b, henc, hdec⟩ := back_amfPtr v
  refine ⟨b, henc, _, hdec, ?_⟩
  have hv : v.toNat < 64 := v.isLt
  rw [toNat_toUInt8, Nat.mod_eq_of_lt (by omega)]
  exact (BitVec.ofNat_toNat 6 v).trans v.setWidth_eq

/-! ## eNB ids -/

/-- The conversions of an id of `bits` bits: `octets` octets, the low one first,
and the last one with `unused` bits. -/
def cpIdToBitString (bits octets unused : Nat) (val : UInt32) : Outcome BitString := do
  Outcome.assert (val.toNat < 2 ^ bits) "val < 2^bits"
  let n := val.toNat
  return ⟨Octets.split octets n ++ [(n >>> (8 * octets) <<< unused).toUInt8], unused⟩

def cpBitStringToId (octets unused : Nat) (src : BitString) : Outcome UInt32 := do
  Outcome.assert (src.bitsUnused = unused) "src.bits_unused == unused"
  Outcome.assert (src.size = octets + 1) "src.size == octets + 1"
  let last := octet src.buf octets >>> unused
  return (last <<< (8 * octets) ||| Octets.combine (src.buf.take octets)).toUInt32

def cpMacroEnbIdToBitString := cpIdToBitString 20 2 4
def cpMacroEnbIdToU32 := cpBitStringToId 2 4

def cpHomeEnbIdToBitString := cpIdToBitString 28 3 4
def cpHomeEnbIdToU32 := cpBitStringToId 3 4

def cpShortMacroEnbIdToBitString := cpIdToBitString 18 2 6
def cpShortMacroEnbIdToU32 := cpBitStringToId 2 6

def cpLongMacroEnbIdToBitString := cpIdToBitString 21 2 3
def cpLongMacroEnbIdToU32 := cpBitStringToId 2 3

def cpMacroNgEnbIdToBitString := cpIdToBitString 20 2 4
def cpMacroNgEnbIdToU32 := cpBitStringToId 2 4

def cpShortMacroNgEnbIdToBitString := cpIdToBitString 18 2 6
def cpShortMacroNgEnbIdToU32 := cpBitStringToId 2 6

def cpLongMacroNgEnbIdToBitString := cpIdToBitString 21 2 3
def cpLongMacroNgEnbIdToU32 := cpBitStringToId 2 3

/-- An id of the right width, low octet first and its top bits last. -/
theorem cpIdToBitString_of_lt {bits : Nat} (octets unused : Nat) {val : UInt32}
    (h : val.toNat < 2 ^ bits) : cpIdToBitString bits octets unused val =
      .next ⟨Octets.split octets val.toNat ++
        [(val.toNat >>> (8 * octets) <<< unused).toUInt8], unused⟩ := by
  simp [cpIdToBitString, h, Outcome.assert]

/-- **An id comes back exactly when it fits** its bits. -/
theorem cpId_back (bits octets unused : Nat) (hbits : bits + unused = 8 * octets + 8)
    (hunused : unused ≤ 8) (val : UInt32) :
    Back (cpIdToBitString bits octets unused) (cpBitStringToId octets unused) val ↔
      val.toNat < 2 ^ bits := by
  by_cases h : val.toNat < 2 ^ bits
  · have hfit : val.toNat / 2 ^ (8 * octets) < 2 ^ (8 - unused) := by
      rw [Nat.div_lt_iff_lt_mul (Nat.two_pow_pos _), ← Nat.pow_add,
        show 8 - unused + 8 * octets = bits by omega]
      exact h
    have hlast : octet (Octets.split octets val.toNat ++
        [(val.toNat >>> (8 * octets) <<< unused).toUInt8]) octets >>> unused =
        val.toNat >>> (8 * octets) := by
      rw [octet, List.getD_append_right _ _ _ _ (Octets.length_split _ _).le,
        Octets.length_split, Nat.sub_self, List.getD_cons_zero, toNat_toUInt8,
        Nat.shiftRight_eq_div_pow val.toNat]
      have htop := Bits.top_of_byte (val.toNat / 2 ^ (8 * octets)) hunused
      rwa [Nat.mod_eq_of_lt hfit] at htop
    have hlow : val.toNat % 256 ^ octets < 2 ^ (8 * octets) := by
      rw [show (256 : Nat) = 2 ^ 8 from rfl, ← Nat.pow_mul]
      exact Nat.mod_lt _ (Nat.two_pow_pos _)
    rw [back_next (cpIdToBitString_of_lt octets unused h)]
    simp only [cpBitStringToId, BitString.size, Outcome.assert, List.length_append,
      Octets.length_split, List.length_singleton, decide_true, reduceIte, Outcome.next_bind,
      Outcome.pure_eq, Outcome.next_inj, hlast, h, iff_true]
    rw [List.take_left' (Octets.length_split _ _), Octets.combine_split, Bits.or_shiftLeft hlow,
      Nat.shiftRight_eq_div_pow, show (256 : Nat) = 2 ^ 8 from rfl, ← Nat.pow_mul,
      Nat.div_add_mod', toUInt32_eq_iff val.toNat_lt]
  · simp [Back, cpIdToBitString, h]

end Ue

end FlexRic
