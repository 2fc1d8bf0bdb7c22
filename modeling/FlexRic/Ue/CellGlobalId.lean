import FlexRic.Ue.Conversions
import FlexRic.Ue.UeIdValues

/-!
# FlexRic.Ue.CellGlobalId

The identities of cells (`lib/sm/ie/cell_global_id.c`, `lib/3gpp/ie/nr_cgi.c`,
`lib/3gpp/ie/eutra_cgi.c`) and their encoder and decoder
(`lib/sm/enc/enc_cell_global_id.c`, `lib/sm/dec/dec_cell_global_id.c`).

`cpNrCellIdToU64` shifts an octet to the top of an `int`.  From 128 on the octet
makes it negative, and its sign covers the bits above (`nrCellId_back`).
-/

namespace FlexRic

namespace Ue

open Outcome

/-- `nr_cgi_t`; the cell id is a bit field. -/
structure NrCgi where
  plmnId : E2apPlmn
  nrCellId : BitVec 36
  deriving DecidableEq, Repr

/-- `eutra_cgi_t`. -/
structure EutraCgi where
  plmnId : E2apPlmn
  eutraCellId : UInt32
  deriving DecidableEq, Repr

/-- `cell_global_id_t`. -/
inductive CellGlobalId where
  | nrCgi (id : NrCgi)
  | eutra (id : EutraCgi)
  deriving DecidableEq, Repr

/-- `NR_CGI_t`. -/
structure NrCgiAsn where
  plmnIdentity : Bytes
  nrCellIdentity : BitString
  deriving DecidableEq

/-- `EUTRA_CGI_t`. -/
structure EutraCgiAsn where
  plmnIdentity : Bytes
  eutraCellIdentity : BitString
  deriving DecidableEq

/-- `CGI_t`. -/
inductive CgiAsn where
  | nothing
  | nrCgi (id : NrCgiAsn)
  | eutraCgi (id : EutraCgiAsn)
  deriving DecidableEq

/-! ## Encoder and decoder -/

/-- `cp_nr_cell_id_to_bit_string`. -/
def cpNrCellIdToBitString (val : UInt64) : Outcome BitString := do
  assert (val.toNat < 2 ^ 36) "val < 68719476736"
  let n := val.toNat
  return ⟨Octets.split 4 n ++ [(n >>> 32 <<< 4).toUInt8], 4⟩

/-- `(uint64_t)(b << 24)` of an octet: an `int`, and its sign above it. -/
def shiftedToSign (b : Nat) : Nat := if b < 128 then b <<< 24 else b <<< 24 + (2 ^ 64 - 2 ^ 32)

/-- `cp_nr_cell_id_to_u64`. -/
def cpNrCellIdToU64 (src : BitString) : Outcome UInt64 := do
  assert (src.bitsUnused = 4) "src.bits_unused == 4"
  assert (src.size = 5) "src.size == 5"
  let high := octet src.buf 4 >>> 4
  return (high <<< 32 ||| shiftedToSign (octet src.buf 3) ||| octet src.buf 2 <<< 16
    ||| octet src.buf 1 <<< 8 ||| octet src.buf 0).toUInt64

/-- `cp_eutra_cell_id_to_bit_string` and `cp_eutra_cell_id_to_u32`. -/
def cpEutraCellIdToBitString := cpIdToBitString 28 3 4
def cpEutraCellIdToU32 := cpBitStringToId 3 4

/-- `enc_cell_global_id_asn`. -/
def encCellGlobalIdAsn : CellGlobalId → Outcome CgiAsn
  | .nrCgi id => do
    let cell ← cpNrCellIdToBitString id.nrCellId.toNat.toUInt64
    return .nrCgi ⟨mccMncToPlmnid id.plmnId, cell⟩
  | .eutra id => do
    let cell ← cpEutraCellIdToBitString id.eutraCellId
    return .eutraCgi ⟨mccMncToPlmnid id.plmnId, cell⟩

/-- `dec_cell_global_id_asn`. -/
def decCellGlobalIdAsn : CgiAsn → Outcome CellGlobalId
  | .nrCgi id => do
    let cell ← cpNrCellIdToU64 id.nrCellIdentity
    return .nrCgi ⟨plmnidToMccMnc id.plmnIdentity, .ofNat 36 cell.toNat⟩
  | .eutraCgi id => do
    let cell ← cpEutraCellIdToU32 id.eutraCellIdentity
    return .eutra ⟨plmnidToMccMnc id.plmnIdentity, cell⟩
  | .nothing => .abort "Unknown type"

/-! ## Copy and comparison -/

/-- `cp_cell_global_id`. -/
def cpCellGlobalId : CellGlobalId → CellGlobalId
  | .nrCgi id => .nrCgi ⟨cpE2smPlmn id.plmnId, id.nrCellId⟩
  | .eutra id => .eutra ⟨id.plmnId, id.eutraCellId⟩

/-- `eq_cell_global_id`. -/
def eqCellGlobalId : CellGlobalId → CellGlobalId → Bool
  | .nrCgi m0, .nrCgi m1 => eqE2smPlmn m0.plmnId m1.plmnId && m0.nrCellId == m1.nrCellId
  | .eutra m0, .eutra m1 => eqE2smPlmn m0.plmnId m1.plmnId && m0.eutraCellId == m1.eutraCellId
  | _, _ => false

/-- A cell equals itself. -/
@[simp] theorem eqCellGlobalId_self (m : CellGlobalId) : eqCellGlobalId m m = true := by
  cases m <;> simp [eqCellGlobalId]

/-! ## Round trip -/

/-- The octets below the one at the top, put together. -/
theorem low_octets {a b c : Nat} (ha : a < 256) (hb : b < 256) :
    c <<< 16 ||| b <<< 8 ||| a = c * 2 ^ 16 + b * 2 ^ 8 + a := by
  have hbc : c <<< 16 ||| b <<< 8 = (c * 2 ^ 8 + b) <<< 8 := by
    rw [← Bits.or_shiftLeft hb, Nat.shiftLeft_or_distrib, ← Nat.shiftLeft_add]
  rw [hbc, Bits.or_shiftLeft ha]
  omega

/-- The sign of the fourth octet covers four bits above it. -/
theorem sign_covers {high : Nat} (h : high < 16) :
    high <<< 32 ||| (2 ^ 64 - 2 ^ 32) = 2 ^ 64 - 2 ^ 32 := by
  interval_cases high <;> decide

/-- The octets of an NR cell id, put together again: the fourth one fills what
is above it from 128 on. -/
theorem nrCellId_octets {high d c b a : Nat} (hhigh : high < 16) (hd : d < 256) (hc : c < 256)
    (hb : b < 256) (ha : a < 256) :
    high <<< 32 ||| shiftedToSign d ||| c <<< 16 ||| b <<< 8 ||| a =
      (if d < 128 then high * 2 ^ 32 else 2 ^ 64 - 2 ^ 32) +
        (d * 2 ^ 24 + c * 2 ^ 16 + b * 2 ^ 8 + a) := by
  have htop : d <<< 24 < 2 ^ 32 := by
    rw [Nat.shiftLeft_eq]
    omega
  have hlow : d <<< 24 ||| (c <<< 16 ||| b <<< 8 ||| a) =
      d * 2 ^ 24 + c * 2 ^ 16 + b * 2 ^ 8 + a := by
    rw [low_octets ha hb, Bits.or_shiftLeft (by omega)]
    omega
  have hsum : d * 2 ^ 24 + c * 2 ^ 16 + b * 2 ^ 8 + a < 2 ^ 32 := by omega
  have hassoc : high <<< 32 ||| shiftedToSign d ||| c <<< 16 ||| b <<< 8 ||| a =
      high <<< 32 ||| shiftedToSign d ||| (c <<< 16 ||| b <<< 8 ||| a) := by
    rw [Nat.or_assoc, Nat.or_assoc, ← Nat.or_assoc (c <<< 16)]
  rw [hassoc, shiftedToSign]
  split
  · rw [Nat.or_assoc, hlow, Bits.or_shiftLeft hsum]
  · have hsign : ∀ low, low < 2 ^ 32 → (2 ^ 64 - 2 ^ 32) ||| low = (2 ^ 64 - 2 ^ 32) + low := by
      intro low hlow
      have hS : (2 ^ 32 - 1) * 2 ^ 32 = 2 ^ 64 - 2 ^ 32 := by norm_num
      have h := Bits.or_shiftLeft hlow (2 ^ 32 - 1)
      rw [Nat.shiftLeft_eq, hS] at h
      exact h
    have hregroup : ∀ h s x l : Nat, h ||| (s ||| x) ||| l = h ||| s ||| (x ||| l) := by
      intro h s x l
      rw [← Nat.or_assoc, Nat.or_assoc]
    rw [Nat.add_comm (d <<< 24), ← hsign _ htop, hregroup, sign_covers hhigh, hlow, hsign _ hsum]

/-- What the decoder makes of an NR cell id: below bit 32 the id, above it either the four bits or
the sign. -/
theorem cpNrCellIdToU64_of_enc (v : BitVec 36) :
    ∃ b, cpNrCellIdToBitString v.toNat.toUInt64 = .next b ∧ ∃ w, cpNrCellIdToU64 b = .next w ∧
      w.toNat = (if v.toNat / 2 ^ 31 % 2 = 0 then v.toNat / 2 ^ 32 * 2 ^ 32 else 2 ^ 64 - 2 ^ 32) +
        v.toNat % 2 ^ 32 := by
  have hv : v.toNat < 2 ^ 36 := v.isLt
  have hn : v.toNat.toUInt64.toNat = v.toNat := by
    rw [UInt64.toNat_ofNat']
    omega
  refine ⟨⟨Octets.split 4 v.toNat ++ [(v.toNat >>> 32 <<< 4).toUInt8], 4⟩, ?_, ?_⟩
  · simp only [cpNrCellIdToBitString, hn, hv, assert, decide_true, reduceIte, next_bind, pure_eq]
  · have hocts : Octets.split 4 v.toNat ++ [(v.toNat >>> 32 <<< 4).toUInt8] =
        [v.toNat.toUInt8, (v.toNat / 256).toUInt8, (v.toNat / 256 / 256).toUInt8,
          (v.toNat / 256 / 256 / 256).toUInt8, (v.toNat >>> 32 <<< 4).toUInt8] := rfl
    have hhigh : ((v.toNat >>> 32 <<< 4) % 256) >>> 4 = v.toNat / 2 ^ 32 := by
      have hfit : v.toNat / 2 ^ 32 < 2 ^ (8 - 4) := by omega
      have htop := Bits.top_of_byte (v.toNat / 2 ^ 32) (by decide : 4 ≤ 8)
      rw [Nat.mod_eq_of_lt hfit] at htop
      rwa [Nat.shiftRight_eq_div_pow v.toNat]
    refine ⟨_, by simp only [cpNrCellIdToU64, hocts, BitString.size, assert, List.length_cons,
      List.length_nil, decide_true, reduceIte, next_bind, pure_eq, octet_cons_zero,
      octet_cons_succ, toNat_toUInt8, hhigh]; rfl, ?_⟩
    rw [nrCellId_octets (by omega) (Nat.mod_lt _ (by decide)) (Nat.mod_lt _ (by decide))
      (Nat.mod_lt _ (by decide)) (Nat.mod_lt _ (by decide)), UInt64.toNat_ofNat']
    split <;> split <;> omega

/-- **An NR cell id comes back** unless its bit 31 is set and one of the four
above it is not. -/
theorem nrCellId_back (v : BitVec 36) :
    ∃ b, cpNrCellIdToBitString v.toNat.toUInt64 = .next b ∧ ∃ w, cpNrCellIdToU64 b = .next w ∧
      (BitVec.ofNat 36 w.toNat = v ↔ v.toNat / 2 ^ 31 % 2 = 0 ∨ 15 * 2 ^ 32 ≤ v.toNat) := by
  obtain ⟨b, hb, w, hw, hval⟩ := cpNrCellIdToU64_of_enc v
  have hv : v.toNat < 2 ^ 36 := v.isLt
  refine ⟨b, hb, w, hw, ?_⟩
  rw [← BitVec.toNat_inj, BitVec.toNat_ofNat, hval]
  split <;> omega

/-- The ids of cells that come back. -/
def CellGlobalId.Survives : CellGlobalId → Prop
  | nrCgi id =>
    PlmnFits id.plmnId ∧
      (id.nrCellId.toNat / 2 ^ 31 % 2 = 0 ∨ 15 * 2 ^ 32 ≤ id.nrCellId.toNat)
  | eutra id => PlmnFits id.plmnId ∧ id.eutraCellId.toNat < 2 ^ 28

/-- **A cell comes back** where its PLMN and its id do. -/
theorem cellGlobalId_back (id : CellGlobalId) :
    Back encCellGlobalIdAsn decCellGlobalIdAsn id ↔ id.Survives := by
  cases id with
  | nrCgi id =>
    obtain ⟨plmn, cell⟩ := id
    obtain ⟨b, hb, w, hw, hback⟩ := nrCellId_back cell
    have henc : encCellGlobalIdAsn (.nrCgi ⟨plmn, cell⟩) =
        next (.nrCgi ⟨mccMncToPlmnid plmn, b⟩) := by
      rw [encCellGlobalIdAsn, hb]
      rfl
    have hdec : decCellGlobalIdAsn (.nrCgi ⟨mccMncToPlmnid plmn, b⟩) =
        next (.nrCgi ⟨plmnidToMccMnc (mccMncToPlmnid plmn), .ofNat 36 w.toNat⟩) := by
      rw [decCellGlobalIdAsn, hw]
      rfl
    rw [back_next henc, hdec, CellGlobalId.Survives, ← plmn_roundTrip, ← hback]
    simp
  | eutra id =>
    obtain ⟨plmn, cell⟩ := id
    rw [CellGlobalId.Survives, ← plmn_roundTrip, ← cpId_back 28 3 4 rfl (by decide)]
    constructor
    · rintro ⟨y, hy, hdec⟩
      simp only [encCellGlobalIdAsn, bind_eq_next, pure_eq, next_inj] at hy
      obtain ⟨b, hb, rfl⟩ := hy
      simp only [decCellGlobalIdAsn, bind_eq_next, pure_eq, next_inj, CellGlobalId.eutra.injEq,
        EutraCgi.mk.injEq] at hdec
      obtain ⟨v, hv, hplmn, rfl⟩ := hdec
      exact ⟨hplmn, b, hb, hv⟩
    · rintro ⟨hplmn, b, hb, hv⟩
      refine ⟨.eutraCgi ⟨mccMncToPlmnid plmn, b⟩, ?_, ?_⟩
      · rw [encCellGlobalIdAsn, cpEutraCellIdToBitString, hb]
        rfl
      · rw [decCellGlobalIdAsn, cpEutraCellIdToU32, hv, hplmn]
        rfl

end Ue

end FlexRic
