import FlexRic.Ue.CellGlobalId
import FlexRic.Ue.RoundTrip

/-!
# FlexRic.Ue.UeIdConstraints

The constraints of the generated structures for UE and cell identities
(`e2sm_kpm_v02.03_standard.asn1`).  A size or a range with an extension marker is
open.

What the encoders make satisfies them, but for the AMF UE NGAP id of an ng-eNB,
which may come out negative, or in more octets than it takes (`ueId_meets`).
-/

namespace FlexRic

namespace Ue

open Outcome

/-- `PLMNIdentity`. -/
def isPlmnIdentity (b : Bytes) : Bool := b.length = 3

/-- `INTEGER (0..4294967295)`. -/
def isId32 (v : UInt64) : Bool := v ≤ 4294967295

/-- `AMF-UE-NGAP-ID`: `INTEGER (0..1099511627775)`, in the fewest octets, since the runtime carries
the number and not its octets. -/
def isAmfUeNgapId (b : Bytes) : Bool :=
  Octets.minimal b && (0 ≤ Octets.signed b && Octets.signed b < 2 ^ 40)

/-- `RANUEID`. -/
def isRanUeId (b : Bytes) : Bool := b.length = 8

/-- `ENB-UE-X2AP-ID`; that of the extension is open. -/
def isX2apId (v : Int) : Bool := 0 ≤ v && v ≤ 4095

/-- A list of F1AP or E1AP ids. -/
def isIdList (max : Nat) (ids : List UInt64) : Bool :=
  (1 ≤ ids.length && ids.length ≤ max) && ids.all isId32

def GuamiAsn.satisfies (v : GuamiAsn) : Bool :=
  isPlmnIdentity v.plmnIdentity && v.amfRegionId.bits = 8 && v.amfSetId.bits = 10 &&
    v.amfPointer.bits = 6

def GummeiAsn.satisfies (v : GummeiAsn) : Bool :=
  isPlmnIdentity v.plmnIdentity && v.mmeGroupId.length = 2 && v.mmeCode.length = 1

def GnbIdAsn.satisfies : GnbIdAsn → Bool
  | nothing => false
  | gnbId b => 22 ≤ b.bits && b.bits ≤ 32

def GlobalGnbIdAsn.satisfies (v : GlobalGnbIdAsn) : Bool :=
  isPlmnIdentity v.plmnIdentity && v.gnbId.satisfies

def EnbIdAsn.satisfies : EnbIdAsn → Bool
  | nothing => false
  | macroEnbId b => b.bits = 20
  | homeEnbId b => b.bits = 28
  | shortMacroEnbId b => b.bits = 18
  | longMacroEnbId b => b.bits = 21

def GlobalEnbIdAsn.satisfies (v : GlobalEnbIdAsn) : Bool :=
  isPlmnIdentity v.plmnIdentity && v.enbId.satisfies

def NgEnbIdAsn.satisfies : NgEnbIdAsn → Bool
  | nothing => false
  | macroNgEnbId b => b.bits = 20
  | shortMacroNgEnbId b => b.bits = 18
  | longMacroNgEnbId b => b.bits = 21

def GlobalNgEnbIdAsn.satisfies (v : GlobalNgEnbIdAsn) : Bool :=
  isPlmnIdentity v.plmnIdentity && v.ngEnbId.satisfies

def GlobalNgRanNodeIdAsn.satisfies : GlobalNgRanNodeIdAsn → Bool
  | nothing => false
  | gnb id => id.satisfies
  | ngEnb id => id.satisfies

def GnbAsn.satisfies (v : GnbAsn) : Bool :=
  isAmfUeNgapId v.amfUeNgapId && v.guami.satisfies && v.gnbCuUeF1apIdList.all (isIdList 4) &&
    v.gnbCuCpUeE1apIdList.all (isIdList 65535) && v.ranUeId.all isRanUeId &&
    v.mNgRanUeXnapId.all isId32 && v.globalGnbId.all GlobalGnbIdAsn.satisfies &&
    v.globalNgRanNodeId.all GlobalNgRanNodeIdAsn.satisfies

def GnbDuAsn.satisfies (v : GnbDuAsn) : Bool := isId32 v.gnbCuUeF1apId && v.ranUeId.all isRanUeId

def GnbCuUpAsn.satisfies (v : GnbCuUpAsn) : Bool :=
  isId32 v.gnbCuCpUeE1apId && v.ranUeId.all isRanUeId

def NgEnbAsn.satisfies (v : NgEnbAsn) : Bool :=
  isAmfUeNgapId v.amfUeNgapId && v.guami.satisfies && v.ngEnbCuUeW1apId.all isId32 &&
    v.mNgRanUeXnapId.all isId32 && v.globalNgEnbId.all GlobalNgEnbIdAsn.satisfies &&
    v.globalNgRanNodeId.all GlobalNgRanNodeIdAsn.satisfies

def NgEnbDuAsn.satisfies (v : NgEnbDuAsn) : Bool := isId32 v.ngEnbCuUeW1apId

def EnGnbAsn.satisfies (v : EnGnbAsn) : Bool :=
  isX2apId v.mEnbUeX2apId && v.globalEnbId.satisfies && v.gnbCuUeF1apId.all isId32 &&
    v.gnbCuCpUeE1apIdList.all (isIdList 65535) && v.ranUeId.all isRanUeId

def EnbAsn.satisfies (v : EnbAsn) : Bool :=
  isId32 v.mmeUeS1apId && v.gummei.satisfies && v.mEnbUeX2apId.all isX2apId &&
    v.globalEnbId.all GlobalEnbIdAsn.satisfies

def UeIdAsn.satisfies : UeIdAsn → Bool
  | nothing => false
  | gnb ue => ue.satisfies
  | gnbDu ue => ue.satisfies
  | gnbCuUp ue => ue.satisfies
  | ngEnb ue => ue.satisfies
  | ngEnbDu ue => ue.satisfies
  | enGnb ue => ue.satisfies
  | enb ue => ue.satisfies

def NrCgiAsn.satisfies (v : NrCgiAsn) : Bool :=
  isPlmnIdentity v.plmnIdentity && v.nrCellIdentity.bits = 36

def EutraCgiAsn.satisfies (v : EutraCgiAsn) : Bool :=
  isPlmnIdentity v.plmnIdentity && v.eutraCellIdentity.bits = 28

def CgiAsn.satisfies : CgiAsn → Bool
  | nothing => false
  | nrCgi id => id.satisfies
  | eutraCgi id => id.satisfies

/-! ## What the encoders make -/

/-- The low octet of an ng-eNB's AMF UE NGAP id, which comes first, is below 128, and not 0 before
another one below 128. -/
def ngEnbExpressible (v : UInt64) : Bool :=
  v.toNat % 256 < 128 && (v.toNat % 256 ≠ 0 || 128 ≤ v.toNat / 256 % 256)

/-- The AMF UE NGAP id of an ng-eNB is a number in the fewest octets. -/
def UeId.expressible : UeId → Bool
  | ngEnb ue => ngEnbExpressible ue.amfUeNgapId
  | _ => true

/-- Ids of 32 bits are within their constraints. -/
theorem id32_meets : Meets encId32 (fun _ => true) isId32 := by
  intro v y hy
  obtain rfl := next_inj.mp hy
  have hlt : v.toNat < 2 ^ 32 := v.toNat_lt
  simp only [isId32, decide_eq_true_eq, UInt64.le_iff_toNat_le, UInt32.toNat_toUInt64,
    UInt64.reduceToNat]
  omega

/-- Lists of ids have the length that the encoder asserts. -/
theorem idLst_meets (max : Nat) : Meets (encIdLst max) (fun _ => true) (isIdList max) := by
  intro ids y hy
  simp only [encIdLst, bind_eq_next, assert_eq_next, decide_eq_true_eq] at hy
  obtain ⟨_, hlen, hy⟩ := hy
  rw [isIdList, walk_length hy, id32_meets.walk hy]
  simp [hlen]

theorem ranUeId_meets : Meets encRanUeId (fun _ => true) isRanUeId := by
  intro v y hy
  obtain rfl := next_inj.mp hy
  simp [isRanUeId, Octets.length_split]

/-- An X2AP id is asserted to have 12 bits. -/
theorem x2apId_meets : Meets encX2apId (fun _ => true) isX2apId := by
  intro v y hy
  simp only [encX2apId, bind_eq_next, assert_eq_next, decide_eq_true_eq, pure_eq, next_inj] at hy
  obtain ⟨_, hlt, rfl⟩ := hy
  simp only [isX2apId, Bool.and_eq_true, decide_eq_true_eq]
  exact ⟨Int.natCast_nonneg _, Int.le_of_lt_add_one hlt⟩

/-- The octets of an id are those of its bits. -/
theorem cpId_meets (bits octets unused : Nat) (hbits : bits + unused = 8 * octets + 8)
    (hunused : unused < 8) :
    Meets (cpIdToBitString bits octets unused) (fun _ => true) (fun b => b.bits = bits) := by
  intro v y hy
  simp only [cpIdToBitString, bind_eq_next, assert_eq_next, decide_eq_true_eq, pure_eq,
    next_inj] at hy
  obtain ⟨_, -, rfl⟩ := hy
  simp only [BitString.bits, BitString.size, List.length_append, Octets.length_split,
    List.length_singleton, decide_eq_true_eq]
  omega

/-- A gNB id is asserted to have 22 to 32 bits. -/
theorem gnbId_meets : Meets cpGnbIdToBitString (fun _ => true)
    (fun b => 22 ≤ b.bits && b.bits ≤ 32) := by
  intro id y hy
  simp only [cpGnbIdToBitString, bind_eq_next, assert_eq_next, decide_eq_true_eq] at hy
  obtain ⟨_, hunused, _, -, hy⟩ := hy
  rw [UInt32.lt_iff_toNat_lt] at hunused
  simp only [Bool.and_eq_true, decide_eq_true_eq]
  split at hy
  · next h7 =>
    obtain rfl := next_inj.mp hy
    simp only [gt_iff_lt, UInt32.lt_iff_toNat_lt, UInt32.reduceToNat] at h7 hunused
    simp only [BitString.bits, BitString.size, List.length_cons, List.length_nil]
    omega
  · next h7 =>
    obtain rfl := next_inj.mp hy
    simp only [BitString.bits, BitString.size, List.length_cons, List.length_nil]
    omega

theorem globalGnbId_meets : Meets encGlobalGnbIdAsn (fun _ => true) GlobalGnbIdAsn.satisfies := by
  intro id y hy
  simp only [encGlobalGnbIdAsn, bind_eq_next, pure_eq, next_inj] at hy
  obtain ⟨b, hb, rfl⟩ := hy
  exact gnbId_meets hb

/-- The kinds of eNB ids have the widths of their constraints. -/
theorem enbId_meets : Meets encEnbId (fun _ => true) EnbIdAsn.satisfies := by
  intro id y hy
  cases id with
  | macroEnbId v =>
    simp only [encEnbId, bind_eq_next, pure_eq, next_inj] at hy
    obtain ⟨b, hb, rfl⟩ := hy
    exact cpId_meets 20 2 4 rfl (by decide) hb
  | homeEnbId v =>
    simp only [encEnbId, bind_eq_next, pure_eq, next_inj] at hy
    obtain ⟨b, hb, rfl⟩ := hy
    exact cpId_meets 28 3 4 rfl (by decide) hb
  | shortMacroEnbId v =>
    simp only [encEnbId, bind_eq_next, pure_eq, next_inj] at hy
    obtain ⟨b, hb, rfl⟩ := hy
    exact cpId_meets 18 2 6 rfl (by decide) hb
  | longMacroEnbId v =>
    simp only [encEnbId, bind_eq_next, pure_eq, next_inj] at hy
    obtain ⟨b, hb, rfl⟩ := hy
    exact cpId_meets 21 2 3 rfl (by decide) hb

theorem globalEnbId_meets : Meets encGlobalEnbIdAsn (fun _ => true) GlobalEnbIdAsn.satisfies := by
  intro id y hy
  simp only [encGlobalEnbIdAsn, bind_eq_next, pure_eq, next_inj] at hy
  obtain ⟨b, hb, rfl⟩ := hy
  exact enbId_meets hb

/-- The kinds of ng-eNB ids have the widths of their constraints. -/
theorem ngEnbId_meets : Meets encNgEnbId (fun _ => true) NgEnbIdAsn.satisfies := by
  intro id y hy
  cases id with
  | macroNgEnbId v =>
    simp only [encNgEnbId, bind_eq_next, pure_eq, next_inj] at hy
    obtain ⟨b, hb, rfl⟩ := hy
    exact cpId_meets 20 2 4 rfl (by decide) hb
  | shortMacroNgEnbId v =>
    simp only [encNgEnbId, bind_eq_next, pure_eq, next_inj] at hy
    obtain ⟨b, hb, rfl⟩ := hy
    exact cpId_meets 18 2 6 rfl (by decide) hb
  | longMacroNgEnbId v =>
    simp only [encNgEnbId, bind_eq_next, pure_eq, next_inj] at hy
    obtain ⟨b, hb, rfl⟩ := hy
    exact cpId_meets 21 2 3 rfl (by decide) hb

theorem globalNgEnbId_meets :
    Meets encGlobalNgEnbAsn (fun _ => true) GlobalNgEnbIdAsn.satisfies := by
  intro id y hy
  simp only [encGlobalNgEnbAsn, bind_eq_next, pure_eq, next_inj] at hy
  obtain ⟨b, hb, rfl⟩ := hy
  exact ngEnbId_meets hb

theorem globalNgRanNodeId_meets :
    Meets encGlobalNgRanAsn (fun _ => true) GlobalNgRanNodeIdAsn.satisfies := by
  intro id y hy
  cases id with
  | gnb id =>
    simp only [encGlobalNgRanAsn, bind_eq_next, pure_eq, next_inj] at hy
    obtain ⟨b, hb, rfl⟩ := hy
    exact globalGnbId_meets hb
  | ngEnb id =>
    simp only [encGlobalNgRanAsn, bind_eq_next, pure_eq, next_inj] at hy
    obtain ⟨b, hb, rfl⟩ := hy
    exact globalNgEnbId_meets hb

/-- A GUAMI has bit strings of 8, 10 and 6 bits. -/
theorem guami_meets : Meets encGuami (fun _ => true) GuamiAsn.satisfies := by
  intro g y hy
  simp only [encGuami, cpAmfRegionIdToBitString, cpAmfSetIdToBitString, cpAmfPtrToBitString,
    bind_eq_next, assert_eq_next, pure_eq, next_inj] at hy
  obtain ⟨_, ⟨_, -, rfl⟩, _, ⟨_, -, rfl⟩, _, ⟨_, -, rfl⟩, rfl⟩ := hy
  rfl

theorem gummei_meets : Meets encGummei (fun _ => true) GummeiAsn.satisfies := by
  intro g y hy
  obtain rfl := next_inj.mp hy
  rfl

/-- The AMF UE NGAP id of a gNB's UE is below `2^40`. -/
theorem gnbAmfUeNgapId_meets : Meets encGnbAmfUeNgapId (fun _ => true) isAmfUeNgapId := by
  intro v y hy
  simp only [encGnbAmfUeNgapId, bind_eq_next, assert_eq_next, decide_eq_true_eq, pure_eq,
    next_inj] at hy
  obtain ⟨_, hlt, rfl⟩ := hy
  have hminimal : Octets.minimal (asnImax2Integer v) = true :=
    Octets.minimal_shrink (List.reverse_ne_nil_iff.mpr (List.cons_ne_nil _ _))
  simp only [isAmfUeNgapId, hminimal, signed_asnImax2Integer (by omega : v.toNat < 2 ^ 63),
    Bool.true_and, Bool.and_eq_true, decide_eq_true_eq]
  exact ⟨Int.natCast_nonneg _, by exact_mod_cast hlt⟩

/-- The AMF UE NGAP id of an ng-eNB's UE is below `2^40` if its octets, read from the other end,
have no sign, and none of them is redundant. -/
theorem ngEnbAmfUeNgapId_meets :
    Meets encNgEnbAmfUeNgapId ngEnbExpressible isAmfUeNgapId := by
  intro v y hy
  obtain rfl := next_inj.mp hy
  have hhead : Octets.split 5 v.toNat =
      v.toNat.toUInt8 :: Octets.split 4 (v.toNat / 256) := rfl
  have hlt := Octets.signed_lt (Octets.split 5 v.toNat)
  rw [Octets.length_split] at hlt
  have hsign : 0 ≤ Octets.signed (Octets.split 5 v.toNat) ↔ v.toNat % 256 < 128 := by
    rw [hhead, ← toNat_toUInt8]
    exact Octets.signed_nonneg_iff _ _
  have hminimal (hpos : v.toNat % 256 < 128) : Octets.minimal (Octets.split 5 v.toNat) = true ↔
      v.toNat % 256 ≠ 0 ∨ 128 ≤ v.toNat / 256 % 256 := by
    have htwo : Octets.split 4 (v.toNat / 256) =
        (v.toNat / 256).toUInt8 :: Octets.split 3 (v.toNat / 256 / 256) := rfl
    rw [hhead, htwo, Octets.minimal, Bool.not_eq_true', ← Bool.not_eq_true, Octets.redundant_iff,
      ← UInt8.toNat_inj, ← UInt8.toNat_inj, toNat_toUInt8, toNat_toUInt8]
    have hzero : UInt8.toNat 0 = 0 := rfl
    have hlast : UInt8.toNat 255 = 255 := rfl
    omega
  rw [isAmfUeNgapId, ngEnbExpressible, Bool.eq_iff_iff]
  simp only [Bool.and_eq_true, Bool.or_eq_true, decide_eq_true_eq, ← hsign]
  by_cases hpos : v.toNat % 256 < 128
  · rw [hminimal hpos]
    omega
  · omega

/-- **A UE of a gNB** is always within its constraints. -/
theorem gnb_meets : Meets encGnbUeAsn (fun _ => true) GnbAsn.satisfies := by
  intro ue y hy
  simp only [encGnbUeAsn, bind_eq_next, pure_eq, next_inj] at hy
  obtain ⟨y₁, h₁, y₂, h₂, y₃, h₃, y₄, h₄, y₅, h₅, y₆, h₆, y₇, h₇, y₈, h₈, rfl⟩ := hy
  simp only [GnbAsn.satisfies, gnbAmfUeNgapId_meets h₁, guami_meets h₂, (idLst_meets 4).opt h₃,
    (idLst_meets 65535).opt h₄, ranUeId_meets.opt h₅, id32_meets.opt h₆, globalGnbId_meets.opt h₇,
    globalNgRanNodeId_meets.opt h₈, Option.all_true, Bool.and_self]

theorem gnbDu_meets : Meets encGnbDuUeAsn (fun _ => true) GnbDuAsn.satisfies := by
  intro ue y hy
  simp only [encGnbDuUeAsn, bind_eq_next, pure_eq, next_inj] at hy
  obtain ⟨y₁, h₁, y₂, h₂, rfl⟩ := hy
  simp only [GnbDuAsn.satisfies, id32_meets h₁, ranUeId_meets.opt h₂, Option.all_true,
    Bool.and_self]

theorem gnbCuUp_meets : Meets encGnbCuUpUeAsn (fun _ => true) GnbCuUpAsn.satisfies := by
  intro ue y hy
  simp only [encGnbCuUpUeAsn, bind_eq_next, pure_eq, next_inj] at hy
  obtain ⟨y₁, h₁, y₂, h₂, rfl⟩ := hy
  simp only [GnbCuUpAsn.satisfies, id32_meets h₁, ranUeId_meets.opt h₂, Option.all_true,
    Bool.and_self]

/-- **and one of an ng-eNB** where its AMF id is. -/
theorem ngEnb_meets : Meets encNgEnbUeAsn (fun ue => ngEnbExpressible ue.amfUeNgapId)
    NgEnbAsn.satisfies := by
  intro ue y hy
  simp only [encNgEnbUeAsn, bind_eq_next, pure_eq, next_inj] at hy
  obtain ⟨y₁, h₁, y₂, h₂, y₃, h₃, y₄, h₄, y₅, h₅, y₆, h₆, rfl⟩ := hy
  simp only [NgEnbAsn.satisfies, ngEnbAmfUeNgapId_meets h₁, guami_meets h₂, id32_meets.opt h₃,
    id32_meets.opt h₄, globalNgEnbId_meets.opt h₅, globalNgRanNodeId_meets.opt h₆,
    Option.all_true, Bool.and_true]

theorem ngEnbDu_meets : Meets encNgEnbDuUeAsn (fun _ => true) NgEnbDuAsn.satisfies := by
  intro ue y hy
  simp only [encNgEnbDuUeAsn, bind_eq_next, pure_eq, next_inj] at hy
  obtain ⟨y₁, h₁, rfl⟩ := hy
  exact id32_meets h₁

theorem enGnb_meets : Meets encEnGnbUeAsn (fun _ => true) EnGnbAsn.satisfies := by
  intro ue y hy
  simp only [encEnGnbUeAsn, bind_eq_next, pure_eq, next_inj] at hy
  obtain ⟨y₁, h₁, y₂, -, y₃, h₃, y₄, h₄, y₅, h₅, y₆, h₆, rfl⟩ := hy
  simp only [EnGnbAsn.satisfies, x2apId_meets h₁, globalEnbId_meets h₃, id32_meets.opt h₄,
    (idLst_meets 65535).opt h₅, ranUeId_meets.opt h₆, Option.all_true, Bool.and_self]

theorem enb_meets : Meets encEnbUeAsn (fun _ => true) EnbAsn.satisfies := by
  intro ue y hy
  simp only [encEnbUeAsn, bind_eq_next, pure_eq, next_inj] at hy
  obtain ⟨y₁, h₁, y₂, h₂, y₃, h₃, y₄, -, y₅, h₅, rfl⟩ := hy
  simp only [EnbAsn.satisfies, id32_meets h₁, gummei_meets h₂, x2apId_meets.opt h₃,
    globalEnbId_meets.opt h₅, Option.all_true, Bool.and_self]

/-- **A UE identity satisfies its constraints** where it is expressible. -/
theorem ueId_meets : Meets encUeIdAsn UeId.expressible UeIdAsn.satisfies := by
  intro ue y hy
  cases ue with
  | gnb ue =>
    simp only [encUeIdAsn, bind_eq_next, pure_eq, next_inj] at hy
    obtain ⟨y, hy, rfl⟩ := hy
    exact gnb_meets hy
  | gnbDu ue =>
    simp only [encUeIdAsn, bind_eq_next, pure_eq, next_inj] at hy
    obtain ⟨y, hy, rfl⟩ := hy
    exact gnbDu_meets hy
  | gnbCuUp ue =>
    simp only [encUeIdAsn, bind_eq_next, pure_eq, next_inj] at hy
    obtain ⟨y, hy, rfl⟩ := hy
    exact gnbCuUp_meets hy
  | ngEnb ue =>
    simp only [encUeIdAsn, bind_eq_next, pure_eq, next_inj] at hy
    obtain ⟨y, hy, rfl⟩ := hy
    exact ngEnb_meets hy
  | ngEnbDu ue =>
    simp only [encUeIdAsn, bind_eq_next, pure_eq, next_inj] at hy
    obtain ⟨y, hy, rfl⟩ := hy
    exact ngEnbDu_meets hy
  | enGnb ue =>
    simp only [encUeIdAsn, bind_eq_next, pure_eq, next_inj] at hy
    obtain ⟨y, hy, rfl⟩ := hy
    exact enGnb_meets hy
  | enb ue =>
    simp only [encUeIdAsn, bind_eq_next, pure_eq, next_inj] at hy
    obtain ⟨y, hy, rfl⟩ := hy
    exact enb_meets hy

/-- What the encoder of cells makes always does. -/
theorem cellGlobalId_meets : Meets encCellGlobalIdAsn (fun _ => true) CgiAsn.satisfies := by
  intro id y hy
  cases id with
  | nrCgi id =>
    simp only [encCellGlobalIdAsn, cpNrCellIdToBitString, bind_eq_next, assert_eq_next, pure_eq,
      next_inj] at hy
    obtain ⟨_, ⟨_, -, rfl⟩, rfl⟩ := hy
    rfl
  | eutra id =>
    simp only [encCellGlobalIdAsn, bind_eq_next, pure_eq, next_inj] at hy
    obtain ⟨b, hb, rfl⟩ := hy
    exact cpId_meets 28 3 4 rfl (by decide) hb

end Ue

end FlexRic
