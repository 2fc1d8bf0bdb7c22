import FlexRic.Ue.UeIdCodec
import Mathlib.Data.UInt

/-!
# FlexRic.Ue.RoundTrip

Which UE identities come back from `decUeIdAsn` of `encUeIdAsn`, with their AMF
UE NGAP id in the INTEGER as a number in two's complement.

Each part of an identity has the exact condition under which it comes back; the
condition on an identity, `UeId.Survives`, is that on its parts
(`ueId_roundTrip`).  Three parts fail within their range:

* the AMF UE NGAP id of a gNB from `2^39` on takes six octets, one more than the
  decoder expects;
* the one of an ng-eNB has its octets in the other order;
* an AMF region id from 64 on is refused.
-/

namespace FlexRic

namespace Ue

open Outcome

/-! ## AMF UE NGAP ids -/

/-- An id comes back, and its octets stand for it. -/
def Placed (enc : UInt64 → Outcome Bytes) (dec : Bytes → Outcome UInt64) (v : UInt64) : Prop :=
  ∃ buf, enc v = next buf ∧ dec buf = next v ∧ Octets.signed buf = v.toNat

/-- The shortest octets stand for the number. -/
theorem signed_asnImax2Integer {v : UInt64} (h : v.toNat < 2 ^ 63) :
    Octets.signed (asnImax2Integer v) = v.toNat := by
  have hcombine : Octets.combine (Octets.split 8 v.toNat) = v.toNat :=
    Octets.combine_split_of_lt v.toNat_lt
  rw [asnImax2Integer, Octets.signed_shrink, Octets.signed_of_room, Octets.unsigned_reverse,
    hcombine]
  rw [Octets.unsigned_reverse, hcombine, List.length_reverse, Octets.length_split]
  omega

/-- Eight octets or fewer always are a number. -/
theorem asnInteger2Umax_of_length_le {buf : Bytes} (h : buf.length ≤ 8) :
    asnInteger2Umax buf = some (Octets.unsigned buf).toUInt64 := by
  have hlt : Octets.unsigned buf < 2 ^ 64 :=
    (Octets.unsigned_lt buf).trans_le (Nat.pow_le_pow_right (by decide) h)
  have hextra : buf.length - 8 = 0 := by omega
  simp only [asnInteger2Umax, hextra, List.take_zero, List.any_nil, Bool.false_eq_true, reduceIte,
    List.drop_zero, Option.some.injEq]
  rw [← UInt64.toNat_inj, Octets.toNat_foldl]
  simp

/-- A gNB's id below `2^40` is written as its shortest octets: fewer than six
below `2^39`, where the sign needs no octet of its own. -/
theorem gnbAmfUeNgapId_octets {v : UInt64} (h40 : v.toNat < 2 ^ 40) :
    encGnbAmfUeNgapId v = next (asnImax2Integer v) ∧ Octets.signed (asnImax2Integer v) = v.toNat ∧
      ((asnImax2Integer v).length < 6 ↔ v.toNat < 2 ^ 39) := by
  have hsigned := signed_asnImax2Integer (v := v) (by omega)
  refine ⟨?_, hsigned, ?_⟩
  · simp only [encGnbAmfUeNgapId, h40, decide_true, Outcome.assert, reduceIte, next_bind, pure_eq]
  · have hnonneg : 0 ≤ Octets.signed (Octets.split 8 v.toNat).reverse := by
      rw [← Octets.signed_shrink]
      exact hsigned.ge.trans' (Int.natCast_nonneg _)
    have hshrink := Octets.length_shrink_le hnonneg 4
    rw [← Octets.signed_shrink] at hshrink
    rw [asnImax2Integer] at hsigned ⊢
    rw [Nat.lt_succ_iff, hshrink, hsigned]
    omega

/-- **The id of a gNB comes back below `2^39`**: from there on the sign takes an
octet of its own. -/
theorem gnbAmfUeNgapId_back (v : UInt64) :
    Back encGnbAmfUeNgapId decGnbAmfUeNgapId v ↔ v.toNat < 2 ^ 39 := by
  by_cases h40 : v.toNat < 2 ^ 40
  · obtain ⟨henc, hsigned, hlen⟩ := gnbAmfUeNgapId_octets h40
    have hdec (h : (asnImax2Integer v).length < 6) :
        decGnbAmfUeNgapId (asnImax2Integer v) = next v := by
      have hunsigned : Octets.unsigned (asnImax2Integer v) = v.toNat := by
        have := Octets.signed_of_nonneg (hsigned.ge.trans' (Int.natCast_nonneg _))
        omega
      have hback : (asnInteger2Umax (asnImax2Integer v)).getD 0 = v := by
        rw [asnInteger2Umax_of_length_le (by omega), hunsigned]
        exact UInt64.ofNat_toNat
      simp only [decGnbAmfUeNgapId, hback, h, h40, decide_true, Outcome.assert, reduceIte,
        next_bind, pure_eq]
    rw [← hlen, back_next henc]
    constructor
    · intro hback
      simp only [decGnbAmfUeNgapId, bind_eq_next, assert_eq_next, decide_eq_true_eq] at hback
      obtain ⟨-, hlt, -⟩ := hback
      exact hlt
    · exact hdec
  · have h39 : ¬ v.toNat < 2 ^ 39 := by omega
    simp only [Back, encGnbAmfUeNgapId, h40, h39, decide_false, Outcome.assert,
      Bool.false_eq_true, reduceIte, abort_bind, reduceCtorEq, false_and, exists_false]

/-- Where it comes back it is in place. -/
theorem gnbAmfUeNgapId_placed (v : UInt64) :
    Placed encGnbAmfUeNgapId decGnbAmfUeNgapId v ↔ v.toNat < 2 ^ 39 := by
  rw [← gnbAmfUeNgapId_back]
  constructor
  · rintro ⟨buf, hbuf, hback, -⟩
    exact ⟨buf, hbuf, hback⟩
  · rintro ⟨buf, hbuf, hback⟩
    have h39 := (gnbAmfUeNgapId_back v).mp ⟨buf, hbuf, hback⟩
    obtain ⟨henc, hsigned, -⟩ := gnbAmfUeNgapId_octets (v := v) (by omega)
    obtain rfl := next_inj.mp (henc.symm.trans hbuf)
    exact ⟨_, hbuf, hback, hsigned⟩

/-- The id of an ng-eNB comes back below `2^40`. -/
theorem ngEnbAmfUeNgapId_back (v : UInt64) :
    Back encNgEnbAmfUeNgapId decNgEnbAmfUeNgapId v ↔ v.toNat < 2 ^ 40 := by
  have htake : (Octets.split 5 v.toNat).take 5 = Octets.split 5 v.toNat :=
    List.take_of_length_le (Octets.length_split _ _).le
  have hlt : v.toNat % 256 ^ 5 < 2 ^ 40 := Nat.mod_lt _ (by decide)
  rw [back_next (rfl : encNgEnbAmfUeNgapId v = next (Octets.split 5 v.toNat))]
  simp only [decNgEnbAmfUeNgapId, htake, Octets.combine_split, hlt, decide_true, Outcome.assert,
    reduceIte, next_bind, pure_eq, next_inj]
  rw [← UInt64.toNat_inj, Nat.toUInt64, UInt64.toNat_ofNat']
  omega

/-- The id of an ng-eNB is in place **only if its octets read the same both ways.** -/
theorem ngEnbAmfUeNgapId_placed (v : UInt64) :
    Placed encNgEnbAmfUeNgapId decNgEnbAmfUeNgapId v ↔
      v.toNat < 2 ^ 39 ∧ (Octets.split 5 v.toNat).reverse = Octets.split 5 v.toNat := by
  have hcombine (h : v.toNat < 2 ^ 40) : Octets.combine (Octets.split 5 v.toNat) = v.toNat :=
    Octets.combine_split_of_lt h
  constructor
  · rintro ⟨buf, hbuf, hback, hsigned⟩
    have h40 := (ngEnbAmfUeNgapId_back v).mp ⟨buf, hbuf, hback⟩
    obtain rfl := next_inj.mp hbuf
    have hunsigned := Octets.signed_of_nonneg (hsigned.ge.trans' (Int.natCast_nonneg _))
    have hrev : Octets.unsigned (Octets.split 5 v.toNat).reverse =
        Octets.unsigned (Octets.split 5 v.toNat) := by
      rw [Octets.unsigned_reverse, hcombine h40]
      omega
    have hlt := Octets.signed_lt (Octets.split 5 v.toNat)
    rw [Octets.length_split, hsigned] at hlt
    refine ⟨by omega, Octets.unsigned_injective ?_ hrev⟩
    rw [List.length_reverse]
  · rintro ⟨h39, hrev⟩
    have h40 : v.toNat < 2 ^ 40 := by omega
    obtain ⟨buf, hbuf, hback⟩ := (ngEnbAmfUeNgapId_back v).mpr h40
    refine ⟨buf, hbuf, hback, ?_⟩
    obtain rfl := next_inj.mp hbuf
    have hunsigned : Octets.unsigned (Octets.split 5 v.toNat) = v.toNat := by
      rw [← hrev, Octets.unsigned_reverse, hcombine h40]
    rw [Octets.signed_of_room, hunsigned]
    rw [hunsigned, Octets.length_split]
    omega

/-! ## Other ids -/

/-- Ids of 32 bits come back. -/
theorem id32_back (v : UInt32) : Back encId32 decId32 v :=
  ⟨v.toUInt64, rfl, by simp [decId32]⟩

/-- Ids of 32 bits are encoded one by one. -/
theorem walk_encId32 (ids : List UInt32) : walk encId32 ids = next (ids.map (·.toUInt64)) := by
  induction ids with
  | nil => rfl
  | cons v ids ih => exact walk_cons_eq_next.mpr ⟨_, _, rfl, ih, rfl⟩

/-- Ids of 32 bits are decoded one by one. -/
theorem walk_decId32 (ids : List UInt32) :
    walk decId32 (ids.map (·.toUInt64)) = next ids := by
  induction ids with
  | nil => rfl
  | cons v ids ih => exact walk_cons_eq_next.mpr ⟨v, ids, by simp [decId32], ih, rfl⟩

/-- A list of ids comes back exactly when it has an allowed length. -/
theorem idLst_back (max : Nat) (ids : List UInt32) :
    Back (encIdLst max) (decIdLst max) ids ↔ 1 ≤ ids.length ∧ ids.length ≤ max := by
  constructor
  · rintro ⟨ys, henc, -⟩
    simp only [encIdLst, bind_eq_next, assert_eq_next, decide_eq_true_eq] at henc
    obtain ⟨-, hlen, -⟩ := henc
    exact hlen
  · intro hlen
    refine ⟨ids.map (·.toUInt64), ?_, ?_⟩
    · simp [encIdLst, hlen, Outcome.assert, walk_encId32]
    · simp [decIdLst, hlen, Outcome.assert, walk_decId32]

/-- RAN UE ids come back. -/
theorem ranUeId_back (v : UInt64) : Back encRanUeId decRanUeId v := by
  refine ⟨_, rfl, ?_⟩
  have hback : (Octets.combine (Octets.split 8 v.toNat)).toUInt64 = v := by
    rw [Octets.combine_split_of_lt v.toNat_lt]
    exact UInt64.ofNat_toNat
  simp [decRanUeId, Octets.length_split, Outcome.assert, hback]

/-- X2AP ids come back in 12 bits. -/
theorem x2apId_back (v : UInt16) : Back encX2apId decX2apId v ↔ v.toNat ≤ maxValEnbUeX2apId := by
  have hback : longToU16 v.toNat = v := by
    have hlt : v.toNat < 65536 := v.toNat_lt
    rw [longToU16, ← UInt16.toNat_inj, toNat_toUInt16]
    omega
  rw [← Nat.lt_succ_iff]
  constructor
  · rintro ⟨id, henc, -⟩
    simp only [encX2apId, bind_eq_next, assert_eq_next, decide_eq_true_eq] at henc
    obtain ⟨-, hlt, -⟩ := henc
    exact_mod_cast hlt
  · intro hlt
    have hlt' : (v.toNat : Int) < maxValEnbUeX2apId + 1 := by exact_mod_cast hlt
    refine ⟨v.toNat, ?_, ?_⟩
    · simp [encX2apId, hlt', Outcome.assert]
    · simp [decX2apId, hback, hlt, Outcome.assert]

/-! ## Global ids of nodes -/

/-- A gNB id of 22 to 32 bits. -/
def GnbIdFits (id : E2apGnbId) : Prop :=
  id.unused.toNat < 11 ∧ id.nbId.toNat < 2 ^ (32 - id.unused.toNat)

instance (id : E2apGnbId) : Decidable (GnbIdFits id) := inferInstanceAs (Decidable (_ ∧ _))

/-- The id of a gNB comes back in 22 to 32 bits. -/
theorem gnbId_back (id : E2apGnbId) :
    Back cpGnbIdToBitString cpBitStringToGnbId id ↔ GnbIdFits id := by
  have haccept : GnbIdFits id ↔ id.unused < 11 ∧
      id.nbId.toNat >>> (32 - id.unused.toNat) = 0 := by
    rw [GnbIdFits, UInt32.lt_iff_toNat_lt, Nat.shiftRight_eq_div_pow,
      Nat.div_eq_zero_iff_lt (Nat.two_pow_pos _)]
    rfl
  rw [haccept]
  constructor
  · rintro ⟨b, henc, -⟩
    simp only [cpGnbIdToBitString, bind_eq_next, assert_eq_next, decide_eq_true_eq] at henc
    obtain ⟨-, hunused, -, hlost, -⟩ := henc
    exact ⟨hunused, hlost⟩
  · rintro ⟨hunused, hlost⟩
    have henc : ∃ b, cpGnbIdToBitString id = next b := by
      simp only [cpGnbIdToBitString, hunused, hlost, decide_true, Outcome.assert, reduceIte,
        next_bind, pure_eq]
      split <;> exact ⟨_, rfl⟩
    obtain ⟨b, hb⟩ := henc
    exact ⟨b, hb, gnbId_roundTrip hb⟩

/-- A `global_gnb_id_t` fits its octets and bits. -/
def GlobalGnbId.Survives (id : GlobalGnbId) : Prop := PlmnFits id.plmnId ∧ GnbIdFits id.gnbId

instance (id : GlobalGnbId) : Decidable id.Survives := inferInstanceAs (Decidable (_ ∧ _))

/-- The global id of a gNB comes back where the PLMN and the id do. -/
theorem globalGnbId_back (id : GlobalGnbId) :
    Back encGlobalGnbIdAsn decGlobalGnbIdAsn id ↔ id.Survives := by
  obtain ⟨plmn, gnb⟩ := id
  rw [GlobalGnbId.Survives, ← plmn_roundTrip, ← gnbId_back]
  constructor
  · rintro ⟨y, henc, hdec⟩
    simp only [encGlobalGnbIdAsn, bind_eq_next, pure_eq, next_inj] at henc
    obtain ⟨b, hb, rfl⟩ := henc
    simp only [decGlobalGnbIdAsn, bind_eq_next, pure_eq, next_inj, GlobalGnbId.mk.injEq] at hdec
    obtain ⟨id, hid, hplmn, rfl⟩ := hdec
    exact ⟨hplmn, b, hb, hid⟩
  · rintro ⟨hplmn, b, hb, hid⟩
    refine ⟨⟨mccMncToPlmnid plmn, .gnbId b⟩, ?_, ?_⟩
    · simp [encGlobalGnbIdAsn, hb]
    · simp [decGlobalGnbIdAsn, hid, hplmn]

/-- The bits of an eNB id. -/
def EnbIdE2sm.Fits : EnbIdE2sm → Prop
  | macroEnbId v => v.toNat < 2 ^ 20
  | homeEnbId v => v.toNat < 2 ^ 28
  | shortMacroEnbId v => v.toNat < 2 ^ 18
  | longMacroEnbId v => v.toNat < 2 ^ 21

/-- The id of an eNB comes back in the width of its kind. -/
theorem enbId_back (id : EnbIdE2sm) : Back encEnbId decEnbId id ↔ id.Fits := by
  cases id with
  | macroEnbId v =>
    rw [EnbIdE2sm.Fits, ← cpId_back 20 2 4 rfl (by decide)]
    simp [Back, encEnbId, decEnbId, cpMacroEnbIdToBitString, cpMacroEnbIdToU32]
  | homeEnbId v =>
    rw [EnbIdE2sm.Fits, ← cpId_back 28 3 4 rfl (by decide)]
    simp [Back, encEnbId, decEnbId, cpHomeEnbIdToBitString, cpHomeEnbIdToU32]
  | shortMacroEnbId v =>
    rw [EnbIdE2sm.Fits, ← cpId_back 18 2 6 rfl (by decide)]
    simp [Back, encEnbId, decEnbId, cpShortMacroEnbIdToBitString, cpShortMacroEnbIdToU32]
  | longMacroEnbId v =>
    rw [EnbIdE2sm.Fits, ← cpId_back 21 2 3 rfl (by decide)]
    simp [Back, encEnbId, decEnbId, cpLongMacroEnbIdToBitString, cpLongMacroEnbIdToU32]

/-- A `global_enb_id_t` fits its octets and bits. -/
def GlobalEnbId.Survives (id : GlobalEnbId) : Prop := PlmnFits id.plmnId ∧ id.enbId.Fits

/-- The global id of an eNB comes back where the PLMN and the id do. -/
theorem globalEnbId_back (id : GlobalEnbId) :
    Back encGlobalEnbIdAsn decGlobalEnbIdAsn id ↔ id.Survives := by
  obtain ⟨plmn, enb⟩ := id
  rw [GlobalEnbId.Survives, ← plmn_roundTrip, ← enbId_back]
  constructor
  · rintro ⟨y, henc, hdec⟩
    simp only [encGlobalEnbIdAsn, bind_eq_next, pure_eq, next_inj] at henc
    obtain ⟨b, hb, rfl⟩ := henc
    simp only [decGlobalEnbIdAsn, bind_eq_next, pure_eq, next_inj, GlobalEnbId.mk.injEq] at hdec
    obtain ⟨id, hid, hplmn, rfl⟩ := hdec
    exact ⟨hplmn, b, hb, hid⟩
  · rintro ⟨hplmn, b, hb, hid⟩
    refine ⟨⟨mccMncToPlmnid plmn, b⟩, ?_, ?_⟩
    · simp [encGlobalEnbIdAsn, hb]
    · simp [decGlobalEnbIdAsn, hid, hplmn]

/-- The bits of an ng-eNB id. -/
def NgEnbId.Fits : NgEnbId → Prop
  | macroNgEnbId v => v.toNat < 2 ^ 20
  | shortMacroNgEnbId v => v.toNat < 2 ^ 18
  | longMacroNgEnbId v => v.toNat < 2 ^ 21

/-- The id of an ng-eNB comes back in the width of its kind. -/
theorem ngEnbId_back (id : NgEnbId) : Back encNgEnbId decNgEnbId id ↔ id.Fits := by
  cases id with
  | macroNgEnbId v =>
    rw [NgEnbId.Fits, ← cpId_back 20 2 4 rfl (by decide)]
    simp [Back, encNgEnbId, decNgEnbId, cpMacroNgEnbIdToBitString, cpMacroNgEnbIdToU32]
  | shortMacroNgEnbId v =>
    rw [NgEnbId.Fits, ← cpId_back 18 2 6 rfl (by decide)]
    simp [Back, encNgEnbId, decNgEnbId, cpShortMacroNgEnbIdToBitString, cpShortMacroNgEnbIdToU32]
  | longMacroNgEnbId v =>
    rw [NgEnbId.Fits, ← cpId_back 21 2 3 rfl (by decide)]
    simp [Back, encNgEnbId, decNgEnbId, cpLongMacroNgEnbIdToBitString, cpLongMacroNgEnbIdToU32]

/-- A `global_ng_enb_id_t` fits its octets and bits. -/
def GlobalNgEnbId.Survives (id : GlobalNgEnbId) : Prop := PlmnFits id.plmnId ∧ id.ngEnbId.Fits

/-- The global id of an ng-eNB comes back where the PLMN and the id do. -/
theorem globalNgEnbId_back (id : GlobalNgEnbId) :
    Back encGlobalNgEnbAsn decGlobalNgEnbAsn id ↔ id.Survives := by
  obtain ⟨plmn, enb⟩ := id
  rw [GlobalNgEnbId.Survives, ← plmn_roundTrip, ← ngEnbId_back]
  constructor
  · rintro ⟨y, henc, hdec⟩
    simp only [encGlobalNgEnbAsn, bind_eq_next, pure_eq, next_inj] at henc
    obtain ⟨b, hb, rfl⟩ := henc
    simp only [decGlobalNgEnbAsn, bind_eq_next, pure_eq, next_inj, GlobalNgEnbId.mk.injEq] at hdec
    obtain ⟨id, hid, hplmn, rfl⟩ := hdec
    exact ⟨hplmn, b, hb, hid⟩
  · rintro ⟨hplmn, b, hb, hid⟩
    refine ⟨⟨mccMncToPlmnid plmn, b⟩, ?_, ?_⟩
    · simp [encGlobalNgEnbAsn, hb]
    · simp [decGlobalNgEnbAsn, hid, hplmn]

/-- A `global_ng_ran_node_id_t` fits its octets and bits. -/
def GlobalNgRanNodeId.Survives : GlobalNgRanNodeId → Prop
  | gnb id => id.Survives
  | ngEnb id => id.Survives

/-- A node of the NG RAN is one of the two. -/
theorem globalNgRanNodeId_back (id : GlobalNgRanNodeId) :
    Back encGlobalNgRanAsn decGlobalNgRanAsn id ↔ id.Survives := by
  cases id with
  | gnb id =>
    rw [GlobalNgRanNodeId.Survives, ← globalGnbId_back]
    simp [Back, encGlobalNgRanAsn, decGlobalNgRanAsn]
  | ngEnb id =>
    rw [GlobalNgRanNodeId.Survives, ← globalNgEnbId_back]
    simp [Back, encGlobalNgRanAsn, decGlobalNgRanAsn]

/-! ## GUAMI and GUMMEI -/

/-- A `guami_t` is encoded and fits its octets and bits. -/
def Guami.Survives (g : Guami) : Prop := PlmnFits g.plmnId ∧ g.amfRegionId < 64

/-- A GUAMI comes back with a region below 64. -/
theorem guami_back (g : Guami) : Back encGuami decGuami g ↔ g.Survives := by
  obtain ⟨plmn, region, set, ptr⟩ := g
  obtain ⟨bs, hbs, ws, hws, hset⟩ := amfSetId_back set
  obtain ⟨bp, hbp, wp, hwp, hptr⟩ := amfPtr_back ptr
  rw [Guami.Survives, ← plmn_roundTrip, ← amfRegionId_back]
  constructor
  · rintro ⟨y, henc, hdec⟩
    simp only [encGuami, hbs, hbp, bind_eq_next, next_bind, pure_eq, next_inj] at henc
    obtain ⟨b, hb, rfl⟩ := henc
    simp only [decGuami, hws, hwp, bind_eq_next, next_bind, pure_eq, next_inj,
      Guami.mk.injEq] at hdec
    obtain ⟨id, hid, hplmn, rfl, -⟩ := hdec
    exact ⟨hplmn, b, hb, hid⟩
  · rintro ⟨hplmn, b, hb, hid⟩
    refine ⟨⟨mccMncToPlmnid plmn, b, bs, bp⟩, ?_, ?_⟩
    · simp [encGuami, hb, hbs, hbp]
    · simp [decGuami, hid, hws, hwp, hplmn, hset, hptr]

/-- A GUMMEI comes back where its PLMN does. -/
theorem gummei_back (g : Gummei) : Back encGummei decGummei g ↔ PlmnFits g.plmnId := by
  obtain ⟨plmn, group, code⟩ := g
  have hlt : group.toNat < 65536 := group.toNat_lt
  have hgroup :
      (((group.toNat >>> 8) % 256) <<< 8 ||| group.toNat % 256).toUInt16 = group := by
    have hlow : group.toNat % 256 < 2 ^ 8 := Nat.mod_lt _ (by decide)
    rw [Bits.or_shiftLeft hlow, Nat.shiftRight_eq_div_pow, toUInt16_eq_iff (by omega)]
    omega
  have henc : encGummei ⟨plmn, group, code⟩ = next ⟨mccMncToPlmnid plmn,
    [(group.toNat >>> 8).toUInt8, group.toNat.toUInt8], [code]⟩ := rfl
  have hcode : code.toNat.toUInt8 = code := by rw [toUInt8_eq_iff code.toNat_lt]
  rw [← plmn_roundTrip, back_next henc]
  simp only [decGummei, List.length_cons, List.length_nil, Nat.zero_add, Nat.reduceAdd, true_or,
    decide_true, Outcome.assert, reduceIte, next_bind, pure_eq, next_inj, octet_cons_zero,
    octet_cons_succ, toNat_toUInt8, Gummei.mk.injEq, hgroup, hcode, and_true]

/-! ## The seven kinds -/

/-- The identity is decoded back, and its AMF UE NGAP id, if it has one, is in
its INTEGER as the octets that stand for it. -/
def UeId.RoundTrips (ue : UeId) : Prop :=
  ∃ y, encUeIdAsn ue = next y ∧ decUeIdAsn y = next ue ∧
    y.amfUeNgapId?.map Octets.signed = ue.amfUeNgapId?.map fun v => (v.toNat : Int)

/-- The parts of a gNB's identity that do not always come back. -/
def Gnb.Survives (ue : Gnb) : Prop :=
  ue.amfUeNgapId.toNat < 2 ^ 39 ∧ ue.guami.Survives ∧
    (∀ ids ∈ ue.gnbCuUeF1apLst, 1 ≤ ids.length ∧ ids.length ≤ maxF1apId) ∧
    (∀ ids ∈ ue.gnbCuCpUeE1apLst, 1 ≤ ids.length ∧ ids.length ≤ maxE1apId) ∧
    (∀ id ∈ ue.globalGnbId, id.Survives) ∧ ∀ id ∈ ue.globalNgRanNodeId, id.Survives

/-- Those of an ng-eNB's. -/
def NgEnb.Survives (ue : NgEnb) : Prop :=
  (ue.amfUeNgapId.toNat < 2 ^ 39 ∧
    (Octets.split 5 ue.amfUeNgapId.toNat).reverse = Octets.split 5 ue.amfUeNgapId.toNat) ∧
    ue.guami.Survives ∧ (∀ id ∈ ue.globalNgEnbId, id.Survives) ∧
    ∀ id ∈ ue.globalNgRanNodeId, id.Survives

/-- Those of an en-gNB's. -/
def EnGnb.Survives (ue : EnGnb) : Prop :=
  ue.enbUeX2apId.toNat ≤ maxValEnbUeX2apId ∧
    (∀ id ∈ ue.enbUeX2apIdExtension, id.toNat ≤ maxValEnbUeX2apId) ∧
    ue.globalEnbId.Survives ∧
    ∀ ids ∈ ue.gnbCuCpUeE1apLst, 1 ≤ ids.length ∧ ids.length ≤ maxE1apId

/-- Those of an eNB's. -/
def Enb.Survives (ue : Enb) : Prop :=
  PlmnFits ue.gummei.plmnId ∧ (∀ id ∈ ue.enbUeX2apId, id.toNat ≤ maxValEnbUeX2apId) ∧
    (∀ id ∈ ue.enbUeX2apIdExtension, id.toNat ≤ maxValEnbUeX2apId) ∧
    ∀ id ∈ ue.globalEnbId, id.Survives

def UeId.Survives : UeId → Prop
  | gnb ue => ue.Survives
  | ngEnb ue => ue.Survives
  | enGnb ue => ue.Survives
  | enb ue => ue.Survives
  | gnbDu _ | gnbCuUp _ | ngEnbDu _ => True

/-- The parts of a gNB's identity come back, and the octets of its AMF UE NGAP id
have `P`. -/
theorem gnb_parts (P : Bytes → Prop) (ue : Gnb) :
    (∃ y, encGnbUeAsn ue = next y ∧ decGnbUeAsn y = next ue ∧ P y.amfUeNgapId) ↔
      (∃ buf, encGnbAmfUeNgapId ue.amfUeNgapId = next buf ∧
        decGnbAmfUeNgapId buf = next ue.amfUeNgapId ∧ P buf) ∧ ue.guami.Survives ∧
      (∀ ids ∈ ue.gnbCuUeF1apLst, 1 ≤ ids.length ∧ ids.length ≤ maxF1apId) ∧
      (∀ ids ∈ ue.gnbCuCpUeE1apLst, 1 ≤ ids.length ∧ ids.length ≤ maxE1apId) ∧
      (∀ id ∈ ue.globalGnbId, id.Survives) ∧ ∀ id ∈ ue.globalNgRanNodeId, id.Survives := by
  obtain ⟨amf, guami, f1ap, e1ap, ranUeId, xnap, globalGnb, globalNgRan⟩ := ue
  have hranUe : Back (opt encRanUeId) (opt decRanUeId) ranUeId :=
    back_opt.mpr fun v _ => ranUeId_back v
  have hxnap : Back (opt encId32) (opt decId32) xnap := back_opt.mpr fun v _ => id32_back v
  simp only [← guami_back, ← idLst_back, ← globalGnbId_back, ← globalNgRanNodeId_back, ← back_opt]
  constructor
  · rintro ⟨y, henc, hdec, hP⟩
    simp only [encGnbUeAsn, bind_eq_next, pure_eq, next_inj] at henc
    obtain ⟨y₁, h₁, y₂, h₂, y₃, h₃, y₄, h₄, y₅, -, y₆, -, y₇, h₇, y₈, h₈, rfl⟩ := henc
    simp only [decGnbUeAsn, bind_eq_next, pure_eq, next_inj] at hdec
    obtain ⟨x₁, k₁, x₂, k₂, x₃, k₃, x₄, k₄, x₅, -, x₆, -, x₇, k₇, x₈, k₈, heq⟩ := hdec
    cases heq
    exact ⟨⟨y₁, h₁, k₁, hP⟩, ⟨y₂, h₂, k₂⟩, ⟨y₃, h₃, k₃⟩, ⟨y₄, h₄, k₄⟩, ⟨y₇, h₇, k₇⟩, y₈, h₈, k₈⟩
  · rintro ⟨⟨y₁, h₁, k₁, hP⟩, ⟨y₂, h₂, k₂⟩, ⟨y₃, h₃, k₃⟩, ⟨y₄, h₄, k₄⟩, ⟨y₇, h₇, k₇⟩,
      y₈, h₈, k₈⟩
    obtain ⟨y₅, h₅, k₅⟩ := hranUe
    obtain ⟨y₆, h₆, k₆⟩ := hxnap
    refine ⟨⟨y₁, y₂, y₃, y₄, y₅, y₆, y₇, y₈⟩, ?_, ?_, hP⟩
    · simp only [encGnbUeAsn, h₁, h₂, h₃, h₄, h₅, h₆, h₇, h₈, next_bind, pure_eq]
    · simp only [decGnbUeAsn, k₁, k₂, k₃, k₄, k₅, k₆, k₇, k₈, next_bind, pure_eq]

/-- **A UE of a gNB**: its AMF id is below `2 ^ 39`. -/
theorem gnb_roundTrip (ue : Gnb) :
    (∃ y, encGnbUeAsn ue = next y ∧ decGnbUeAsn y = next ue ∧
      Octets.signed y.amfUeNgapId = ue.amfUeNgapId.toNat) ↔ ue.Survives := by
  rw [gnb_parts (fun buf => Octets.signed buf = ue.amfUeNgapId.toNat), Gnb.Survives,
    ← gnbAmfUeNgapId_placed]
  rfl

/-- A gNB's identity comes back where it is in place. -/
theorem gnb_back (ue : Gnb) : Back encGnbUeAsn decGnbUeAsn ue ↔ ue.Survives := by
  have h := gnb_parts (fun _ => True) ue
  simp only [and_true] at h
  rw [Back, h, Gnb.Survives, ← gnbAmfUeNgapId_back]
  rfl

/-- The parts of an ng-eNB's identity come back, and the octets of its AMF UE NGAP
id have `P`. -/
theorem ngEnb_parts (P : Bytes → Prop) (ue : NgEnb) :
    (∃ y, encNgEnbUeAsn ue = next y ∧ decNgEnbUeAsn y = next ue ∧ P y.amfUeNgapId) ↔
      (∃ buf, encNgEnbAmfUeNgapId ue.amfUeNgapId = next buf ∧
        decNgEnbAmfUeNgapId buf = next ue.amfUeNgapId ∧ P buf) ∧ ue.guami.Survives ∧
      (∀ id ∈ ue.globalNgEnbId, id.Survives) ∧ ∀ id ∈ ue.globalNgRanNodeId, id.Survives := by
  obtain ⟨amf, guami, w1ap, xnap, globalNgEnb, globalNgRan⟩ := ue
  have hw1ap : Back (opt encId32) (opt decId32) w1ap := back_opt.mpr fun v _ => id32_back v
  have hxnap : Back (opt encId32) (opt decId32) xnap := back_opt.mpr fun v _ => id32_back v
  simp only [← guami_back, ← globalNgEnbId_back, ← globalNgRanNodeId_back, ← back_opt]
  constructor
  · rintro ⟨y, henc, hdec, hP⟩
    simp only [encNgEnbUeAsn, bind_eq_next, pure_eq, next_inj] at henc
    obtain ⟨y₁, h₁, y₂, h₂, y₃, -, y₄, -, y₅, h₅, y₆, h₆, rfl⟩ := henc
    simp only [decNgEnbUeAsn, bind_eq_next, pure_eq, next_inj] at hdec
    obtain ⟨x₁, k₁, x₂, k₂, x₃, -, x₄, -, x₅, k₅, x₆, k₆, heq⟩ := hdec
    cases heq
    exact ⟨⟨y₁, h₁, k₁, hP⟩, ⟨y₂, h₂, k₂⟩, ⟨y₅, h₅, k₅⟩, y₆, h₆, k₆⟩
  · rintro ⟨⟨y₁, h₁, k₁, hP⟩, ⟨y₂, h₂, k₂⟩, ⟨y₅, h₅, k₅⟩, y₆, h₆, k₆⟩
    obtain ⟨y₃, h₃, k₃⟩ := hw1ap
    obtain ⟨y₄, h₄, k₄⟩ := hxnap
    refine ⟨⟨y₁, y₂, y₃, y₄, y₅, y₆⟩, ?_, ?_, hP⟩
    · simp only [encNgEnbUeAsn, h₁, h₂, h₃, h₄, h₅, h₆, next_bind, pure_eq]
    · simp only [decNgEnbUeAsn, k₁, k₂, k₃, k₄, k₅, k₆, next_bind, pure_eq]

/-- **A UE of an ng-eNB**: its AMF id reads the same from both ends. -/
theorem ngEnb_roundTrip (ue : NgEnb) :
    (∃ y, encNgEnbUeAsn ue = next y ∧ decNgEnbUeAsn y = next ue ∧
      Octets.signed y.amfUeNgapId = ue.amfUeNgapId.toNat) ↔ ue.Survives := by
  rw [ngEnb_parts (fun buf => Octets.signed buf = ue.amfUeNgapId.toNat), NgEnb.Survives,
    ← ngEnbAmfUeNgapId_placed]
  rfl

/-- What an ng-eNB's identity needs to come back, in place or not. -/
def NgEnb.ComesBack (ue : NgEnb) : Prop :=
  ue.amfUeNgapId.toNat < 2 ^ 40 ∧ ue.guami.Survives ∧ (∀ id ∈ ue.globalNgEnbId, id.Survives) ∧
    ∀ id ∈ ue.globalNgRanNodeId, id.Survives

/-- Without a look at the bits in between, the AMF id of an ng-eNB comes back below `2 ^ 40`. -/
theorem ngEnb_back (ue : NgEnb) : Back encNgEnbUeAsn decNgEnbUeAsn ue ↔ ue.ComesBack := by
  have h := ngEnb_parts (fun _ => True) ue
  simp only [and_true] at h
  rw [Back, h, NgEnb.ComesBack, ← ngEnbAmfUeNgapId_back]
  rfl

/-- **A UE of an en-gNB** comes back with its X2AP id and its eNB. -/
theorem enGnb_back (ue : EnGnb) : Back encEnGnbUeAsn decEnGnbUeAsn ue ↔ ue.Survives := by
  obtain ⟨x2ap, extension, globalEnb, f1ap, e1ap, ranUeId⟩ := ue
  have hf1ap : Back (opt encId32) (opt decId32) f1ap := back_opt.mpr fun v _ => id32_back v
  have hranUe : Back (opt encRanUeId) (opt decRanUeId) ranUeId :=
    back_opt.mpr fun v _ => ranUeId_back v
  simp only [EnGnb.Survives, ← x2apId_back, ← globalEnbId_back, ← idLst_back, ← back_opt]
  constructor
  · rintro ⟨y, henc, hdec⟩
    simp only [encEnGnbUeAsn, bind_eq_next, pure_eq, next_inj] at henc
    obtain ⟨y₁, h₁, y₂, h₂, y₃, h₃, y₄, -, y₅, h₅, y₆, -, rfl⟩ := henc
    simp only [decEnGnbUeAsn, bind_eq_next, pure_eq, next_inj] at hdec
    obtain ⟨x₁, k₁, x₂, k₂, x₃, k₃, x₄, -, x₅, k₅, x₆, -, heq⟩ := hdec
    cases heq
    exact ⟨⟨y₁, h₁, k₁⟩, ⟨y₂, h₂, k₂⟩, ⟨y₃, h₃, k₃⟩, y₅, h₅, k₅⟩
  · rintro ⟨⟨y₁, h₁, k₁⟩, ⟨y₂, h₂, k₂⟩, ⟨y₃, h₃, k₃⟩, y₅, h₅, k₅⟩
    obtain ⟨y₄, h₄, k₄⟩ := hf1ap
    obtain ⟨y₆, h₆, k₆⟩ := hranUe
    refine ⟨⟨y₁, y₂, y₃, y₄, y₅, y₆⟩, ?_, ?_⟩
    · simp only [encEnGnbUeAsn, h₁, h₂, h₃, h₄, h₅, h₆, next_bind, pure_eq]
    · simp only [decEnGnbUeAsn, k₁, k₂, k₃, k₄, k₅, k₆, next_bind, pure_eq]

/-- **A UE of an eNB** comes back with its GUMMEI. -/
theorem enb_back (ue : Enb) : Back encEnbUeAsn decEnbUeAsn ue ↔ ue.Survives := by
  obtain ⟨s1ap, gummei, x2ap, extension, globalEnb⟩ := ue
  simp only [Enb.Survives, ← gummei_back, ← x2apId_back, ← globalEnbId_back, ← back_opt]
  constructor
  · rintro ⟨y, henc, hdec⟩
    simp only [encEnbUeAsn, bind_eq_next, pure_eq, next_inj] at henc
    obtain ⟨y₁, -, y₂, h₂, y₃, h₃, y₄, h₄, y₅, h₅, rfl⟩ := henc
    simp only [decEnbUeAsn, bind_eq_next, pure_eq, next_inj] at hdec
    obtain ⟨x₁, -, x₂, k₂, x₃, k₃, x₄, k₄, x₅, k₅, heq⟩ := hdec
    cases heq
    exact ⟨⟨y₂, h₂, k₂⟩, ⟨y₃, h₃, k₃⟩, ⟨y₄, h₄, k₄⟩, y₅, h₅, k₅⟩
  · rintro ⟨⟨y₂, h₂, k₂⟩, ⟨y₃, h₃, k₃⟩, ⟨y₄, h₄, k₄⟩, y₅, h₅, k₅⟩
    obtain ⟨y₁, h₁, k₁⟩ := id32_back s1ap
    refine ⟨⟨y₁, y₂, y₃, y₄, y₅⟩, ?_, ?_⟩
    · simp only [encEnbUeAsn, h₁, h₂, h₃, h₄, h₅, next_bind, pure_eq]
    · simp only [decEnbUeAsn, k₁, k₂, k₃, k₄, k₅, next_bind, pure_eq]

/-- The UE of a gNB-DU always comes back. -/
theorem gnbDu_back (ue : GnbDu) : Back encGnbDuUeAsn decGnbDuUeAsn ue := by
  obtain ⟨f1ap, ranUeId⟩ := ue
  obtain ⟨y₁, h₁, k₁⟩ := id32_back f1ap
  obtain ⟨y₂, h₂, k₂⟩ := back_opt.mpr fun v (_ : v ∈ ranUeId) => ranUeId_back v
  refine ⟨⟨y₁, y₂⟩, ?_, ?_⟩
  · simp only [encGnbDuUeAsn, h₁, h₂, next_bind, pure_eq]
  · simp only [decGnbDuUeAsn, k₁, k₂, next_bind, pure_eq]

/-- The UE of a gNB-CU-UP always comes back. -/
theorem gnbCuUp_back (ue : GnbCuUp) : Back encGnbCuUpUeAsn decGnbCuUpUeAsn ue := by
  obtain ⟨e1ap, ranUeId⟩ := ue
  obtain ⟨y₁, h₁, k₁⟩ := id32_back e1ap
  obtain ⟨y₂, h₂, k₂⟩ := back_opt.mpr fun v (_ : v ∈ ranUeId) => ranUeId_back v
  refine ⟨⟨y₁, y₂⟩, ?_, ?_⟩
  · simp only [encGnbCuUpUeAsn, h₁, h₂, next_bind, pure_eq]
  · simp only [decGnbCuUpUeAsn, k₁, k₂, next_bind, pure_eq]

/-- The UE of an ng-eNB-DU always comes back. -/
theorem ngEnbDu_back (ue : NgEnbDu) : Back encNgEnbDuUeAsn decNgEnbDuUeAsn ue := by
  obtain ⟨w1ap⟩ := ue
  obtain ⟨y₁, h₁, k₁⟩ := id32_back w1ap
  refine ⟨⟨y₁⟩, ?_, ?_⟩
  · simp only [encNgEnbDuUeAsn, h₁, next_bind, pure_eq]
  · simp only [decNgEnbDuUeAsn, k₁, next_bind, pure_eq]

/-- **A UE identity comes back exactly when its parts do.** -/
theorem ueId_roundTrip (ue : UeId) : ue.RoundTrips ↔ ue.Survives := by
  cases ue with
  | gnb ue =>
    rw [UeId.Survives, ← gnb_roundTrip]
    simp [UeId.RoundTrips, encUeIdAsn, decUeIdAsn, UeId.amfUeNgapId?, UeIdAsn.amfUeNgapId?]
  | ngEnb ue =>
    rw [UeId.Survives, ← ngEnb_roundTrip]
    simp [UeId.RoundTrips, encUeIdAsn, decUeIdAsn, UeId.amfUeNgapId?, UeIdAsn.amfUeNgapId?]
  | enGnb ue =>
    rw [UeId.Survives, ← enGnb_back]
    simp [UeId.RoundTrips, encUeIdAsn, decUeIdAsn, UeId.amfUeNgapId?, UeIdAsn.amfUeNgapId?, Back]
  | enb ue =>
    rw [UeId.Survives, ← enb_back]
    simp [UeId.RoundTrips, encUeIdAsn, decUeIdAsn, UeId.amfUeNgapId?, UeIdAsn.amfUeNgapId?, Back]
  | gnbDu ue =>
    have h := gnbDu_back ue
    simpa [UeId.RoundTrips, encUeIdAsn, decUeIdAsn, UeId.amfUeNgapId?, UeIdAsn.amfUeNgapId?,
      UeId.Survives, Back] using h
  | gnbCuUp ue =>
    have h := gnbCuUp_back ue
    simpa [UeId.RoundTrips, encUeIdAsn, decUeIdAsn, UeId.amfUeNgapId?, UeIdAsn.amfUeNgapId?,
      UeId.Survives, Back] using h
  | ngEnbDu ue =>
    have h := ngEnbDu_back ue
    simpa [UeId.RoundTrips, encUeIdAsn, decUeIdAsn, UeId.amfUeNgapId?, UeIdAsn.amfUeNgapId?,
      UeId.Survives, Back] using h

/-- What an identity needs to come back, its AMF UE NGAP id in place or not. -/
def UeId.ComesBack : UeId → Prop
  | gnb ue => ue.Survives
  | ngEnb ue => ue.ComesBack
  | enGnb ue => ue.Survives
  | enb ue => ue.Survives
  | gnbDu _ | gnbCuUp _ | ngEnbDu _ => True

/-- **A UE identity comes back** where its kind says so. -/
theorem ueId_back (ue : UeId) : Back encUeIdAsn decUeIdAsn ue ↔ ue.ComesBack := by
  cases ue with
  | gnb ue =>
    rw [UeId.ComesBack, ← gnb_back]
    simp [Back, encUeIdAsn, decUeIdAsn]
  | ngEnb ue =>
    rw [UeId.ComesBack, ← ngEnb_back]
    simp [Back, encUeIdAsn, decUeIdAsn]
  | enGnb ue =>
    rw [UeId.ComesBack, ← enGnb_back]
    simp [Back, encUeIdAsn, decUeIdAsn]
  | enb ue =>
    rw [UeId.ComesBack, ← enb_back]
    simp [Back, encUeIdAsn, decUeIdAsn]
  | gnbDu ue =>
    have h := gnbDu_back ue
    simpa [UeId.ComesBack, Back, encUeIdAsn, decUeIdAsn] using h
  | gnbCuUp ue =>
    have h := gnbCuUp_back ue
    simpa [UeId.ComesBack, Back, encUeIdAsn, decUeIdAsn] using h
  | ngEnbDu ue =>
    have h := ngEnbDu_back ue
    simpa [UeId.ComesBack, Back, encUeIdAsn, decUeIdAsn] using h

/-- A GUAMI in range, of an AMF region. -/
def guamiOf (region : UInt8) : Guami := ⟨⟨208, 92, 2⟩, region, 588, 5⟩

/-- A gNB with an AMF UE NGAP id of forty bits, an ng-eNB with the id 1, and an
AMF region id of eight bits: the first is not decoded, the second is not in
place and the third not encoded. -/
theorem ueId_in_range_lost :
    ¬ (UeId.gnb ⟨2 ^ 39, guamiOf 1, none, none, none, none, none, none⟩).RoundTrips ∧
    ¬ (UeId.ngEnb ⟨1, guamiOf 1, none, none, none, none⟩).RoundTrips ∧
    ¬ (UeId.gnb ⟨1, guamiOf 64, none, none, none, none, none, none⟩).RoundTrips := by
  have hrun {ue : UeId} (h : ue.RoundTrips) : encUeIdAsn ue >>= decUeIdAsn = next ue ∧
      (encUeIdAsn ue >>= fun y => next (y.amfUeNgapId?.map Octets.signed)) =
        next (ue.amfUeNgapId?.map fun v => (v.toNat : Int)) := by
    obtain ⟨y, henc, hdec, hplaced⟩ := h
    rw [henc, next_bind, next_bind, hplaced]
    exact ⟨hdec, rfl⟩
  refine ⟨fun h => ?_, fun h => ?_, fun h => ?_⟩
  · exact absurd (hrun h).1 (by decide)
  · exact absurd (hrun h).2 (by decide)
  · exact absurd (hrun h).1 (by decide)

end Ue

end FlexRic
