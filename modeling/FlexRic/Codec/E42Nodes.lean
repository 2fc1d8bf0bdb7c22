import FlexRic.Codec.RicItems
import FlexRic.E2ap.NodeIds

/-!
# FlexRic.Codec.E42Nodes

Node ids on the wire.

* `NodeIdEncodes`: the ids the encoder and the constraints take.
* `carries_globalE2NodeId`: an id that is encoded and survives arrives in the
  form it has on the wire (`canon`).
* `eqGlobalE2NodeId_onWire`: what `eq_global_e2_node_id` says of an id that
  arrived.
-/

namespace FlexRic.Codec

open Outcome

/-- The node ids that get onto the wire: of an eNB any, of the others those
with a gNB id of 22 to 32 bits and, where they have one, a `cu_du_id` of 36. -/
def NodeIdEncodes (id : GlobalE2NodeId) : Prop :=
  id.type ≠ .eNB →
    (id.nbId.unused.toNat < 11 ∧ id.nbId.nbId.toNat < 2 ^ (32 - id.nbId.unused.toNat)) ∧
      (id.type = .gNBCUUP ∨ id.type = .gNBDU → ∀ v ∈ id.cuDuId, v.toNat < 2 ^ 36)

theorem cpGnbIdToBitString_iff {g : E2apGnbId} :
    (∃ b, cpGnbIdToBitString g = next b) ↔
      g.unused.toNat < 11 ∧ g.nbId.toNat < 2 ^ (32 - g.unused.toNat) := by
  have hshift : g.nbId.toNat >>> (32 - g.unused.toNat) = 0 ↔
      g.nbId.toNat < 2 ^ (32 - g.unused.toNat) := by
    rw [Nat.shiftRight_eq_div_pow]
    exact Nat.div_eq_zero_iff_lt (Nat.two_pow_pos _)
  rw [← hshift]
  simp only [cpGnbIdToBitString, bind_eq_next, assert_eq_next, decide_eq_true_eq, pure_eq,
    UInt32.lt_iff_toNat_lt]
  constructor
  · rintro ⟨b, -, hunused, -, hlost, -⟩
    exact ⟨hunused, hlost⟩
  · rintro ⟨hunused, hlost⟩
    split
    · exact ⟨_, ⟨⟩, hunused, ⟨⟩, hlost, rfl⟩
    · exact ⟨_, ⟨⟩, hunused, ⟨⟩, hlost, rfl⟩

theorem bits_of_cpGnbIdToBitString {g : E2apGnbId} {b : BitString}
    (h : cpGnbIdToBitString g = next b) : 22 ≤ b.bits ∧ b.bits ≤ 32 := by
  simp only [cpGnbIdToBitString, bind_eq_next, assert_eq_next, decide_eq_true_eq, pure_eq] at h
  obtain ⟨-, hunused, -, -, h⟩ := h
  have hu : g.unused.toNat < 11 := UInt32.lt_iff_toNat_lt.mp hunused
  split at h
  · next h7 =>
    have h7 : 7 < g.unused.toNat := UInt32.lt_iff_toNat_lt.mp h7
    obtain rfl := next_inj.mp h
    simp only [BitString.bits, BitString.size, List.length_cons, List.length_nil]
    omega
  · obtain rfl := next_inj.mp h
    simp only [BitString.bits, BitString.size, List.length_cons, List.length_nil]
    omega

/-- What the ids that are encoded have in common. -/
theorem encGlobalE2NodeId_iff {id : GlobalE2NodeId} :
    (∃ v, encGlobalE2NodeId id = next v ∧ v.satisfies = true) ↔ NodeIdEncodes id := by
  obtain ⟨type, plmn, nbId, cuDuId, hhas⟩ := id
  by_cases henb : type = .eNB
  · subst henb
    simp [NodeIdEncodes, encGlobalE2NodeId, GlobalE2NodeIdIe.satisfies, mccMncToPlmnid,
      EnbId.satisfies, macroEnbIdToBitString, BitString.bits, BitString.size]
  · rw [NodeIdEncodes, imp_iff_right henb, ← cpGnbIdToBitString_iff]
    simp only [encGlobalE2NodeId, henb, reduceIte, bind_eq_next, pure_eq, next_inj]
    constructor
    · rintro ⟨v, ⟨b, hb, rfl⟩, hsat⟩
      refine ⟨⟨b, hb⟩, ?_⟩
      simp only [GlobalE2NodeIdIe.satisfies, Bool.and_eq_true] at hsat
      rintro (rfl | rfl) v hv
      · obtain rfl := Option.mem_def.mp hv
        simpa [isNodeId, asnUint642Integer] using hsat.1.2
      · obtain rfl := Option.mem_def.mp hv
        simpa [isNodeId, asnUint642Integer] using hsat.2
    · rintro ⟨⟨b, hb⟩, hcudu⟩
      refine ⟨_, ⟨b, hb, rfl⟩, ?_⟩
      have hbits := bits_of_cpGnbIdToBitString hb
      by_cases hup : type = .gNBCUUP <;> by_cases hdu : type = .gNBDU <;> cases cuDuId <;>
        simp_all [GlobalE2NodeIdIe.satisfies, mccMncToPlmnid, isNodeId, asnUint642Integer]

/-- **A node id is carried**, to the form it has on the wire, exactly when it is
encoded and survives. -/
theorem carries_globalE2NodeId {id : GlobalE2NodeId} (htype : isSetupNode id.type = true) :
    Carries encGlobalE2NodeId GlobalE2NodeIdIe.satisfies decGlobalE2NodeId id id.canon ↔
      NodeIdEncodes id ∧ id.Survives := by
  rw [← encGlobalE2NodeId_iff]
  constructor
  · rintro ⟨v, henc, hsat, hdec⟩
    exact ⟨⟨v, henc, hsat⟩, (globalE2NodeId_back htype henc).mp hdec⟩
  · rintro ⟨⟨v, henc, hsat⟩, hsurv⟩
    exact ⟨v, henc, hsat, (globalE2NodeId_back htype henc).mpr hsurv⟩

/-- The ids that are decoded are those that arrive. -/
theorem onWire_of_decGlobalE2NodeId {v : GlobalE2NodeIdIe} {id : GlobalE2NodeId}
    (h : decGlobalE2NodeId v = next id) : OnWire id := by
  cases v with
  | gNB v =>
    simp only [decGlobalE2NodeId, bind_eq_next] at h
    obtain ⟨nbId, -, h⟩ := h
    split at h <;> obtain rfl := next_inj.mp h <;> exact ⟨by simp, rfl⟩
  | eNB v =>
    simp only [decGlobalE2NodeId] at h
    split at h
    · obtain ⟨nbId, -, h⟩ := bind_eq_next.mp h
      obtain rfl := next_inj.mp h
      exact ⟨by simp, rfl⟩
    · cases h
  | enGnb => cases h
  | ngEnb => cases h

/-- Under `eq_global_e2_node_id`, an id on the wire is an id when it is the form
of it on the wire, and the id is of a type that is on the wire. -/
theorem eqGlobalE2NodeId_onWire {id id' : GlobalE2NodeId} (hwire : OnWire id') :
    eqGlobalE2NodeId id id' = true ↔ id' = id.canon ∧ id.type.canon = id.type := by
  obtain ⟨htype, hsome⟩ := hwire
  have hcanon : id'.type.canon = id'.type := by
    rcases htype with h | h | h | h <;> rw [h] <;> rfl
  rw [GlobalE2NodeId.ext_iff]
  simp only [eqGlobalE2NodeId, Bool.and_eq_true, beq_iff_eq, Bool.or_eq_true, Bool.not_eq_true',
    GlobalE2NodeId.canon]
  constructor
  · rintro ⟨⟨⟨ht, hplmn⟩, hnb⟩, hcudu⟩
    refine ⟨⟨by rw [ht, hcanon], hplmn.symm, hnb.symm, ?_⟩, by rw [ht, hcanon]⟩
    cases hneeds : (id.type.isCuup || id.type.isDu) with
    | true =>
      rw [if_pos (Bool.or_eq_true_iff.mp hneeds)]
      exact (hcudu.resolve_left (by rw [hneeds]; decide)).symm
    | false =>
      rw [← ht, hneeds, Option.isSome_eq_false_iff, Option.isNone_iff_eq_none] at hsome
      rw [if_neg (by rw [← Bool.or_eq_true_iff, hneeds]; decide), hsome]
  · rintro ⟨⟨ht, hplmn, hnb, hcudu⟩, hself⟩
    refine ⟨⟨⟨by rw [ht, hself], hplmn.symm⟩, hnb.symm⟩, ?_⟩
    cases hneeds : (id.type.isCuup || id.type.isDu) with
    | true =>
      rw [if_pos (Bool.or_eq_true_iff.mp hneeds)] at hcudu
      exact .inr hcudu.symm
    | false => exact .inl rfl

end FlexRic.Codec
