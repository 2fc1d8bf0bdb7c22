import FlexRic.Codec.Conversions
import FlexRic.Lib.Walk

/-!
# FlexRic.Codec.Pdu

The frame of an E2AP PDU and the runtime that puts it into octets.

* `Ie V`: an information element.  Its `value` is an open type with the
  alternatives `V`; `none` is `PR_NOTHING`.
* `Procedure V`, `E2apPdu`: a message of information elements, and the kinds
  of PDU.
* `Asn1c`: the runtime of `asn1c`.  It is a parameter: `Asn1c.Sound` says what
  is relied on.

The runtime encodes an open type by the alternative that is present, and
decodes it by the id in front of it.  Under an id that the table of the element
does not have, the octets are skipped and nothing is present: `Ie.opened`.
-/

namespace FlexRic

/-- `Criticality_t`. -/
inductive Criticality where
  | reject
  | ignore
  | notify
  deriving DecidableEq, Repr

/-- `ProtocolIE_ID_t`. -/
abbrev ProtocolIeId := Nat

namespace ProtocolIeId

abbrev globalE2NodeId : ProtocolIeId := 3
abbrev globalRicId : ProtocolIeId := 4
abbrev ranFunctionIdItem : ProtocolIeId := 6
abbrev ranFunctionIeCauseItem : ProtocolIeId := 7
abbrev ranFunctionItem : ProtocolIeId := 8
abbrev ranFunctionsAccepted : ProtocolIeId := 9
abbrev ranFunctionsAdded : ProtocolIeId := 10
abbrev ranFunctionsRejected : ProtocolIeId := 13
abbrev transactionId : ProtocolIeId := 49
abbrev e2NodeComponentConfigAddition : ProtocolIeId := 50
abbrev e2NodeComponentConfigAdditionItem : ProtocolIeId := 51
abbrev e2NodeComponentConfigAdditionAck : ProtocolIeId := 52
abbrev e2NodeComponentConfigAdditionAckItem : ProtocolIeId := 53

end ProtocolIeId

/-- `ProcedureCode_id_E2setup`. -/
abbrev procedureCodeE2Setup : Nat := 1

/-- An entry of a `protocolIEs` list, or of a list inside of one. -/
structure Ie (V : Type) where
  id : ProtocolIeId
  criticality : Criticality
  value : Option V
  deriving DecidableEq

namespace Ie

variable {V : Type}

/-- The constraints on the value; an element must have one. -/
def satisfies (p : V → Bool) (ie : Ie V) : Bool := ie.value.any p

/-- The element as it is decoded, where `row` is the only id its table has. -/
def opened (row : ProtocolIeId) (ie : Ie V) : Ie V :=
  if ie.id = row then ie else { ie with value := none }

theorem opened_of_id {row : ProtocolIeId} {ie : Ie V} (h : ie.id = row) : ie.opened row = ie :=
  if_pos h

/-- A list of elements that all have the id of the table stays as it is. -/
theorem map_opened {row : ProtocolIeId} {ies : List (Ie V)} (h : ∀ ie ∈ ies, ie.id = row) :
    ies.map (opened row) = ies :=
  (List.map_congr_left fun ie hie => opened_of_id (h ie hie)).trans (List.map_id ies)

end Ie

/-- `InitiatingMessage_t` and `SuccessfulOutcome_t`: the elements of the
message that is present. -/
structure Procedure (V : Type) where
  procedureCode : Nat
  criticality : Criticality
  value : Option (List (Ie V))
  deriving DecidableEq

/-- `E2AP_PDU_t`, of the messages with the elements `I` and `S`; unsuccessful
outcomes are failures, which have decoders of their own. -/
inductive E2apPdu (I S : Type) where
  | initiatingMessage (m : Procedure I)
  | successfulOutcome (m : Procedure S)
  deriving DecidableEq

/-! ## The runtime -/

/-- The runtime of `asn1c`, for PDUs of a type and their encodings. -/
structure Asn1c (Pdu Buf : Type) where
  /-- `asn_encode_to_buffer`; `none` is `er.encoded == -1` -/
  encode : Pdu → Option Buf
  length : Buf → Nat
  /-- `asn_decode`; `some` is `RC_OK` -/
  decode : Buf → Option Pdu

namespace Asn1c

variable {Pdu Buf : Type} (rt : Asn1c Pdu Buf)

/-- What is relied on: an encoding is not empty, and a PDU that satisfies its
constraints is decoded back, its open types by their ids. -/
structure Sound (satisfies : Pdu → Bool) (opened : Pdu → Pdu) : Prop where
  length_pos : ∀ pdu b, rt.encode pdu = some b → 0 < rt.length b
  decodesBack : ∀ pdu b, satisfies pdu = true → rt.encode pdu = some b →
    rt.decode b = some (opened pdu)

/-- `e2ap_enc_asn_pdu_ba`, into 32 KiB. -/
def e2apEncAsnPduBa (pdu : Pdu) : Outcome Buf := do
  let b ← Outcome.expect (rt.encode pdu) "success"
  Outcome.assert (rt.length b < 32 * 1024) "er.encoded < (ssize_t) b->len"
  return b

/-- `e2ap_create_pdu`. -/
def e2apCreatePdu (b : Buf) : Outcome Pdu :=
  Outcome.expect (rt.decode b) "Are you sending data in ATS_ALIGEND_BASIC_PER syntax?"

/-- `e2ap_msg_dec_asn`, with what `e2ap_get_msg_type` finds the decoder by. -/
def e2apMsgDecAsn {M : Type} (decMsg : Pdu → Outcome M) (b : Buf) : Outcome M := do
  Outcome.assert (0 < rt.length b) "ba.buf != NULL && ba.len > 0"
  let pdu ← rt.e2apCreatePdu b
  decMsg pdu

variable {rt} {satisfies : Pdu → Bool} {opened : Pdu → Pdu}

/-- **The receiving side decodes the PDU that was sent**, its open types by
their ids. -/
theorem Sound.e2apMsgDecAsn_eq (h : rt.Sound satisfies opened) {pdu : Pdu} {b : Buf}
    (hsat : satisfies pdu = true) (henc : rt.e2apEncAsnPduBa pdu = .next b) {M : Type}
    (decMsg : Pdu → Outcome M) : rt.e2apMsgDecAsn decMsg b = decMsg (opened pdu) := by
  simp only [e2apEncAsnPduBa, Outcome.bind_eq_next, Outcome.expect_eq_next,
    Outcome.assert_eq_next, Outcome.pure_eq, Outcome.next_inj] at henc
  obtain ⟨b', hb, -, -, rfl⟩ := henc
  simp only [e2apMsgDecAsn, e2apCreatePdu, h.decodesBack pdu b' hsat hb, Outcome.expect,
    Outcome.assert, decide_eq_true (h.length_pos pdu b' hb), reduceIte, Outcome.next_bind]

/-! ### From one side to the other -/

/-- The runtime checks the constraints while it encodes: it takes what satisfies
them, and nothing else. -/
structure Exact (rt : Asn1c Pdu Buf) (satisfies : Pdu → Bool) (opened : Pdu → Pdu) : Prop extends
    rt.Sound satisfies opened where
  encodes : ∀ pdu, (∃ b, rt.encode pdu = some b) ↔ satisfies pdu = true

/-- The encoding of a PDU fits the buffer of `e2ap_enc_asn_pdu_ba`. -/
def Fits (rt : Asn1c Pdu Buf) (pdu : Pdu) : Prop :=
  ∀ b, rt.encode pdu = some b → rt.length b < 32 * 1024

/-- A message through the encoder of one side and the decoder of the other. -/
def transfer {M N : Type} (rt : Asn1c Pdu Buf) (encMsg : M → Outcome Pdu)
    (decMsg : Pdu → Outcome N) (msg : M) : Outcome N := do
  let pdu ← encMsg msg
  let b ← rt.e2apEncAsnPduBa pdu
  rt.e2apMsgDecAsn decMsg b

theorem Exact.e2apEncAsnPduBa_iff (h : rt.Exact satisfies opened) {pdu : Pdu} :
    (∃ b, rt.e2apEncAsnPduBa pdu = .next b) ↔ satisfies pdu = true ∧ rt.Fits pdu := by
  rw [← h.encodes]
  simp only [e2apEncAsnPduBa, Outcome.bind_eq_next, Outcome.expect_eq_next,
    Outcome.assert_eq_next, Outcome.pure_eq, Outcome.next_inj, decide_eq_true_eq]
  constructor
  · rintro ⟨b, b', hb, -, hlen, rfl⟩
    refine ⟨⟨b', hb⟩, fun b hb' => ?_⟩
    rw [hb] at hb'
    cases hb'
    exact hlen
  · rintro ⟨⟨b, hb⟩, hfits⟩
    exact ⟨b, b, hb, ⟨⟩, hfits b hb, rfl⟩

/-- **What arrives** is what the decoder makes of the PDU the encoder built, its
open types by their ids, if the PDU satisfies its constraints and its encoding
fits the buffer. -/
theorem Exact.transfer_eq_next (h : rt.Exact satisfies opened) {M N : Type}
    {encMsg : M → Outcome Pdu} {decMsg : Pdu → Outcome N} {msg : M} {msg' : N} :
    rt.transfer encMsg decMsg msg = .next msg' ↔
      ∃ pdu, encMsg msg = .next pdu ∧ satisfies pdu = true ∧ rt.Fits pdu ∧
        decMsg (opened pdu) = .next msg' := by
  simp only [transfer, Outcome.bind_eq_next]
  constructor
  · rintro ⟨pdu, henc, b, hb, hdec⟩
    obtain ⟨hsat, hfits⟩ := h.e2apEncAsnPduBa_iff.mp ⟨b, hb⟩
    rw [h.toSound.e2apMsgDecAsn_eq hsat hb] at hdec
    exact ⟨pdu, henc, hsat, hfits, hdec⟩
  · rintro ⟨pdu, henc, hsat, hfits, hdec⟩
    obtain ⟨b, hb⟩ := h.e2apEncAsnPduBa_iff.mpr ⟨hsat, hfits⟩
    refine ⟨pdu, henc, b, hb, ?_⟩
    rw [h.toSound.e2apMsgDecAsn_eq hsat hb]
    exact hdec

end Asn1c

end FlexRic
