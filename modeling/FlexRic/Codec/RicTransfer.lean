import FlexRic.Codec.RicDec

/-!
# FlexRic.Codec.RicTransfer

The messages from one side to the other: encoder, runtime, decoder.

The receiving side finds the decoder by what is in the PDU.  It is the decoder
of the kind of message the PDU was built from (`e2apDecRicMsg_of_enc`), so what
arrives is what that decoder makes of it (`transfer_ricMsg`).
-/

namespace FlexRic.Codec

open Outcome

/-- A message is encoded by one side and decoded by the other. -/
def transferRicMsg {Buf : Type} (rt : Asn1c RicPdu Buf) (msg : RicMsg) : Outcome RicMsg :=
  rt.transfer e2apEncRicMsg e2apDecRicMsg msg

/-- The encoding of a message, if it is encoded, fits the buffer. -/
def FitsBuffer {Buf : Type} (rt : Asn1c RicPdu Buf) (msg : RicMsg) : Prop :=
  ∀ pdu, e2apEncRicMsg msg = next pdu → rt.Fits pdu

/-- The decoder of the messages of one kind. -/
def decoderOf : RicMsg → RicPdu → Outcome RicMsg
  | .subscriptionRequest _, pdu => e2apDecSubscriptionRequest pdu >>= (next <| .subscriptionRequest ·)
  | .subscriptionResponse _, pdu =>
    e2apDecSubscriptionResponse pdu >>= (next <| .subscriptionResponse ·)
  | .subscriptionDeleteRequest _, pdu =>
    e2apDecSubscriptionDeleteRequest pdu >>= (next <| .subscriptionDeleteRequest ·)
  | .subscriptionDeleteResponse _, pdu =>
    e2apDecSubscriptionDeleteResponse pdu >>= (next <| .subscriptionDeleteResponse ·)
  | .indication _, pdu => e2apDecIndication pdu >>= (next <| .indication ·)
  | .controlRequest _, pdu => e2apDecControlRequest pdu >>= (next <| .controlRequest ·)
  | .controlAcknowledge _, pdu => e2apDecControlAck pdu >>= (next <| .controlAcknowledge ·)
  | .e42SetupResponse _, pdu => e2apDecE42SetupResponse pdu >>= (next <| .e42SetupResponse ·)
  | .e42SubscriptionRequest _, pdu =>
    e2apDecE42SubscriptionRequest pdu >>= (next <| .e42SubscriptionRequest ·)
  | .e42SubscriptionDeleteRequest _, pdu =>
    e2apDecE42SubscriptionDeleteRequest pdu >>= (next <| .e42SubscriptionDeleteRequest ·)
  | .e42ControlRequest _, pdu => e2apDecE42ControlRequest pdu >>= (next <| .e42ControlRequest ·)

/-- A PDU finds the decoder of the kind of message it was built from. -/
theorem e2apDecRicMsg_of_enc {msg : RicMsg} {pdu : RicPdu} (h : e2apEncRicMsg msg = next pdu) :
    e2apDecRicMsg pdu.opened = decoderOf msg pdu.opened := by
  cases msg <;>
    simp only [e2apEncRicMsg, e2apEncSubscriptionRequestAsnPdu, e2apEncSubscriptionResponseAsnPdu,
      e2apEncSubscriptionDeleteRequestAsnPdu, e2apEncSubscriptionDeleteResponseAsnPdu,
      e2apEncIndicationAsnPdu, e2apEncControlRequestAsnPdu, e2apEncControlAckAsnPdu,
      e2apEncE42SetupResponseAsnPdu, e2apEncE42SubscriptionRequestAsnPdu,
      e2apEncE42SubscriptionDeleteRequestAsnPdu, e2apEncE42ControlRequestAsnPdu, bind_eq_next,
      pure_eq, next_inj] at h
  case subscriptionDeleteRequest | subscriptionDeleteResponse | e42SubscriptionDeleteRequest =>
    subst h
    rfl
  case subscriptionRequest | controlRequest =>
    obtain ⟨_, -, rfl⟩ := h
    rfl
  case subscriptionResponse | controlAcknowledge =>
    obtain ⟨_, -, _, -, rfl⟩ := h
    rfl
  case e42SetupResponse =>
    obtain ⟨_, -, _, -, rfl⟩ := h
    rfl
  case indication =>
    obtain ⟨_, -, _, -, _, -, rfl⟩ := h
    rfl
  case e42SubscriptionRequest | e42ControlRequest =>
    obtain ⟨_, -, _, -, _, -, rfl⟩ := h
    rfl

/-- **What arrives of a message.** -/
theorem transfer_ricMsg {Buf : Type} {rt : Asn1c RicPdu Buf}
    (hrt : rt.Exact RicPdu.satisfies RicPdu.opened) {msg msg' : RicMsg} :
    transferRicMsg rt msg = next msg' ↔
      Carries e2apEncRicMsg RicPdu.satisfies (fun pdu => decoderOf msg pdu.opened) msg msg' ∧
        FitsBuffer rt msg := by
  rw [transferRicMsg, hrt.transfer_eq_next]
  constructor
  · rintro ⟨pdu, henc, hsat, hfits, hdec⟩
    rw [e2apDecRicMsg_of_enc henc] at hdec
    refine ⟨⟨pdu, henc, hsat, hdec⟩, fun pdu' henc' => ?_⟩
    rw [henc, next_inj] at henc'
    exact henc' ▸ hfits
  · rintro ⟨⟨pdu, henc, hsat, hdec⟩, hfits⟩
    refine ⟨pdu, henc, hsat, hfits pdu henc, ?_⟩
    rw [e2apDecRicMsg_of_enc henc]
    exact hdec

/-! ## A runtime for worked messages -/

/-- A runtime whose encodings are the PDUs themselves. -/
def ricRuntime : Asn1c RicPdu RicPdu where
  encode := fun pdu => if pdu.satisfies then some pdu else none
  length := fun _ => 64
  decode := fun pdu => some pdu.opened

theorem ricRuntime_exact : ricRuntime.Exact RicPdu.satisfies RicPdu.opened where
  length_pos := fun _ _ _ => Nat.zero_lt_succ 63
  decodesBack := fun pdu b hsat h => by
    simp only [ricRuntime, hsat, reduceIte, Option.some.injEq] at h
    rw [h]
    rfl
  encodes := fun pdu => by
    cases h : pdu.satisfies <;> simp [ricRuntime, h]

/-- The encodings of this runtime fit the buffer. -/
theorem fitsBuffer_ricRuntime (msg : RicMsg) : FitsBuffer ricRuntime msg :=
  fun _ _ _ _ => show 64 < 32 * 1024 by decide

end FlexRic.Codec
