import FlexRic.Codec.E42Nodes
import FlexRic.Codec.RicTransfer

/-!
# FlexRic.Codec.SubscriptionRoundTrip

The subscription messages, between node and RIC and between xApp and RIC.

* `SubscriptionMsg`: requests, responses and deletes.
* `SubscriptionMsg.Survives`: what such a message needs to come back.
* `subscriptionMsg_roundTrip`: it comes back exactly then.

A response with an action that is not admitted does not: the receiving side
reads the action and never counts it.
-/

namespace FlexRic.Codec

open Outcome

attribute [local simp] RicIe.id IntegerIe.id OctetsIe.id MessageType.ies MessageType.procedure
  RicIe.satisfies IntegerIe.max RicIe.opened ricIdIes RicPdu.check

/-! ## Through iApp -/

/-- `eq_e42_ric_subscritption_request`. -/
def eqE42SubscriptionRequest (m0 m1 : E42RicSubscriptionRequest) : Bool :=
  m0.xappId == m1.xappId && eqGlobalE2NodeId m0.id m1.id && m0.sr == m1.sr

/-- An E42 subscription request is carried part by part. -/
theorem carries_e42SubscriptionRequest_parts {m m' : E42RicSubscriptionRequest} :
    Carries e2apEncE42SubscriptionRequestAsnPdu RicPdu.satisfies
        (fun pdu => e2apDecE42SubscriptionRequest pdu.opened) m m' ↔
      isSetupNode m.id.type = true ∧ m.xappId = m'.xappId ∧
        Carries encGlobalE2NodeId GlobalE2NodeIdIe.satisfies decGlobalE2NodeId m.id m'.id ∧
        RicGenIdFits m.sr.ricId ∧
        Carries encSubscriptionDetails (MessageType.takes .e42RicSubscriptionRequest)
          (fun ie => decSubscriptionDetails m.sr.ricId (ie.mapValue RicIe.opened)) m.sr m'.sr := by
  obtain ⟨xappId, id, sr⟩ := m
  obtain ⟨xappId', id', sr'⟩ := m'
  have := toNat_le_65535 xappId
  have := toNat_le_65535 sr.ricId.ricInstId
  simp [Carries, e2apEncE42SubscriptionRequestAsnPdu, RicPdu.satisfies_iff, RicPdu.opened, e42Ies,
    e2apDecE42SubscriptionRequest, decXappId, decE42NodeId, readIe_ricIe, decRicId_eq_next, RicGenIdFits,
    RicIdLimits.admits, subscriptionRequestLimits, *]
  grind

/-- What an E42 subscription request needs to come back: a node type that is on
the wire, and a node id and a request that come back. -/
def E42RicSubscriptionRequest.Survives (m : E42RicSubscriptionRequest) : Prop :=
  (isSetupNode m.id.type = true ∧ m.id.type.canon = m.id.type) ∧
    (NodeIdEncodes m.id ∧ m.id.Survives) ∧ m.sr.Survives

/-- **An E42 subscription request comes back**, equal under its equality. -/
theorem carries_e42SubscriptionRequest {m : E42RicSubscriptionRequest} :
    (∃ m', Carries e2apEncE42SubscriptionRequestAsnPdu RicPdu.satisfies
        (fun pdu => e2apDecE42SubscriptionRequest pdu.opened) m m' ∧
      eqE42SubscriptionRequest m m' = true) ↔ m.Survives := by
  simp only [carries_e42SubscriptionRequest_parts, eqE42SubscriptionRequest, Bool.and_eq_true,
    beq_iff_eq]
  rw [E42RicSubscriptionRequest.Survives, RicSubscriptionRequest.Survives,
    ← carries_subscriptionDetails .e42RicSubscriptionRequest rfl]
  constructor
  · rintro ⟨m', ⟨htype, -, hid, hfits, hdetails⟩, ⟨-, heq⟩, hsr⟩
    have hid' := hid
    obtain ⟨v, henc, hsat, hdec⟩ := hid
    obtain ⟨hcanon, hself⟩ := (eqGlobalE2NodeId_onWire (onWire_of_decGlobalE2NodeId hdec)).mp heq
    rw [hcanon] at hid'
    rw [← hsr] at hdetails
    exact ⟨⟨htype, hself⟩, (carries_globalE2NodeId htype).mp hid', hfits, hdetails⟩
  · rintro ⟨⟨htype, hself⟩, hid, hfits, hdetails⟩
    have hcarries := (carries_globalE2NodeId htype).mpr hid
    obtain ⟨v, -, -, hdec⟩ := id hcarries
    refine ⟨⟨m.xappId, m.id.canon, m.sr⟩, ⟨htype, rfl, hcarries, hfits, hdetails⟩, ⟨rfl, ?_⟩, rfl⟩
    exact (eqGlobalE2NodeId_onWire (onWire_of_decGlobalE2NodeId hdec)).mpr ⟨rfl, hself⟩

theorem carries_e42SubscriptionDeleteRequest {m : E42RicSubscriptionDeleteRequest} :
    Carries e2apEncE42SubscriptionDeleteRequestAsnPdu RicPdu.satisfies
      (fun pdu => e2apDecE42SubscriptionDeleteRequest pdu.opened) m m ↔
      RicGenIdFits m.sdr.ricId := by
  obtain ⟨xappId, ⟨ricId⟩⟩ := m
  have := toNat_le_65535 xappId
  have := toNat_le_65535 ricId.ricInstId
  simp [Carries, e2apEncE42SubscriptionDeleteRequestAsnPdu, RicPdu.satisfies_iff, RicPdu.opened,
    e2apDecE42SubscriptionDeleteRequest, decXappId, decRicId_eq_next, RicGenIdFits,
    RicIdLimits.admits, subscriptionDeleteLimits, maxRanFuncId, *]
  omega

/-! ## The subscription messages -/

/-- The messages of the subscription procedures. -/
inductive SubscriptionMsg where
  | request (sr : RicSubscriptionRequest)
  | response (sr : RicSubscriptionResponse)
  | deleteRequest (dr : RicSubscriptionDelete)
  | deleteResponse (dr : RicSubscriptionDelete)
  | e42Request (sr : E42RicSubscriptionRequest)
  | e42DeleteRequest (sdr : E42RicSubscriptionDeleteRequest)
  deriving DecidableEq

namespace SubscriptionMsg

/-- As one of all messages. -/
def toMsg : SubscriptionMsg → RicMsg
  | request sr => .subscriptionRequest sr
  | response sr => .subscriptionResponse sr
  | deleteRequest dr => .subscriptionDeleteRequest dr
  | deleteResponse dr => .subscriptionDeleteResponse dr
  | e42Request sr => .e42SubscriptionRequest sr
  | e42DeleteRequest sdr => .e42SubscriptionDeleteRequest sdr

/-- What a message needs to come back. -/
def Survives : SubscriptionMsg → Prop
  | request sr => sr.Survives
  | response sr => sr.Survives
  | deleteRequest dr => RicGenIdFits dr.ricId
  | deleteResponse dr => RicGenIdFits dr.ricId
  | e42Request sr => sr.Survives
  | e42DeleteRequest sdr => RicGenIdFits sdr.sdr.ricId

/-- The message that arrives is equal; node ids are equal under
`eq_global_e2_node_id`. -/
def Equal : SubscriptionMsg → RicMsg → Prop
  | e42Request sr, .e42SubscriptionRequest sr' => eqE42SubscriptionRequest sr sr' = true
  | e42Request _, _ => False
  | msg, msg' => msg' = msg.toMsg

end SubscriptionMsg

/-- **A subscription message is carried** to one that is equal exactly when it
survives. -/
theorem carries_subscriptionMsg (msg : SubscriptionMsg) :
    (∃ msg', Carries e2apEncRicMsg RicPdu.satisfies (fun pdu => decoderOf msg.toMsg pdu.opened)
      msg.toMsg msg' ∧ msg.Equal msg') ↔ msg.Survives := by
  cases msg with
  | request sr =>
    rw [SubscriptionMsg.Survives, ← carries_subscriptionRequest]
    simp [Carries, SubscriptionMsg.Equal, SubscriptionMsg.toMsg, decoderOf, e2apEncRicMsg]
  | response sr =>
    rw [SubscriptionMsg.Survives, ← carries_subscriptionResponse]
    simp [Carries, SubscriptionMsg.Equal, SubscriptionMsg.toMsg, decoderOf, e2apEncRicMsg]
  | deleteRequest dr =>
    rw [SubscriptionMsg.Survives, ← carries_subscriptionDelete]
    simp [Carries, SubscriptionMsg.Equal, SubscriptionMsg.toMsg, decoderOf, e2apEncRicMsg]
  | deleteResponse dr =>
    rw [SubscriptionMsg.Survives, ← carries_subscriptionDeleteResponse]
    simp [Carries, SubscriptionMsg.Equal, SubscriptionMsg.toMsg, decoderOf, e2apEncRicMsg]
  | e42Request sr =>
    rw [SubscriptionMsg.Survives, ← carries_e42SubscriptionRequest]
    constructor
    · rintro ⟨msg', ⟨pdu, henc, hsat, hdec⟩, heq⟩
      obtain ⟨sr', hsr', h⟩ := bind_eq_next.mp hdec
      obtain rfl := next_inj.mp h
      exact ⟨sr', ⟨pdu, henc, hsat, hsr'⟩, heq⟩
    · rintro ⟨sr', ⟨pdu, henc, hsat, hdec⟩, heq⟩
      refine ⟨.e42SubscriptionRequest sr', ⟨pdu, henc, hsat, ?_⟩, heq⟩
      exact bind_eq_next.mpr ⟨sr', hdec, rfl⟩
  | e42DeleteRequest sdr =>
    rw [SubscriptionMsg.Survives, ← carries_e42SubscriptionDeleteRequest]
    simp [Carries, SubscriptionMsg.Equal, SubscriptionMsg.toMsg, decoderOf, e2apEncRicMsg]

/-- **The round trip of the subscription messages**: what arrives is an equal
message exactly when the message survives and its encoding fits the buffer. -/
theorem subscriptionMsg_roundTrip {Buf : Type} (rt : Asn1c RicPdu Buf)
    (hrt : rt.Exact RicPdu.satisfies RicPdu.opened) (msg : SubscriptionMsg) :
    (∃ msg', transferRicMsg rt msg.toMsg = next msg' ∧ msg.Equal msg') ↔
      msg.Survives ∧ FitsBuffer rt msg.toMsg := by
  simp only [transfer_ricMsg hrt, ← carries_subscriptionMsg]
  constructor
  · rintro ⟨msg', ⟨hcarries, hfits⟩, heq⟩
    exact ⟨⟨msg', hcarries, heq⟩, hfits⟩
  · rintro ⟨⟨msg', hcarries, heq⟩, hfits⟩
    exact ⟨msg', ⟨hcarries, hfits⟩, heq⟩

/-! ### Worked messages -/

/-- A request for one report action, with a definition and a time to wait. -/
def reportRequest : RicSubscriptionRequest where
  ricId := ⟨1021, 0, 147⟩
  eventTrigger := [1]
  action := [⟨1, .report, some [2, 3], some ⟨.subsReqContinue, some 5⟩⟩]

theorem reportRequest_survives : reportRequest.Survives :=
  ⟨by decide, by decide, by decide, by
    simp [reportRequest, RicAction.Survives, RicSubsequentAction.Survives]⟩

theorem subscriptionMsg_roundTrip_report :
    ∃ msg', transferRicMsg ricRuntime (.subscriptionRequest reportRequest) = next msg' ∧
      (SubscriptionMsg.request reportRequest).Equal msg' :=
  (subscriptionMsg_roundTrip ricRuntime ricRuntime_exact (.request reportRequest)).mpr
    ⟨reportRequest_survives, fitsBuffer_ricRuntime _⟩

/-- A response that admits one action and rejects another. -/
def mixedSubscriptionResponse : RicSubscriptionResponse where
  ricId := ⟨1021, 0, 147⟩
  admitted := [1]
  notAdmitted := [⟨2, .misc 3⟩]

/-- The rejected action is not reported: the response arrives without it. -/
theorem mixedSubscriptionResponse_arrives :
    transferRicMsg ricRuntime (.subscriptionResponse mixedSubscriptionResponse) =
      next (.subscriptionResponse ⟨⟨1021, 0, 147⟩, [1], []⟩) :=
  rfl

/-- Not every subscription message comes back. -/
theorem subscriptionMsg_not_roundTrip :
    ¬ ∀ (Buf : Type) (rt : Asn1c RicPdu Buf), rt.Exact RicPdu.satisfies RicPdu.opened →
      ∀ msg : SubscriptionMsg, FitsBuffer rt msg.toMsg →
        ∃ msg', transferRicMsg rt msg.toMsg = next msg' ∧ msg.Equal msg' := by
  intro h
  obtain ⟨msg', harrives, heq⟩ := h RicPdu ricRuntime ricRuntime_exact
    (.response mixedSubscriptionResponse) (fitsBuffer_ricRuntime _)
  rw [SubscriptionMsg.toMsg, mixedSubscriptionResponse_arrives, next_inj] at harrives
  subst harrives
  exact absurd heq (by simp [SubscriptionMsg.Equal, SubscriptionMsg.toMsg,
    mixedSubscriptionResponse])

end FlexRic.Codec
