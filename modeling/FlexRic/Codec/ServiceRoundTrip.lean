import FlexRic.Codec.RicItems
import FlexRic.Codec.RicTransfer

/-!
# FlexRic.Codec.ServiceRoundTrip

The messages of the RIC services: indications, control requests and control
acknowledgements.

* `ServiceMsg`: these messages.
* `serviceMsg_roundTrip`: whatever the sending side encodes, the receiving side
  decodes to the same message.

Their decoders take every id the constraints of the encoding let through, so
nothing the encoder takes is lost or refused on the other side.
-/

namespace FlexRic.Codec

open Outcome

/-- The messages of the RIC services. -/
inductive ServiceMsg where
  | indication (ind : RicIndication)
  | controlRequest (ctrl : RicControlRequest)
  | controlAcknowledge (ctrl : RicControlAcknowledge)
  deriving DecidableEq

/-- As one of all messages. -/
def ServiceMsg.toMsg : ServiceMsg → RicMsg
  | indication ind => .indication ind
  | controlRequest ctrl => .controlRequest ctrl
  | controlAcknowledge ctrl => .controlAcknowledge ctrl

/-- `e2ap_msg_enc_asn`: the encoder of the message, then the runtime. -/
def e2apMsgEncAsn {Buf : Type} (rt : Asn1c RicPdu Buf) (msg : RicMsg) : Outcome Buf := do
  let pdu ← e2apEncRicMsg msg
  rt.e2apEncAsnPduBa pdu

/-- The decoder of the kind undoes the encoder of the kind. -/
theorem decoderOf_back {msg : ServiceMsg} {pdu : RicPdu}
    (henc : e2apEncRicMsg msg.toMsg = next pdu) (hsat : pdu.satisfies = true) :
    decoderOf msg.toMsg pdu.opened = next msg.toMsg := by
  cases msg with
  | indication ind =>
    rw [ServiceMsg.toMsg, decoderOf, indication_back henc hsat]
    rfl
  | controlRequest ctrl =>
    rw [ServiceMsg.toMsg, decoderOf, controlRequest_back henc hsat]
    rfl
  | controlAcknowledge ctrl =>
    rw [ServiceMsg.toMsg, decoderOf, controlAck_back henc hsat]
    rfl

/-- **The round trip of the service messages**: the encoding of a message is
decoded to that message. -/
theorem serviceMsg_roundTrip {Buf : Type} (rt : Asn1c RicPdu Buf)
    (hrt : rt.Exact RicPdu.satisfies RicPdu.opened) (msg : ServiceMsg) (b : Buf)
    (henc : e2apMsgEncAsn rt msg.toMsg = next b) :
    rt.e2apMsgDecAsn e2apDecRicMsg b = next msg.toMsg := by
  obtain ⟨pdu, hpdu, hb⟩ := bind_eq_next.mp henc
  obtain ⟨hsat, -⟩ := hrt.e2apEncAsnPduBa_iff.mp ⟨b, hb⟩
  rw [hrt.toSound.e2apMsgDecAsn_eq hsat hb, e2apDecRicMsg_of_enc hpdu]
  exact decoderOf_back hpdu hsat

/-- A report without a sequence number, with a call process id. -/
def plainReport : RicIndication where
  ricId := ⟨1021, 0, 4095⟩
  actionId := 255
  sn := none
  type := .report
  hdr := [1]
  msg := [2, 3]
  callProcessId := some [4]

/-- The PDU of `plainReport`. -/
def plainReportPdu : RicPdu where
  present := .initiatingMessage
  procedureCode := procedureCodeRicIndication
  criticality := .ignore
  value := .ricIndication
  ies := [ricIe (.ricRequestId 1021 0), ricIe (.integer .ranFunctionId 4095),
    ricIe (.integer .ricActionId 255), ricIe (.integer .indicationType 0),
    ricIe (.octets .indicationHeader [1]), ricIe (.octets .indicationMessage [2, 3]),
    ricIe (.octets .callProcessId [4])]

theorem serviceMsg_roundTrip_report :
    ricRuntime.e2apMsgDecAsn e2apDecRicMsg plainReportPdu = next (.indication plainReport) :=
  serviceMsg_roundTrip ricRuntime ricRuntime_exact (.indication plainReport) plainReportPdu rfl

end FlexRic.Codec
