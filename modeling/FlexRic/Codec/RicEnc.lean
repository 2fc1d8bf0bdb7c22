import FlexRic.Codec.RicTypes
import FlexRic.Codec.SetupEnc

/-!
# FlexRic.Codec.RicEnc

The encoders of the subscription, indication, control and E42 messages
(`enc/e2ap_msg_enc_asn.c`), up to the PDU that is handed to the runtime.

The encoders write the same elements over and over: `ricIe` is an element,
`ricIdIes` the two that carry a `ric_gen_id_t`.
-/

namespace FlexRic.Codec

/-- `MAX_NUM_ACTION_DEF`. -/
def maxNumActionDef : Nat := 16

/-- An element of a message. -/
def ricIe (v : RicIe) : Ie RicIe := ⟨v.id, .reject, some v⟩

/-- The RIC request id and the RAN function id. -/
def ricIdIes (ricId : RicGenId) : List (Ie RicIe) :=
  [ricIe (.ricRequestId ricId.ricReqId.toNat ricId.ricInstId.toNat),
    ricIe (.integer .ranFunctionId ricId.ranFuncId.toNat)]

/-- An octet string. -/
def encOctets (type : OctetsIe) (ba : Bytes) : Outcome (Ie RicIe) := do
  let v ← copyBaToOstring ba
  return ricIe (.octets type v)

/-- An octet string that is optional: an element, or none. -/
def encOptOctets (type : OctetsIe) (ba : Option Bytes) : Outcome (List (Ie RicIe)) := do
  let ie ← Outcome.opt (encOctets type) ba
  return ie.toList

/-! ## Subscriptions -/

/-- `RICsubsequentAction` of an action. -/
def encSubsequentAction (src : RicSubsequentAction) : Outcome SubsequentActionIe :=
  match src.timeToWaitMs with
  | none => .next ⟨src.type.code, 0⟩
  | some t => do
    Outcome.assert (t < 18) "*src->subseq_action->time_to_wait_ms < 18"
    return ⟨src.type.code, t.toNat⟩

/-- An action of a subscription, in its element. -/
def encActionToBeSetup (src : RicAction) : Outcome (Ie ActionToBeSetupItem) := do
  let definition ← Outcome.opt copyBaToOstring src.definition
  let subseqAction ← Outcome.opt encSubsequentAction src.subseqAction
  return ⟨.ricActionToBeSetupItem, .reject,
    some ⟨src.id.toNat, src.type.code, definition, subseqAction⟩⟩

/-- The event trigger and the actions of a subscription. -/
def encSubscriptionDetails (sr : RicSubscriptionRequest) : Outcome (Ie RicIe) := do
  Outcome.assert (0 < sr.eventTrigger.length)
    "sr->event_trigger.buf != NULL && sr->event_trigger.len > 0"
  Outcome.assert (sr.action.length ≤ maxNumActionDef) "sr->len_action <= MAX_NUM_ACTION_DEF"
  let eventTrigger ← copyBaToOstring sr.eventTrigger
  let items ← Outcome.walk encActionToBeSetup sr.action
  return ricIe (.subscriptionDetails eventTrigger items)

/-- `e2ap_enc_subscription_request_asn_pdu`. -/
def e2apEncSubscriptionRequestAsnPdu (sr : RicSubscriptionRequest) : Outcome RicPdu := do
  let details ← encSubscriptionDetails sr
  return ⟨.initiatingMessage, procedureCodeRicSubscription, .reject, .ricSubscriptionRequest,
    ricIdIes sr.ricId ++ [details]⟩

/-- An admitted action, in its element. -/
def encAdmittedItem (ricActId : UInt8) : Outcome (Ie Int) :=
  .next ⟨.ricActionAdmittedItem, .ignore, some ricActId.toNat⟩

/-- An action that is not admitted, in its element. -/
def encNotAdmittedItem (src : RicActionNotAdmitted) : Outcome (Ie ActionNotAdmittedItem) := do
  let cause ← src.cause.copy encCauseLimits
  return ⟨.ricActionNotAdmittedItem, .reject, some ⟨src.ricActId.toNat, cause⟩⟩

/-- `e2ap_enc_subscription_response_asn_pdu`. -/
def e2apEncSubscriptionResponseAsnPdu (sr : RicSubscriptionResponse) : Outcome RicPdu := do
  let admitted ← Outcome.walk encAdmittedItem sr.admitted
  let notAdmitted ← Outcome.walk encNotAdmittedItem sr.notAdmitted
  return ⟨.successfulOutcome, procedureCodeRicSubscription, .reject, .ricSubscriptionResponse,
    ricIdIes sr.ricId ++
      [ricIe (.actionAdmittedList admitted), ricIe (.actionNotAdmittedList notAdmitted)]⟩

/-- `e2ap_enc_subscription_delete_request_asn_pdu`. -/
def e2apEncSubscriptionDeleteRequestAsnPdu (dr : RicSubscriptionDelete) : Outcome RicPdu :=
  .next ⟨.initiatingMessage, procedureCodeRicSubscriptionDelete, .reject,
    .ricSubscriptionDeleteRequest, ricIdIes dr.ricId⟩

/-- `e2ap_enc_subscription_delete_response_asn_pdu`. -/
def e2apEncSubscriptionDeleteResponseAsnPdu (dr : RicSubscriptionDelete) : Outcome RicPdu :=
  .next ⟨.successfulOutcome, procedureCodeRicSubscriptionDelete, .reject,
    .ricSubscriptionDeleteResponse, ricIdIes dr.ricId⟩

/-! ## Indications and controls -/

/-- The sequence number of an indication. -/
def indicationSnIes (sn : Option UInt16) : List (Ie RicIe) :=
  (sn.map fun sn => ricIe (.integer .indicationSn sn.toNat)).toList

/-- `e2ap_enc_indication_asn_pdu`. -/
def e2apEncIndicationAsnPdu (ind : RicIndication) : Outcome RicPdu := do
  let hdr ← encOctets .indicationHeader ind.hdr
  let msg ← encOctets .indicationMessage ind.msg
  let callProcessId ← encOptOctets .callProcessId ind.callProcessId
  return ⟨.initiatingMessage, procedureCodeRicIndication, .ignore, .ricIndication,
    ricIdIes ind.ricId ++ (ricIe (.integer .ricActionId ind.actionId.toNat) ::
      (indicationSnIes ind.sn ++ (ricIe (.integer .indicationType ind.type.code) :: hdr :: msg ::
        callProcessId)))⟩

/-- The question for an acknowledgement. -/
def controlAckReqIes (ackReq : Option RicControlAckReq) : List (Ie RicIe) :=
  (ackReq.map fun a => ricIe (.integer .controlAckRequest a.code)).toList

/-- The elements of a control request after its ids. -/
def encControlIes (ctrl : RicControlRequest) : Outcome (List (Ie RicIe)) := do
  let callProcessId ← encOptOctets .callProcessId ctrl.callProcessId
  let hdr ← encOctets .controlHeader ctrl.hdr
  let msg ← encOctets .controlMessage ctrl.msg
  return callProcessId ++ (hdr :: msg :: controlAckReqIes ctrl.ackReq)

/-- `e2ap_enc_control_request_asn_pdu`. -/
def e2apEncControlRequestAsnPdu (ctrl : RicControlRequest) : Outcome RicPdu := do
  let ies ← encControlIes ctrl
  return ⟨.initiatingMessage, procedureCodeRicControl, .reject, .ricControlRequest,
    ricIdIes ctrl.ricId ++ ies⟩

/-- `e2ap_enc_control_ack_asn_pdu`. -/
def e2apEncControlAckAsnPdu (ca : RicControlAcknowledge) : Outcome RicPdu := do
  let callProcessId ← encOptOctets .callProcessId ca.callProcessId
  let controlOutcome ← encOptOctets .controlOutcome ca.controlOutcome
  return ⟨.successfulOutcome, procedureCodeRicControl, .reject, .ricControlAcknowledge,
    ricIdIes ca.ricId ++ (callProcessId ++ controlOutcome)⟩

/-! ## E42 messages -/

/-- The node types the encoders of the E42 setup response and of the E42 control
request take; those of a setup request and of an E42 subscription request have
the CU-CP too. -/
def isE42Node (t : NgranNode) : Bool :=
  t == .gNB || t == .gNBCU || t == .gNBCUUP || t == .gNBDU || t == .eNB

/-- The xApp and the node of an E42 request. -/
def e42Ies (xappId : UInt16) (nodeId : GlobalE2NodeIdIe) : List (Ie RicIe) :=
  [ricIe (.integer .xappId xappId.toNat), ricIe (.globalE2NodeId nodeId)]

/-- `e2ap_enc_e42_subscription_request_asn_pdu`. -/
def e2apEncE42SubscriptionRequestAsnPdu (e42Sr : E42RicSubscriptionRequest) : Outcome RicPdu := do
  Outcome.assert (isSetupNode e42Sr.id.type) "e42_sr->id.type"
  let nodeId ← encGlobalE2NodeId e42Sr.id
  let details ← encSubscriptionDetails e42Sr.sr
  return ⟨.initiatingMessage, procedureCodeE42RicSubscription, .reject,
    .e42RicSubscriptionRequest,
    e42Ies e42Sr.xappId nodeId ++ (ricIdIes e42Sr.sr.ricId ++ [details])⟩

/-- `e2ap_enc_e42_subscription_delete_request_asn_pdu`. -/
def e2apEncE42SubscriptionDeleteRequestAsnPdu (e42Sdr : E42RicSubscriptionDeleteRequest) :
    Outcome RicPdu :=
  .next ⟨.initiatingMessage, procedureCodeE42RicSubscriptionDelete, .reject,
    .e42RicSubscriptionDeleteRequest,
    ricIe (.integer .xappId e42Sdr.xappId.toNat) :: ricIdIes e42Sdr.sdr.ricId⟩

/-- `e2ap_enc_e42_control_request_asn_pdu`. -/
def e2apEncE42ControlRequestAsnPdu (e42Ctrl : E42RicControlRequest) : Outcome RicPdu := do
  Outcome.assert (isE42Node e42Ctrl.id.type) "e42_ric_req->id.type"
  let nodeId ← encGlobalE2NodeId e42Ctrl.id
  let ies ← encControlIes e42Ctrl.ctrlReq
  return ⟨.initiatingMessage, procedureCodeE42RicControl, .reject, .e42RicControlRequest,
    e42Ies e42Ctrl.xappId nodeId ++ (ricIdIes e42Ctrl.ctrlReq.ricId ++ ies)⟩

/-- A connected node, in its element. -/
def encNodeConnected (node : E2NodeConnected) : Outcome (Ie RicIe) := do
  Outcome.assert (isE42Node node.id.type) "src_id->type"
  let nodeId ← encGlobalE2NodeId node.id
  Outcome.assert (0 < node.cca.length) "sr->nodes[i].len_cca > 0"
  let cca ← Outcome.walk e2apEncNodeComponentConfAddition node.cca
  let ackRf ← Outcome.walk encRanFunctionItem node.ackRf
  return ricIe (.e2NodeConnectedList
    [⟨.globalE2NodeId, .reject, some (.globalE2NodeId nodeId)⟩,
      ⟨.e2NodeComponentConfigAddition, .reject, some (.configAdditionList cca)⟩,
      ⟨.ranFunctionsAdded, .reject, some (.ranFunctionsList ackRf)⟩])

/-- `e2ap_enc_e42_setup_response_asn_pdu`. -/
def e2apEncE42SetupResponseAsnPdu (sr : E42SetupResponse) : Outcome RicPdu := do
  Outcome.assert (0 < sr.nodes.length) "No global node conected??"
  let nodes ← Outcome.walk encNodeConnected sr.nodes
  return ⟨.successfulOutcome, procedureCodeE42Setup, .reject, .e42SetupResponse,
    ricIe (.integer .xappId sr.xappId.toNat) :: nodes⟩

/-- `e2ap_msg_enc_asn`, of these messages, before the runtime. -/
def e2apEncRicMsg : RicMsg → Outcome RicPdu
  | .subscriptionRequest sr => e2apEncSubscriptionRequestAsnPdu sr
  | .subscriptionResponse sr => e2apEncSubscriptionResponseAsnPdu sr
  | .subscriptionDeleteRequest dr => e2apEncSubscriptionDeleteRequestAsnPdu dr
  | .subscriptionDeleteResponse dr => e2apEncSubscriptionDeleteResponseAsnPdu dr
  | .indication ind => e2apEncIndicationAsnPdu ind
  | .controlRequest ctrl => e2apEncControlRequestAsnPdu ctrl
  | .controlAcknowledge ca => e2apEncControlAckAsnPdu ca
  | .e42SetupResponse sr => e2apEncE42SetupResponseAsnPdu sr
  | .e42SubscriptionRequest e42Sr => e2apEncE42SubscriptionRequestAsnPdu e42Sr
  | .e42SubscriptionDeleteRequest e42Sdr => e2apEncE42SubscriptionDeleteRequestAsnPdu e42Sdr
  | .e42ControlRequest e42Ctrl => e2apEncE42ControlRequestAsnPdu e42Ctrl

end FlexRic.Codec
