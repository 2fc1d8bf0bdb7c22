import FlexRic.Codec.RicEnc
import FlexRic.Codec.SetupDec

/-!
# FlexRic.Codec.RicDec

The decoders of the subscription, indication, control and E42 messages
(`dec/e2ap_msg_dec_asn.c`), from the PDU the runtime hands over.

Each decoder has its own limits on the ids (`RicIdLimits`) and reads its first
elements by position.  What comes after is read in a loop over the elements, by
their ids; what is not set by it keeps the zeros of the message.
-/

namespace FlexRic.Codec

/-- `MAX_RIC_REQUEST_ID`, `MAX_RIC_INSTANCE_ID`. -/
def maxRicRequestId : Int := 65536

/-- `MAX_RIC_ACTION_ID`. -/
def maxRicActionId : Int := 256

/-- `MAX_RIC_INDICATION_SN`. -/
def maxRicIndicationSn : Int := 65536

/-- `MAX_RIC_INDICATION_TYPE`. -/
def maxRicIndicationType : Int := 2

/-- A `long` stored in a `uint32_t`. -/
def longToU32 (v : Int) : UInt32 := (v % 4294967296).toNat.toUInt32

/-! ## Elements -/

/-- The assertions on the PDU. -/
def RicPdu.check (pdu : RicPdu) (present : PduKind) (procedureCode : Nat) (value : MessageType) :
    Outcome Unit := do
  Outcome.assert (pdu.present = present) "pdu->present"
  Outcome.assert (pdu.procedureCode = procedureCode) "procedureCode"
  Outcome.assert (pdu.value = value) "value.present"

/-- `list.array[i]`. -/
def RicPdu.element (pdu : RicPdu) (i : Nat) : Outcome (Ie RicIe) :=
  Outcome.expect pdu.ies[i]? "list.array[i]"

/-- The assertions on an element; where the criticality is ignored for
interoperability, it is not one of them. -/
def readIe (strict : Bool) (id : ProtocolIeId) (ie : Ie RicIe) : Outcome RicIe := do
  Outcome.assert (ie.id = id) "id"
  Outcome.assert (!strict || ie.criticality = .reject) "criticality"
  Outcome.expect ie.value "value.present"

def readInteger (strict : Bool) (type : IntegerIe) (ie : Ie RicIe) : Outcome Int := do
  let value ← readIe strict type.id ie
  match value with
  | .integer t v => if t = type then .next v else .abort "value.present"
  | _ => .abort "value.present"

def readOctets (strict : Bool) (type : OctetsIe) (ie : Ie RicIe) : Outcome Bytes := do
  let value ← readIe strict type.id ie
  match value with
  | .octets t v => if t = type then .next v else .abort "value.present"
  | _ => .abort "value.present"

/-- What a decoder asserts of the ids, and whether it asserts the criticality
of their elements. -/
structure RicIdLimits where
  strict : Bool
  ricRequestId : Option Int
  ranFunctionId : Option Int

/-- The RIC request id and the RAN function id. -/
def decRicId (limits : RicIdLimits) (subReq ranId : Ie RicIe) : Outcome RicGenId := do
  let value ← readIe limits.strict .ricRequestId subReq
  match value with
  | .ricRequestId requestor instance_ =>
    Outcome.assert (limits.ricRequestId.all fun m => requestor < m) "ricRequestorID"
    Outcome.assert (limits.ricRequestId.all fun m => instance_ < m) "ricInstanceID"
    let ranFunctionId ← readInteger limits.strict .ranFunctionId ranId
    Outcome.assert (limits.ranFunctionId.all fun m => ranFunctionId < m) "RANfunctionID"
    return ⟨longToU32 requestor, longToU16 instance_, longToU16 ranFunctionId⟩
  | _ => .abort "value.present"

/-! ## Subscriptions -/

/-- The limits of a subscription request: there are none. -/
def subscriptionRequestLimits : RicIdLimits := ⟨true, none, none⟩

/-- The limits of a subscription response. -/
def subscriptionResponseLimits : RicIdLimits :=
  ⟨true, some maxRicRequestId, some maxNumRanFuncId⟩

/-- The limits of the delete messages. -/
def subscriptionDeleteLimits : RicIdLimits := ⟨true, none, some maxRanFuncId⟩

/-- `RICsubsequentAction`; a time to wait of 0 stands for none. -/
def decSubsequentAction (src : SubsequentActionIe) : Outcome RicSubsequentAction := do
  let type ← Outcome.expect (RicSubseqActionType.ofCode src.ricSubsequentActionType)
    "ricSubsequentActionType"
  return ⟨type, if src.ricTimeToWait ≠ 0 then some (longToU32 src.ricTimeToWait) else none⟩

/-- An action of a subscription; the criticality of its element is ignored. -/
def decActionToBeSetup (ie : Ie ActionToBeSetupItem) : Outcome RicAction := do
  Outcome.assert (ie.id = .ricActionToBeSetupItem) "arr[i]->id"
  let src ← Outcome.expect ie.value "arr[i]->value.present"
  let type ← Outcome.expect (RicActionType.ofCode src.ricActionType) "ricActionType"
  let definition ← Outcome.opt copyOstringToBa src.ricActionDefinition
  let subseqAction ← Outcome.opt decSubsequentAction src.ricSubsequentAction
  return ⟨longToU8 src.ricActionId, type, definition, subseqAction⟩

/-- The event trigger, copied whatever its size, and the actions of a
subscription. -/
def decSubscriptionDetails (ricId : RicGenId) (subDet : Ie RicIe) :
    Outcome RicSubscriptionRequest := do
  let value ← readIe true .ricSubscriptionDetails subDet
  match value with
  | .subscriptionDetails eventTrigger items =>
    Outcome.assert (0 < items.length && items.length ≤ maxNumActionDef)
      "len_ra > 0 && len_ra <= MAX_NUM_ACTION_DEF"
    let action ← Outcome.walk decActionToBeSetup items
    return ⟨ricId, eventTrigger, action⟩
  | _ => .abort "value.present"

/-- `e2ap_dec_subscription_request`. -/
def e2apDecSubscriptionRequest (pdu : RicPdu) : Outcome RicSubscriptionRequest := do
  pdu.check .initiatingMessage procedureCodeRicSubscription .ricSubscriptionRequest
  Outcome.assert (pdu.ies.length = 3) "out->protocolIEs.list.count == 3"
  let subReq ← pdu.element 0
  let ranId ← pdu.element 1
  let ricId ← decRicId subscriptionRequestLimits subReq ranId
  let subDet ← pdu.element 2
  decSubscriptionDetails ricId subDet

/-- An admitted action. -/
def decAdmittedItem (ai : Ie Int) : Outcome UInt8 := do
  let ricActionId ← ai.read .ricActionAdmittedItem .ignore
  Outcome.assert (ricActionId < maxRicActionId) "src->ricActionID < MAX_RIC_ACTION_ID"
  return longToU8 ricActionId

/-- The actions that are admitted. -/
def decAdmittedList (actAdmList : Ie RicIe) : Outcome (List UInt8) := do
  let value ← readIe true .ricActionsAdmitted actAdmList
  match value with
  | .actionAdmittedList items => Outcome.walk decAdmittedItem items
  | _ => .abort "value.present"

/-- An action that is not admitted. -/
def decNotAdmittedItem (nai : Ie ActionNotAdmittedItem) : Outcome RicActionNotAdmitted := do
  let src ← nai.read .ricActionNotAdmittedItem .reject
  let cause ← src.cause.copy decRejectedCauseLimits
  return ⟨longToU8 src.ricActionId, cause⟩

/-- The actions that are not admitted, if there is an element left for them. -/
def decNotAdmittedList : List (Ie RicIe) → Outcome (List RicActionNotAdmitted)
  | [] => .next []
  | actNotAdmList :: _ => do
    let value ← readIe true .ricActionsNotAdmitted actNotAdmList
    match value with
    | .actionNotAdmittedList items =>
      Outcome.assert (items.length < 17) "sz_not_ad < 17"
      Outcome.walk decNotAdmittedItem items
    | _ => .abort "value.present"

/-- `e2ap_dec_subscription_response`.  The array of the actions that are not
admitted is filled, but `len_na` stays 0: the message has none of them. -/
def e2apDecSubscriptionResponse (pdu : RicPdu) : Outcome RicSubscriptionResponse := do
  pdu.check .successfulOutcome procedureCodeRicSubscription .ricSubscriptionResponse
  Outcome.assert (pdu.criticality = .reject) "criticality"
  let subReq ← pdu.element 0
  let ranId ← pdu.element 1
  let ricId ← decRicId subscriptionResponseLimits subReq ranId
  let actAdmList ← pdu.element 2
  let admitted ← decAdmittedList actAdmList
  let notAdmitted ← decNotAdmittedList (pdu.ies.drop 3)
  return ⟨ricId, admitted, notAdmitted.take 0⟩

/-- `e2ap_dec_subscription_delete_request`. -/
def e2apDecSubscriptionDeleteRequest (pdu : RicPdu) : Outcome RicSubscriptionDelete := do
  pdu.check .initiatingMessage procedureCodeRicSubscriptionDelete .ricSubscriptionDeleteRequest
  Outcome.assert (pdu.criticality = .reject) "criticality"
  let subReq ← pdu.element 0
  let ranId ← pdu.element 1
  let ricId ← decRicId subscriptionDeleteLimits subReq ranId
  return ⟨ricId⟩

/-- `e2ap_dec_subscription_delete_response`. -/
def e2apDecSubscriptionDeleteResponse (pdu : RicPdu) : Outcome RicSubscriptionDelete := do
  pdu.check .successfulOutcome procedureCodeRicSubscriptionDelete .ricSubscriptionDeleteResponse
  Outcome.assert (pdu.criticality = .reject) "criticality"
  let subReq ← pdu.element 0
  let ranId ← pdu.element 1
  let ricId ← decRicId subscriptionDeleteLimits subReq ranId
  return ⟨ricId⟩

/-! ## Indications and controls -/

/-- The limits of the indications. -/
def indicationLimits : RicIdLimits := ⟨true, some maxRicRequestId, some maxRanFuncId⟩

/-- The limits of the control requests. -/
def controlRequestLimits : RicIdLimits := ⟨false, some maxRicRequestId, some maxRanFuncId⟩

/-- The limits of the control acknowledgements. -/
def controlAckLimits : RicIdLimits := ⟨true, some maxRicRequestId, some maxRanFuncId⟩

/-- An octet string that is optional, where none has been read yet. -/
def decOptOctets (strict : Bool) (type : OctetsIe) (old : Option Bytes) (ie : Ie RicIe) :
    Outcome (Option Bytes) := do
  let v ← readOctets strict type ie
  Outcome.assert old.isNone "== NULL"
  let ba ← copyOstringToBa v
  return some ba

/-- An octet string, where none has been read yet. -/
def decOctets (strict : Bool) (type : OctetsIe) (old : Bytes) (ie : Ie RicIe) : Outcome Bytes := do
  let v ← readOctets strict type ie
  Outcome.assert old.isEmpty "len == 0 && buf == NULL"
  copyOstringToBa v

/-- The body of the loop over the elements of an indication. -/
def decIndicationIe (ind : RicIndication) (ie : Ie RicIe) : Outcome RicIndication :=
  if ie.id = .ricIndicationSn then do
    let v ← readInteger true .indicationSn ie
    Outcome.assert ind.sn.isNone "ind->sn == NULL"
    Outcome.assert (v < maxRicIndicationSn) "RICindicationSN < MAX_RIC_INDICATION_SN"
    return { ind with sn := some (longToU16 v) }
  else if ie.id = .ricIndicationType then do
    let v ← readInteger true .indicationType ie
    Outcome.assert (v < maxRicIndicationType) "RICindicationType < MAX_RIC_INDICATION_TYPE"
    let type ← Outcome.expect (RicIndicationType.ofCode v) "RICindicationType"
    return { ind with type := type }
  else if ie.id = .ricIndicationHeader then do
    let hdr ← decOctets true .indicationHeader ind.hdr ie
    return { ind with hdr := hdr }
  else if ie.id = .ricIndicationMessage then do
    let msg ← decOctets true .indicationMessage ind.msg ie
    return { ind with msg := msg }
  else if ie.id = .ricCallProcessId then do
    let callProcessId ← decOptOctets true .callProcessId ind.callProcessId ie
    return { ind with callProcessId := callProcessId }
  else .abort "id"

/-- `e2ap_dec_indication`. -/
def e2apDecIndication (pdu : RicPdu) : Outcome RicIndication := do
  pdu.check .initiatingMessage procedureCodeRicIndication .ricIndication
  Outcome.assert (pdu.criticality = .ignore) "criticality"
  let subReq ← pdu.element 0
  let ranId ← pdu.element 1
  let ricId ← decRicId indicationLimits subReq ranId
  let ricAct ← pdu.element 2
  let actionId ← readInteger true .ricActionId ricAct
  Outcome.assert (actionId < maxRicActionId) "RICactionID < MAX_RIC_ACTION_ID"
  Outcome.fold decIndicationIe ⟨ricId, longToU8 actionId, none, .report, [], [], none⟩
    (pdu.ies.drop 3)

/-- The body of the loop over the elements of a control request. -/
def decControlIe (ctrl : RicControlRequest) (ie : Ie RicIe) : Outcome RicControlRequest :=
  if ie.id = .ricCallProcessId then do
    let callProcessId ← decOptOctets false .callProcessId ctrl.callProcessId ie
    return { ctrl with callProcessId := callProcessId }
  else if ie.id = .ricControlHeader then do
    let hdr ← decOctets false .controlHeader ctrl.hdr ie
    return { ctrl with hdr := hdr }
  else if ie.id = .ricControlMessage then do
    let msg ← decOctets false .controlMessage ctrl.msg ie
    return { ctrl with msg := msg }
  else if ie.id = .ricControlAckRequest then do
    let v ← readInteger false .controlAckRequest ie
    Outcome.assert ctrl.ackReq.isNone "ctrl->ack_req == NULL"
    Outcome.assert (v < 3) "RICcontrolAckRequest < 3"
    let ackReq ← Outcome.expect (RicControlAckReq.ofCode v) "RICcontrolAckRequest"
    return { ctrl with ackReq := some ackReq }
  else .abort "id"

/-- The ids of a control request, and the loop over what comes after them. -/
def decControl (subReq ranId : Ie RicIe) (ies : List (Ie RicIe)) : Outcome RicControlRequest := do
  let ricId ← decRicId controlRequestLimits subReq ranId
  Outcome.fold decControlIe ⟨ricId, none, [], [], none⟩ ies

/-- `e2ap_dec_control_request`. -/
def e2apDecControlRequest (pdu : RicPdu) : Outcome RicControlRequest := do
  pdu.check .initiatingMessage procedureCodeRicControl .ricControlRequest
  let ricReqId ← pdu.element 0
  let ranId ← pdu.element 1
  decControl ricReqId ranId (pdu.ies.drop 2)

/-- The body of the loop over the elements of a control acknowledgement. -/
def decControlAckIe (ctrl : RicControlAcknowledge) (ie : Ie RicIe) :
    Outcome RicControlAcknowledge :=
  if ie.id = .ricCallProcessId then do
    let callProcessId ← decOptOctets true .callProcessId ctrl.callProcessId ie
    return { ctrl with callProcessId := callProcessId }
  else if ie.id = .ricControlOutcome then do
    let controlOutcome ← decOptOctets true .controlOutcome ctrl.controlOutcome ie
    return { ctrl with controlOutcome := controlOutcome }
  else .abort "id"

/-- `e2ap_dec_control_ack`. -/
def e2apDecControlAck (pdu : RicPdu) : Outcome RicControlAcknowledge := do
  pdu.check .successfulOutcome procedureCodeRicControl .ricControlAcknowledge
  Outcome.assert (pdu.criticality = .reject) "criticality"
  let subReq ← pdu.element 0
  let ranId ← pdu.element 1
  let ricId ← decRicId controlAckLimits subReq ranId
  Outcome.fold decControlAckIe ⟨ricId, none, none⟩ (pdu.ies.drop 2)

/-! ## E42 messages -/

/-- The xApp of an E42 message. -/
def decXappId (ie : Ie RicIe) : Outcome UInt16 := do
  let v ← readInteger true .xappId ie
  return longToU16 v

/-- The node of an E42 request. -/
def decE42NodeId (nodeSrc : Ie RicIe) : Outcome GlobalE2NodeId := do
  let value ← readIe true .globalE2NodeId nodeSrc
  match value with
  | .globalE2NodeId v => decGlobalE2NodeId v
  | _ => .abort "value.present"

/-- `e2ap_dec_e42_subscription_request`. -/
def e2apDecE42SubscriptionRequest (pdu : RicPdu) : Outcome E42RicSubscriptionRequest := do
  pdu.check .initiatingMessage procedureCodeE42RicSubscription .e42RicSubscriptionRequest
  Outcome.assert (pdu.ies.length = 5) "out->protocolIEs.list.count == 5"
  let xappIe ← pdu.element 0
  let xappId ← decXappId xappIe
  let nodeSrc ← pdu.element 1
  let id ← decE42NodeId nodeSrc
  let subReq ← pdu.element 2
  let ranId ← pdu.element 3
  let ricId ← decRicId subscriptionRequestLimits subReq ranId
  let subDet ← pdu.element 4
  let sr ← decSubscriptionDetails ricId subDet
  return ⟨xappId, id, sr⟩

/-- `e2ap_dec_e42_subscription_delete_request`. -/
def e2apDecE42SubscriptionDeleteRequest (pdu : RicPdu) :
    Outcome E42RicSubscriptionDeleteRequest := do
  pdu.check .initiatingMessage procedureCodeE42RicSubscriptionDelete
    .e42RicSubscriptionDeleteRequest
  Outcome.assert (pdu.criticality = .reject) "criticality"
  let xappIe ← pdu.element 0
  let xappId ← decXappId xappIe
  let subReq ← pdu.element 1
  let ranId ← pdu.element 2
  let ricId ← decRicId subscriptionDeleteLimits subReq ranId
  return ⟨xappId, ⟨ricId⟩⟩

/-- `e2ap_dec_e42_control_request`. -/
def e2apDecE42ControlRequest (pdu : RicPdu) : Outcome E42RicControlRequest := do
  pdu.check .initiatingMessage procedureCodeE42RicControl .e42RicControlRequest
  let xappIe ← pdu.element 0
  let xappId ← decXappId xappIe
  let nodeSrc ← pdu.element 1
  let id ← decE42NodeId nodeSrc
  let ricReqId ← pdu.element 2
  let ranId ← pdu.element 3
  let ctrlReq ← decControl ricReqId ranId (pdu.ies.drop 4)
  return ⟨xappId, id, ctrlReq⟩

/-- The type of a gNB, from its components: `CU = NGAP + F1AP`,
`CUCP = NGAP + F1AP + E1AP`. -/
def inferNodeType (type : NgranNode) (cca : List NodeComponentConfigAdd) : Outcome NgranNode :=
  if type = .gNB then
    match cca.map (·.interfaceType) with
    | [t₀, t₁] => do
      Outcome.assert (t₀ = .ng && t₁ = .f1) "CU = NGAP + F1AP"
      return .gNBCU
    | [t₀, t₁, t₂] => do
      Outcome.assert (t₀ = .ng && t₁ = .f1 && t₂ = .e1) "CUCP = NGAP + F1AP + E1AP"
      return .gNBCUCP
    | _ => .next .gNB
  else .next type

theorem inferNodeType_needs {type type' : NgranNode} {cca : List NodeComponentConfigAdd}
    (h : inferNodeType type cca = .next type') :
    (type'.isCuup || type'.isDu) = (type.isCuup || type.isDu) := by
  rw [inferNodeType] at h
  split at h
  · next htype =>
    subst htype
    split at h <;> simp at h
    · obtain ⟨-, rfl⟩ := h
      rfl
    · obtain ⟨-, rfl⟩ := h
      rfl
    · obtain rfl := h
      rfl
  · obtain rfl := Outcome.next_inj.mp h
    rfl

/-- The id with the type its components stand for. -/
def inferNodeId (id : GlobalE2NodeId) (cca : List NodeComponentConfigAdd) :
    Outcome GlobalE2NodeId :=
  match h : inferNodeType id.type cca with
  | .next type =>
    .next { id with
      type := type
      hasCuDuId := fun hneeds => id.hasCuDuId (inferNodeType_needs h ▸ hneeds) }
  | .abort m => .abort m
  | .blocked => .blocked

/-- The node components of a connected node. -/
def decConfigAdditionList (ie : Ie NodeConnectedValue) : Outcome (List NodeComponentConfigAdd) := do
  let value ← ie.read .e2NodeComponentConfigAddition .reject
  match value with
  | .configAdditionList items =>
    Outcome.assert (0 < items.length && items.length < 256) "list.count > 0 && list.count < 256"
    Outcome.walk e2apDecNodeComponentConfAddition items
  | _ => .abort "value.present"

/-- The RAN functions of a connected node. -/
def decRanFunctionsList (ie : Ie NodeConnectedValue) : Outcome (List RanFunction) := do
  let value ← ie.read .ranFunctionsAdded .reject
  match value with
  | .ranFunctionsList items => Outcome.walk decRanFunctionItem items
  | _ => .abort "value.present"

/-- A connected node: its id, its components and its RAN functions. -/
def decNodeConnected (connList : Ie RicIe) : Outcome E2NodeConnected := do
  let value ← readIe true .e2NodesConnected connList
  match value with
  | .e2NodeConnectedList [idIe, ccaIe, rfIe] =>
    let idValue ← idIe.read .globalE2NodeId .reject
    match idValue with
    | .globalE2NodeId v =>
      let id ← decGlobalE2NodeId v
      let cca ← decConfigAdditionList ccaIe
      let id ← inferNodeId id cca
      let ackRf ← decRanFunctionsList rfIe
      return ⟨id, cca, ackRf⟩
    | _ => .abort "value.present"
  | _ => .abort "E2nodeConnected_List.protocolIEs.list.count == 3"

/-- `e2ap_dec_e42_setup_response`.  The number of nodes is stored in a
`uint8_t`. -/
def e2apDecE42SetupResponse (pdu : RicPdu) : Outcome E42SetupResponse := do
  pdu.check .successfulOutcome procedureCodeE42Setup .e42SetupResponse
  Outcome.assert (pdu.criticality = .reject) "criticality"
  Outcome.assert (0 < pdu.ies.length) "At least the xApp-id should be here"
  let xappIe ← pdu.element 0
  let xappId ← decXappId xappIe
  let nodes ← Outcome.walk decNodeConnected (pdu.ies.drop 1)
  return ⟨xappId, nodes.take (nodes.length % 256)⟩

/-- The decoder `e2ap_msg_dec_asn` finds by the procedure and the kind of PDU
(`e2ap_get_msg_type`). -/
def e2apDecRicMsg (pdu : RicPdu) : Outcome RicMsg :=
  match pdu.procedureCode, pdu.present with
  | procedureCodeRicSubscription, .initiatingMessage => do
    let sr ← e2apDecSubscriptionRequest pdu
    return .subscriptionRequest sr
  | procedureCodeRicSubscription, .successfulOutcome => do
    let sr ← e2apDecSubscriptionResponse pdu
    return .subscriptionResponse sr
  | procedureCodeRicSubscriptionDelete, .initiatingMessage => do
    let dr ← e2apDecSubscriptionDeleteRequest pdu
    return .subscriptionDeleteRequest dr
  | procedureCodeRicSubscriptionDelete, .successfulOutcome => do
    let dr ← e2apDecSubscriptionDeleteResponse pdu
    return .subscriptionDeleteResponse dr
  | procedureCodeRicIndication, _ => do
    let ind ← e2apDecIndication pdu
    return .indication ind
  | procedureCodeRicControl, .initiatingMessage => do
    let ctrl ← e2apDecControlRequest pdu
    return .controlRequest ctrl
  | procedureCodeRicControl, .successfulOutcome => do
    let ctrl ← e2apDecControlAck pdu
    return .controlAcknowledge ctrl
  | procedureCodeE42Setup, .successfulOutcome => do
    let sr ← e2apDecE42SetupResponse pdu
    return .e42SetupResponse sr
  | procedureCodeE42RicSubscription, .initiatingMessage => do
    let sr ← e2apDecE42SubscriptionRequest pdu
    return .e42SubscriptionRequest sr
  | procedureCodeE42RicSubscriptionDelete, .initiatingMessage => do
    let sdr ← e2apDecE42SubscriptionDeleteRequest pdu
    return .e42SubscriptionDeleteRequest sdr
  | procedureCodeE42RicControl, .initiatingMessage => do
    let ctrl ← e2apDecE42ControlRequest pdu
    return .e42ControlRequest ctrl
  | _, _ => .abort "Not valid procedureCode"

end FlexRic.Codec
