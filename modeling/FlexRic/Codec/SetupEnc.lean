import FlexRic.Codec.SetupTypes

/-!
# FlexRic.Codec.SetupEnc

The encoders of the E2 setup messages (`enc/e2ap_msg_enc_asn.c`), up to the PDU
that is handed to the runtime.

An assertion of the encoder is one of the caller's duties: the encoder accepts
a message when it runs through (`e2apEncSetupMsg msg = .next pdu`).
-/

namespace FlexRic

/-- `MAX_NUM_RAN_FUNC_ID`. -/
def maxNumRanFuncId : Nat := 256

/-- `MAX_NUM_E2_NODE_COMPONENTS`. -/
def maxNumE2NodeComponents : Nat := 1024

/-- `asn_uint642INTEGER`. -/
def asnUint642Integer (v : UInt64) : Nat := v.toNat

/-- `copy_ba_to_ostring`. -/
def copyBaToOstring (ba : Bytes) : Outcome Bytes := do
  Outcome.assert (0 < ba.length) "ba.buf != NULL && ba.len > 0"
  return ba

/-! ## Causes -/

/-- The bounds a copy of a cause asserts; a kind that is refused has none. -/
structure CauseLimits where
  ricRequest : Nat
  ricService : Nat
  e2Node : Nat
  transport : Nat
  protocol : Nat
  misc : Nat

/-- A cause is copied from a message to a PDU, or back. -/
def Cause.copy (limits : CauseLimits) : Cause → Outcome Cause
  | nothing => .abort "Not Implemented!"
  | ricRequest v => do
    Outcome.assert (v < limits.ricRequest) "ricRequest"
    return ricRequest v
  | ricService v => do
    Outcome.assert (v < limits.ricService) "ricService"
    return ricService v
  | e2Node v => do
    Outcome.assert (v < limits.e2Node) "Invalid code path. Error caused assigned"
    return e2Node v
  | transport v => do
    Outcome.assert (v < limits.transport) "transport"
    return transport v
  | protocol v => do
    Outcome.assert (v < limits.protocol) "protocol"
    return protocol v
  | misc v => do
    Outcome.assert (v < limits.misc) "misc"
    return misc v

theorem Cause.copy_eq {limits : CauseLimits} {c c' : Cause} (h : c.copy limits = .next c') :
    c' = c := by
  cases c <;> simp [copy] at h
  all_goals exact h.2.symm

/-- `copy_cause` of the encoder, and the causes of the rejected RAN functions. -/
def encCauseLimits : CauseLimits where
  ricRequest := 11
  ricService := 3
  e2Node := 0
  transport := 2
  protocol := 7
  misc := 4

/-! ## Node components -/

/-- `e2ap_enc_node_component_id`: what is in the union is read by the interface
type, not by the type next to it. -/
def e2apEncNodeComponentId (interfaceType : NodeCompInterfaceType) (id : NodeCompId) :
    Outcome E2NodeComponentId :=
  match interfaceType with
  | .ng => do
    let name ← Outcome.expect id.name? "id->ng_amf_name"
    let amfName ← copyBaToOstring name
    return .ng amfName
  | .xn => .abort "interface type Xn not implemented"
  | .e1 => do
    let v ← Outcome.expect id.id? "id->e1_gnb_cu_up_id"
    return .e1 (asnUint642Integer v)
  | .f1 => do
    let v ← Outcome.expect id.id? "id->f1_gnb_du_id"
    return .f1 (asnUint642Integer v)
  | .w1 => do
    let v ← Outcome.expect id.id? "id->w1_ng_enb_du_id"
    return .w1 (asnUint642Integer v)
  | .s1 => do
    let name ← Outcome.expect id.name? "id->s1_mme_name"
    let mmeName ← copyBaToOstring name
    return .s1 mmeName
  | .x2 => .abort "interface type X2 not implemented"

/-- `e2ap_enc_node_component_conf_addition`. -/
def e2apEncNodeComponentConfAddition (src : NodeComponentConfigAdd) :
    Outcome (Ie ConfigAdditionItem) := do
  let componentId ← e2apEncNodeComponentId src.interfaceType src.id
  let requestPart ← copyBaToOstring src.request
  let responsePart ← copyBaToOstring src.response
  return ⟨.e2NodeComponentConfigAdditionItem, .reject,
    some ⟨src.interfaceType.code, componentId, requestPart, responsePart⟩⟩

/-- `copy_cause` of an optional cause. -/
def copyFailureCause (limits : CauseLimits) : Option Cause → Outcome (Option Cause)
  | none => .next none
  | some c => do
    let c ← c.copy limits
    return some c

/-- `e2ap_enc_node_component_conf_addition_ack`. -/
def e2apEncNodeComponentConfAdditionAck (src : NodeCompConfigAddAck) :
    Outcome (Ie ConfigAdditionAckItem) := do
  let componentId ← e2apEncNodeComponentId src.interfaceType src.id
  let failureCause ← copyFailureCause encCauseLimits src.cause
  return ⟨.e2NodeComponentConfigAdditionAckItem, .reject,
    some ⟨src.interfaceType.code, componentId, src.outcome.code, failureCause⟩⟩

/-! ## E2 setup request -/

/-- The node types the encoder takes. -/
def isSetupNode (t : NgranNode) : Bool :=
  t == .gNB || t == .gNBCU || t == .gNBCUCP || t == .gNBCUUP || t == .gNBDU || t == .eNB

/-- The `GlobalE2node_ID` of a setup request.  The CU and the CU-CP have no flag
here; only the CU-UP and the DU have an id of their own. -/
def encGlobalE2NodeId (id : GlobalE2NodeId) : Outcome GlobalE2NodeIdIe :=
  if id.type = .eNB then
    .next (.eNB ⟨mccMncToPlmnid id.plmn, .macroEnbId (macroEnbIdToBitString id.nbId.nbId)⟩)
  else do
    let gnbId ← cpGnbIdToBitString id.nbId
    return .gNB {
      plmnId := mccMncToPlmnid id.plmn
      gnbId := gnbId
      gnbCuUpId := if id.type = .gNBCUUP then id.cuDuId.map asnUint642Integer else none
      gnbDuId := if id.type = .gNBDU then id.cuDuId.map asnUint642Integer else none }

/-- `copy_ran_function`, in its element. -/
def encRanFunctionItem (src : RanFunction) : Outcome (Ie RanFunctionItem) := do
  let defn ← copyBaToOstring src.defn
  let oid ← copyBaToOstring src.oid
  return ⟨.ranFunctionItem, .reject, some ⟨src.id.toNat, defn, src.rev.toNat, oid⟩⟩

/-- An element whose list is left out when it is empty. -/
def listIe {V W : Type} (id : ProtocolIeId) (value : List (Ie V) → W) (items : List (Ie V)) :
    List (Ie W) :=
  if 0 < items.length then [⟨id, .reject, some (value items)⟩] else []

/-- The lists of a setup request. -/
def setupRequestLists (functions : List (Ie RanFunctionItem))
    (components : List (Ie ConfigAdditionItem)) : List (Ie E2SetupRequestValue) :=
  listIe .ranFunctionsAdded .ranFunctionsList functions ++
    [⟨.e2NodeComponentConfigAddition, .reject, some (.configAdditionList components)⟩]

/-- The elements of a setup request. -/
def setupRequestIes (transId : UInt8) (nodeId : GlobalE2NodeIdIe)
    (functions : List (Ie RanFunctionItem)) (components : List (Ie ConfigAdditionItem)) :
    List (Ie E2SetupRequestValue) :=
  ⟨.transactionId, .reject, some (.transactionId transId.toNat)⟩ ::
    ⟨.globalE2NodeId, .reject, some (.globalE2NodeId nodeId)⟩ ::
    setupRequestLists functions components

/-- `e2ap_enc_setup_request_asn_pdu`. -/
def e2apEncSetupRequestAsnPdu (sr : E2SetupRequest) : Outcome SetupPdu := do
  Outcome.assert (isSetupNode sr.id.type) "sr->id.type"
  Outcome.assert (sr.ranFuncItem.length ≤ maxNumRanFuncId) "sr->len_rf <= MAX_NUM_RAN_FUNC_ID"
  let nodeId ← encGlobalE2NodeId sr.id
  let functions ← Outcome.walk encRanFunctionItem sr.ranFuncItem
  Outcome.assert (0 < sr.compConfAdd.length) "sr->len_cca > 0"
  let components ← Outcome.walk e2apEncNodeComponentConfAddition sr.compConfAdd
  return .initiatingMessage ⟨procedureCodeE2Setup, .reject,
    some (setupRequestIes sr.transId nodeId functions components)⟩

/-! ## E2 setup response -/

/-- An accepted RAN function, in its element. -/
def encAcceptedItem (id : UInt16) : Outcome (Ie Int) :=
  .next ⟨.ranFunctionIdItem, .ignore, some id.toNat⟩

/-- A rejected RAN function, in its element, under the id of the elements of the
accepted ones. -/
def encRejectedItem (src : RejectedRanFunction) : Outcome (Ie RanFunctionIdCauseItem) := do
  let cause ← src.cause.copy encCauseLimits
  return ⟨.ranFunctionIdItem, .ignore, some ⟨src.id.toNat, cause⟩⟩

/-- The lists of a setup response. -/
def setupResponseLists (accepted : List (Ie Int)) (rejected : List (Ie RanFunctionIdCauseItem))
    (acks : List (Ie ConfigAdditionAckItem)) : List (Ie E2SetupResponseValue) :=
  listIe .ranFunctionsAccepted .ranFunctionsIdList accepted ++
    (listIe .ranFunctionsRejected .ranFunctionsIdCauseList rejected ++
      [⟨.e2NodeComponentConfigAdditionAck, .reject, some (.configAdditionAckList acks)⟩])

/-- The elements of a setup response. -/
def setupResponseIes (transId : UInt8) (ricId : GlobalRicIdIe) (accepted : List (Ie Int))
    (rejected : List (Ie RanFunctionIdCauseItem)) (acks : List (Ie ConfigAdditionAckItem)) :
    List (Ie E2SetupResponseValue) :=
  ⟨.transactionId, .reject, some (.transactionId transId.toNat)⟩ ::
    ⟨.globalRicId, .reject, some (.globalRicId ricId)⟩ ::
    setupResponseLists accepted rejected acks

/-- The `GlobalRIC_ID` of a setup response. -/
def encGlobalRicId (id : GlobalRicId) : GlobalRicIdIe :=
  ⟨mccMncToPlmnid id.plmn, macroEnbIdToBitString id.doubleWord⟩

/-- `e2ap_enc_setup_response_asn_pdu`. -/
def e2apEncSetupResponseAsnPdu (sr : E2SetupResponse) : Outcome SetupPdu := do
  Outcome.assert (sr.accepted.length ≤ maxNumRanFuncId) "sr->len_acc <= MAX_NUM_RAN_FUNC_ID"
  Outcome.assert (sr.rejected.length ≤ maxNumRanFuncId) "sr->len_rej <= MAX_NUM_RAN_FUNC_ID"
  Outcome.assert (sr.compConfigAddAck.length ≤ maxNumE2NodeComponents)
    "sr->len_ccaa <= MAX_NUM_E2_NODE_COMPONENTS"
  let accepted ← Outcome.walk encAcceptedItem sr.accepted
  let rejected ← Outcome.walk encRejectedItem sr.rejected
  Outcome.assert (0 < sr.compConfigAddAck.length && sr.compConfigAddAck.length < 1025)
    "sr->len_ccaa > 0 && sr->len_ccaa < 1025"
  let acks ← Outcome.walk e2apEncNodeComponentConfAdditionAck sr.compConfigAddAck
  return .successfulOutcome ⟨procedureCodeE2Setup, .reject,
    some (setupResponseIes sr.transId (encGlobalRicId sr.id) accepted rejected acks)⟩

/-- `e2ap_msg_enc_asn`, of the setup messages, before the runtime. -/
def e2apEncSetupMsg : SetupMsg → Outcome SetupPdu
  | .request sr => e2apEncSetupRequestAsnPdu sr
  | .response sr => e2apEncSetupResponseAsnPdu sr

end FlexRic
