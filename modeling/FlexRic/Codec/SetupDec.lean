import FlexRic.Codec.SetupEnc

/-!
# FlexRic.Codec.SetupDec

The decoders of the E2 setup messages (`dec/e2ap_msg_dec_asn.c`), from the PDU
the runtime hands over.

The first two elements are read by position, the rest from the last one to the
third, by their ids.  The limits are written again here, and not all of them
are those of the encoder.
-/

namespace FlexRic

/-- `MAX_RAN_FUNC_ID`. -/
def maxRanFuncId : Int := 4096

/-- `MAX_RAN_FUNC_REV`. -/
def maxRanFuncRev : Int := 4096

/-- A `long` stored in a `uint16_t`. -/
def longToU16 (v : Int) : UInt16 := (v % 65536).toNat.toUInt16

/-- A `long` stored in a `uint8_t`. -/
def longToU8 (v : Int) : UInt8 := (v % 256).toNat.toUInt8

/-- `asn_INTEGER2ulong`; a number that is too large is not stored. -/
def asnInteger2Ulong (v : Nat) : UInt64 := if v < 2 ^ 64 then v.toUInt64 else 0

/-- `copy_ostring_to_ba`. -/
def copyOstringToBa (src : Bytes) : Outcome Bytes := do
  Outcome.assert (0 < src.length) "src.size > 0 && src.buf != NULL"
  return src

/-- `copy_cause` of the decoder. -/
def decCauseLimits : CauseLimits where
  ricRequest := 14
  ricService := 3
  e2Node := 1
  transport := 2
  protocol := 7
  misc := 4

/-- The causes of the rejected RAN functions. -/
def decRejectedCauseLimits : CauseLimits where
  ricRequest := 11
  ricService := 3
  e2Node := 0
  transport := 2
  protocol := 7
  misc := 4

/-- The three assertions on an element, and its value. -/
def Ie.read {V : Type} (ie : Ie V) (id : ProtocolIeId) (criticality : Criticality) : Outcome V := do
  Outcome.assert (ie.id = id) "id"
  Outcome.assert (ie.criticality = criticality) "criticality"
  Outcome.expect ie.value "value.present"

/-! ## Node components -/

/-- `e2ap_dec_node_component_id`. -/
def e2apDecNodeComponentId (interfaceType : NodeCompInterfaceType) (cid : E2NodeComponentId) :
    Outcome NodeCompId :=
  match cid with
  | .ng amfName => do
    Outcome.assert (interfaceType = .ng) "interface_type == NG_E2AP_NODE_COMP_INTERFACE_TYPE"
    let name ← copyOstringToBa amfName
    return .ng name
  | .xn => .abort "interfaceTypeXn not Implemented"
  | .e1 v => do
    Outcome.assert (interfaceType = .e1) "interface_type == E1_E2AP_NODE_COMP_INTERFACE_TYPE"
    return .e1 (asnInteger2Ulong v)
  | .f1 v => do
    Outcome.assert (interfaceType = .f1) "interface_type == F1_E2AP_NODE_COMP_INTERFACE_TYPE"
    return .f1 (asnInteger2Ulong v)
  | .w1 v => do
    Outcome.assert (interfaceType = .w1) "interface_type == W1_E2AP_NODE_COMP_INTERFACE_TYPE"
    return .w1 (asnInteger2Ulong v)
  | .s1 mmeName => do
    Outcome.assert (interfaceType = .s1) "interface_type == S1_E2AP_NODE_COMP_INTERFACE_TYPE"
    let name ← copyOstringToBa mmeName
    return .s1 name
  | .x2 => .abort "interfaceTypeX2 not Implemented"

/-- The interface type of a component, at most `E2nodeComponentInterfaceType_x2`. -/
def decInterfaceType (v : Nat) : Outcome NodeCompInterfaceType := do
  Outcome.assert (v ≤ 6) "e2nodeComponentInterfaceType <= E2nodeComponentInterfaceType_x2"
  Outcome.expect (NodeCompInterfaceType.ofCode v) "e2nodeComponentInterfaceType"

/-- `e2ap_dec_node_component_conf_addition`. -/
def e2apDecNodeComponentConfAddition (src : Ie ConfigAdditionItem) :
    Outcome NodeComponentConfigAdd := do
  let cca ← src.read .e2NodeComponentConfigAdditionItem .reject
  let interfaceType ← decInterfaceType cca.interfaceType
  let id ← e2apDecNodeComponentId interfaceType cca.componentId
  let request ← copyOstringToBa cca.requestPart
  let response ← copyOstringToBa cca.responsePart
  return ⟨interfaceType, id, request, response⟩

/-- `e2ap_dec_node_component_conf_addition_ack`. -/
def e2apDecNodeComponentConfAdditionAck (src : Ie ConfigAdditionAckItem) :
    Outcome NodeCompConfigAddAck := do
  let ccaa ← src.read .e2NodeComponentConfigAdditionAckItem .reject
  let interfaceType ← decInterfaceType ccaa.interfaceType
  let id ← e2apDecNodeComponentId interfaceType ccaa.componentId
  Outcome.assert (ccaa.updateOutcome ≤ 1) "updateOutcome <= updateOutcome_failure"
  let outcome ← Outcome.expect (NodeCompConfAckOutcome.ofCode ccaa.updateOutcome) "updateOutcome"
  let cause ← copyFailureCause decCauseLimits ccaa.failureCause
  return ⟨interfaceType, id, outcome, cause⟩

/-! ## E2 setup request -/

/-- The `GlobalE2node_ID` of a setup request. -/
def decGlobalE2NodeId : GlobalE2NodeIdIe → Outcome GlobalE2NodeId
  | .gNB v => do
    let nbId ← cpBitStringToGnbId v.gnbId
    let plmn := plmnidToMccMnc v.plmnId
    match v.gnbCuUpId, v.gnbDuId with
    | some cuUp, _ => return ⟨.gNBCUUP, plmn, nbId, some (asnInteger2Ulong cuUp), fun _ => rfl⟩
    | none, some du => return ⟨.gNBDU, plmn, nbId, some (asnInteger2Ulong du), fun _ => rfl⟩
    | none, none => return ⟨.gNB, plmn, nbId, none, NgranNode.gNB_needs_none⟩
  | .eNB v =>
    match v.enbId with
    | .macroEnbId id => do
      let nbId ← bitStringToMacroEnbId id
      return ⟨.eNB, plmnidToMccMnc v.plmnIdentity, ⟨nbId, 0⟩, none, by decide⟩
    | _ => .abort "eNB_ID.present == ENB_ID_PR_macro_eNB_ID"
  | _ => .abort "GlobalE2node_ID.present == GlobalE2node_ID_PR_eNB"

/-- A RAN function of a setup request.  Its element is not checked; one without
a value would fail the assertion on its definition. -/
def decRanFunctionItem (src : Ie RanFunctionItem) : Outcome RanFunction := do
  let src ← Outcome.expect src.value "src.size > 0 && src.buf != NULL"
  Outcome.assert (src.ranFunctionId ≤ maxRanFuncId) "src->ranFunctionID <= MAX_RAN_FUNC_ID"
  Outcome.assert (-1 < src.ranFunctionRevision && src.ranFunctionRevision ≤ maxRanFuncRev)
    "src->ranFunctionRevision > -1 && src->ranFunctionRevision <= MAX_RAN_FUNC_REV"
  let defn ← copyOstringToBa src.ranFunctionDefinition
  let oid ← copyOstringToBa src.ranFunctionOid
  return ⟨defn, longToU16 src.ranFunctionId, longToU16 src.ranFunctionRevision, oid⟩

/-- The arrays of a setup request; `none` is `NULL`. -/
structure SetupRequestArrays where
  ranFuncItem : Option (List RanFunction)
  compConfAdd : Option (List NodeComponentConfigAdd)

/-- The body of the loop over the elements from the last to the third. -/
def decSetupRequestIe (sr : SetupRequestArrays) (ie : Ie E2SetupRequestValue) :
    Outcome SetupRequestArrays :=
  if ie.id = .ranFunctionsAdded then do
    let value ← ie.read .ranFunctionsAdded .reject
    match value with
    | .ranFunctionsList items =>
      Outcome.assert (items.length < maxNumRanFuncId) "list.count < MAX_NUM_RAN_FUNC_ID"
      Outcome.assert sr.ranFuncItem.isNone "sr->ran_func_item == NULL"
      let functions ← Outcome.walk decRanFunctionItem items
      return { sr with ranFuncItem := some functions }
    | _ => .abort "value.present == RANfunctions_List"
  else if ie.id = .e2NodeComponentConfigAddition then do
    let value ← ie.read .e2NodeComponentConfigAddition .reject
    match value with
    | .configAdditionList items =>
      Outcome.assert (0 < items.length && items.length < 1024 && sr.compConfAdd.isNone)
        "sr->len_cca > 0 && sr->len_cca < 1024 && sr->comp_conf_add == NULL"
      let components ← Outcome.walk e2apDecNodeComponentConfAddition items
      return { sr with compConfAdd := some components }
    | _ => .abort "value.present == E2nodeComponentConfigAddition_List"
  else .abort "Unknown type"

/-- The transaction id of a setup message. -/
def decTransId (v : Int) : Outcome UInt8 := do
  Outcome.assert (v < 256) "TransactionID < 256"
  return longToU8 v

/-- `e2ap_dec_setup_request`. -/
def e2apDecSetupRequest (m : Procedure E2SetupRequestValue) : Outcome E2SetupRequest := do
  Outcome.assert (m.procedureCode = procedureCodeE2Setup) "procedureCode"
  Outcome.assert (m.criticality = .reject) "criticality"
  let ies ← Outcome.expect m.value "value.present == E2setupRequest"
  Outcome.assert (0 < ies.length && ies.length < 5) "list.count > 0 && list.count < 5"
  let transIe ← Outcome.expect ies[0]? "list.array[0]"
  let transValue ← transIe.read .transactionId .reject
  match transValue with
  | .transactionId v =>
    let transId ← decTransId v
    let nodeIe ← Outcome.expect ies[1]? "list.array[1]"
    let nodeValue ← nodeIe.read .globalE2NodeId .reject
    match nodeValue with
    | .globalE2NodeId v =>
      let id ← decGlobalE2NodeId v
      let arrays ← Outcome.fold decSetupRequestIe ⟨none, none⟩ (ies.drop 2).reverse
      return ⟨transId, id, arrays.ranFuncItem.getD [], arrays.compConfAdd.getD []⟩
    | _ => .abort "value.present == GlobalE2node_ID"
  | _ => .abort "value.present == TransactionID"

/-! ## E2 setup response -/

/-- An accepted RAN function. -/
def decAcceptedItem (ie : Ie Int) : Outcome UInt16 := do
  let id ← ie.read .ranFunctionIdItem .ignore
  Outcome.assert (id < maxRanFuncId) "ranFunctionID < MAX_RAN_FUNC_ID"
  return longToU16 id

/-- A rejected RAN function. -/
def decRejectedItem (ie : Ie RanFunctionIdCauseItem) : Outcome RejectedRanFunction := do
  let src ← ie.read .ranFunctionIdItem .ignore
  Outcome.assert (src.ranFunctionId < maxRanFuncId) "src->ranFunctionID < MAX_RAN_FUNC_ID"
  let cause ← src.cause.copy decRejectedCauseLimits
  return ⟨longToU16 src.ranFunctionId, cause⟩

/-- The arrays of a setup response; `none` is `NULL`. -/
structure SetupResponseArrays where
  accepted : Option (List UInt16)
  rejected : Option (List RejectedRanFunction)
  compConfigAddAck : Option (List NodeCompConfigAddAck)

/-- The body of the loop over the elements from the last to the third. -/
def decSetupResponseIe (sr : SetupResponseArrays) (ie : Ie E2SetupResponseValue) :
    Outcome SetupResponseArrays :=
  if ie.id = .ranFunctionsAccepted then do
    let value ← ie.read .ranFunctionsAccepted .reject
    match value with
    | .ranFunctionsIdList items =>
      Outcome.assert (items.length < maxNumRanFuncId) "list.count < MAX_NUM_RAN_FUNC_ID"
      Outcome.assert sr.accepted.isNone "sr->accepted == NULL"
      let accepted ← Outcome.walk decAcceptedItem items
      return { sr with accepted := some accepted }
    | _ => .abort "value.present == RANfunctionsID_List"
  else if ie.id = .ranFunctionsRejected then do
    let value ← ie.read .ranFunctionsRejected .reject
    match value with
    | .ranFunctionsIdCauseList items =>
      Outcome.assert sr.rejected.isNone "sr->rejected == NULL"
      let rejected ← Outcome.walk decRejectedItem items
      return { sr with rejected := some rejected }
    | _ => .abort "value.present == RANfunctionsIDcause_List"
  else if ie.id = .e2NodeComponentConfigAdditionAck then do
    let value ← ie.read .e2NodeComponentConfigAdditionAck .reject
    match value with
    | .configAdditionAckList items =>
      Outcome.assert (items.length < maxNumE2NodeComponents) "sz < MAX_NUM_E2_NODE_COMPONENTS"
      Outcome.assert sr.compConfigAddAck.isNone "sr->comp_config_add_ack == NULL"
      let acks ← Outcome.walk e2apDecNodeComponentConfAdditionAck items
      return { sr with compConfigAddAck := some acks }
    | _ => .abort "value.present == E2nodeComponentConfigAdditionAck_List"
  else .abort "Not implemented"

/-- `e2ap_dec_setup_response`, of a successful outcome. -/
def e2apDecSetupResponse (m : Procedure E2SetupResponseValue) : Outcome E2SetupResponse := do
  Outcome.assert (m.procedureCode = procedureCodeE2Setup) "procedureCode"
  Outcome.assert (m.criticality = .reject) "criticality"
  let ies ← Outcome.expect m.value "value.present == E2setupResponse"
  Outcome.assert (0 < ies.length && ies.length < 5) "list.count > 0 && list.count < 5"
  let transIe ← Outcome.expect ies[0]? "list.array[0]"
  let transValue ← transIe.read .transactionId .reject
  match transValue with
  | .transactionId v =>
    let transId ← decTransId v
    let ricIe ← Outcome.expect ies[1]? "list.array[1]"
    let ricValue ← ricIe.read .globalRicId .reject
    match ricValue with
    | .globalRicId v =>
      let doubleWord ← bitStringToMacroEnbId v.ricId
      let arrays ← Outcome.fold decSetupResponseIe ⟨none, none, none⟩ (ies.drop 2).reverse
      return ⟨transId, ⟨plmnidToMccMnc v.plmnIdentity, doubleWord⟩, arrays.accepted.getD [],
        arrays.rejected.getD [], arrays.compConfigAddAck.getD []⟩
    | _ => .abort "value.present == GlobalRIC_ID"
  | _ => .abort "value.present == TransactionID"

/-- The decoder `e2ap_msg_dec_asn` finds for a PDU of the setup procedure. -/
def e2apDecSetupMsg : SetupPdu → Outcome SetupMsg
  | .initiatingMessage m => do
    let sr ← e2apDecSetupRequest m
    return .request sr
  | .successfulOutcome m => do
    let sr ← e2apDecSetupResponse m
    return .response sr

end FlexRic
