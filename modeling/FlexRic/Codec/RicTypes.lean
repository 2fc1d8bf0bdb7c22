import FlexRic.Codec.SetupTypes
import FlexRic.Lib.Carries

/-!
# FlexRic.Codec.RicTypes

The subscription, indication and control messages and the messages between
iApp and xApp, as the program holds them and as `asn1c` generates them.

Each generated message has elements of its own type, but an element of one kind
is the same in all of them: here they are one type, `RicIe`, and
`MessageType.ies` says which of them a message has.  A PDU satisfies its
constraints (`RicPdu.satisfies`) where `e42ap_v2_03.asn` says so.
-/

namespace FlexRic

namespace ProtocolIeId

abbrev ranFunctionId : ProtocolIeId := 5
abbrev ricActionAdmittedItem : ProtocolIeId := 14
abbrev ricActionId : ProtocolIeId := 15
abbrev ricActionNotAdmittedItem : ProtocolIeId := 16
abbrev ricActionsAdmitted : ProtocolIeId := 17
abbrev ricActionsNotAdmitted : ProtocolIeId := 18
abbrev ricActionToBeSetupItem : ProtocolIeId := 19
abbrev ricCallProcessId : ProtocolIeId := 20
abbrev ricControlAckRequest : ProtocolIeId := 21
abbrev ricControlHeader : ProtocolIeId := 22
abbrev ricControlMessage : ProtocolIeId := 23
abbrev ricIndicationHeader : ProtocolIeId := 25
abbrev ricIndicationMessage : ProtocolIeId := 26
abbrev ricIndicationSn : ProtocolIeId := 27
abbrev ricIndicationType : ProtocolIeId := 28
abbrev ricRequestId : ProtocolIeId := 29
abbrev ricSubscriptionDetails : ProtocolIeId := 30
abbrev ricControlOutcome : ProtocolIeId := 32
abbrev xappId : ProtocolIeId := 62
abbrev e2NodesConnected : ProtocolIeId := 63

end ProtocolIeId

/-- An element whose value is turned into another. -/
def Ie.mapValue {V W : Type} (f : V → W) (ie : Ie V) : Ie W :=
  ⟨ie.id, ie.criticality, ie.value.map f⟩

namespace Codec

/-! ## Messages -/

/-- `ric_action_type_t`. -/
inductive RicActionType where
  | report
  | insert
  | policy
  deriving DecidableEq, Repr

/-- `ric_subseq_action_type_t`. -/
inductive RicSubseqActionType where
  | subsReqContinue
  | subsReqHalt
  deriving DecidableEq, Repr

/-- `ric_indication_type_e`. -/
inductive RicIndicationType where
  | report
  | insert
  deriving DecidableEq, Repr

/-- `ric_control_ack_req_t`. -/
inductive RicControlAckReq where
  | noAck
  | ack
  | nack
  deriving DecidableEq, Repr

def RicActionType.code : RicActionType → Int
  | report => 0
  | insert => 1
  | policy => 2

def RicSubseqActionType.code : RicSubseqActionType → Int
  | subsReqContinue => 0
  | subsReqHalt => 1

def RicIndicationType.code : RicIndicationType → Int
  | report => 0
  | insert => 1

def RicControlAckReq.code : RicControlAckReq → Int
  | noAck => 0
  | ack => 1
  | nack => 2

def RicActionType.ofCode (v : Int) : Option RicActionType :=
  [report, insert, policy].find? fun t => t.code = v

def RicSubseqActionType.ofCode (v : Int) : Option RicSubseqActionType :=
  [subsReqContinue, subsReqHalt].find? fun t => t.code = v

def RicIndicationType.ofCode (v : Int) : Option RicIndicationType :=
  [report, insert].find? fun t => t.code = v

def RicControlAckReq.ofCode (v : Int) : Option RicControlAckReq :=
  [noAck, ack, nack].find? fun t => t.code = v

@[simp] theorem RicActionType.ofCode_code (t : RicActionType) : ofCode t.code = some t := by
  cases t <;> rfl

@[simp] theorem RicSubseqActionType.ofCode_code (t : RicSubseqActionType) :
    ofCode t.code = some t := by
  cases t <;> rfl

@[simp] theorem RicIndicationType.ofCode_code (t : RicIndicationType) :
    ofCode t.code = some t := by
  cases t <;> rfl

@[simp] theorem RicControlAckReq.ofCode_code (t : RicControlAckReq) : ofCode t.code = some t := by
  cases t <;> rfl

/-- `ric_subsequent_action_t`. -/
structure RicSubsequentAction where
  type : RicSubseqActionType
  timeToWaitMs : Option UInt32
  deriving DecidableEq, Repr

/-- `ric_action_t`. -/
structure RicAction where
  id : UInt8
  type : RicActionType
  definition : Option Bytes
  subseqAction : Option RicSubsequentAction
  deriving DecidableEq, Repr

/-- `ric_subscription_request_t`. -/
structure RicSubscriptionRequest where
  ricId : RicGenId
  eventTrigger : Bytes
  action : List RicAction
  deriving DecidableEq, Repr

/-- `ric_action_not_admitted_t`. -/
structure RicActionNotAdmitted where
  ricActId : UInt8
  cause : Cause
  deriving DecidableEq, Repr

/-- `ric_subscription_response_t`. -/
structure RicSubscriptionResponse where
  ricId : RicGenId
  admitted : List UInt8
  notAdmitted : List RicActionNotAdmitted
  deriving DecidableEq, Repr

/-- `ric_subscription_delete_request_t` and `ric_subscription_delete_response_t`. -/
structure RicSubscriptionDelete where
  ricId : RicGenId
  deriving DecidableEq, Repr

/-- `ric_indication_t`. -/
structure RicIndication where
  ricId : RicGenId
  actionId : UInt8
  sn : Option UInt16
  type : RicIndicationType
  hdr : Bytes
  msg : Bytes
  callProcessId : Option Bytes
  deriving DecidableEq, Repr

/-- `ric_control_request_t`. -/
structure RicControlRequest where
  ricId : RicGenId
  callProcessId : Option Bytes
  hdr : Bytes
  msg : Bytes
  ackReq : Option RicControlAckReq
  deriving DecidableEq, Repr

/-- `ric_control_acknowledge_t`. -/
structure RicControlAcknowledge where
  ricId : RicGenId
  callProcessId : Option Bytes
  controlOutcome : Option Bytes
  deriving DecidableEq, Repr

/-- `e42_ric_subscription_request_t`. -/
structure E42RicSubscriptionRequest where
  xappId : UInt16
  id : GlobalE2NodeId
  sr : RicSubscriptionRequest
  deriving DecidableEq

/-- `e42_ric_subscription_delete_request_t`. -/
structure E42RicSubscriptionDeleteRequest where
  xappId : UInt16
  sdr : RicSubscriptionDelete
  deriving DecidableEq

/-- `e42_ric_control_request_t`. -/
structure E42RicControlRequest where
  xappId : UInt16
  id : GlobalE2NodeId
  ctrlReq : RicControlRequest
  deriving DecidableEq

/-- `e2_node_connected_t`. -/
structure E2NodeConnected where
  id : GlobalE2NodeId
  cca : List NodeComponentConfigAdd
  ackRf : List RanFunction
  deriving DecidableEq

/-- `e42_setup_response_t`. -/
structure E42SetupResponse where
  xappId : UInt16
  nodes : List E2NodeConnected
  deriving DecidableEq

/-- `e2ap_msg_t`, of these messages. -/
inductive RicMsg where
  | subscriptionRequest (sr : RicSubscriptionRequest)
  | subscriptionResponse (sr : RicSubscriptionResponse)
  | subscriptionDeleteRequest (dr : RicSubscriptionDelete)
  | subscriptionDeleteResponse (dr : RicSubscriptionDelete)
  | indication (ind : RicIndication)
  | controlRequest (ctrl : RicControlRequest)
  | controlAcknowledge (ctrl : RicControlAcknowledge)
  | e42SetupResponse (sr : E42SetupResponse)
  | e42SubscriptionRequest (sr : E42RicSubscriptionRequest)
  | e42SubscriptionDeleteRequest (sdr : E42RicSubscriptionDeleteRequest)
  | e42ControlRequest (ctrl : E42RicControlRequest)
  deriving DecidableEq

/-! ## Generated structures -/

/-- `RICsubsequentAction_t`; the time to wait is not a pointer. -/
structure SubsequentActionIe where
  ricSubsequentActionType : Int
  ricTimeToWait : Int
  deriving DecidableEq

/-- `RICaction_ToBeSetup_Item_t`. -/
structure ActionToBeSetupItem where
  ricActionId : Int
  ricActionType : Int
  ricActionDefinition : Option Bytes
  ricSubsequentAction : Option SubsequentActionIe
  deriving DecidableEq

/-- `RICaction_NotAdmitted_Item_t`. -/
structure ActionNotAdmittedItem where
  ricActionId : Int
  cause : Cause
  deriving DecidableEq

/-- The alternatives of the elements of `E2nodeConnected-ItemIEs`. -/
inductive NodeConnectedValue where
  | globalE2NodeId (v : GlobalE2NodeIdIe)
  | configAdditionList (items : List (Ie ConfigAdditionItem))
  | ranFunctionsList (items : List (Ie RanFunctionItem))
  deriving DecidableEq

/-- The elements that are a number. -/
inductive IntegerIe where
  | ranFunctionId
  | ricActionId
  | indicationSn
  | indicationType
  | controlAckRequest
  | xappId
  deriving DecidableEq, Repr

/-- The elements that are an octet string. -/
inductive OctetsIe where
  | callProcessId
  | controlHeader
  | controlMessage
  | controlOutcome
  | indicationHeader
  | indicationMessage
  deriving DecidableEq, Repr

/-- The alternatives of the elements of these messages. -/
inductive RicIe where
  | integer (type : IntegerIe) (v : Int)
  | octets (type : OctetsIe) (v : Bytes)
  | ricRequestId (ricRequestorId ricInstanceId : Int)
  | globalE2NodeId (v : GlobalE2NodeIdIe)
  | subscriptionDetails (ricEventTriggerDefinition : Bytes) (items : List (Ie ActionToBeSetupItem))
  | actionAdmittedList (items : List (Ie Int))
  | actionNotAdmittedList (items : List (Ie ActionNotAdmittedItem))
  | e2NodeConnectedList (items : List (Ie NodeConnectedValue))
  deriving DecidableEq

/-- Which message is present. -/
inductive MessageType where
  | ricSubscriptionRequest
  | ricSubscriptionResponse
  | ricSubscriptionDeleteRequest
  | ricSubscriptionDeleteResponse
  | ricIndication
  | ricControlRequest
  | ricControlAcknowledge
  | e42SetupResponse
  | e42RicSubscriptionRequest
  | e42RicSubscriptionDeleteRequest
  | e42RicControlRequest
  deriving DecidableEq, Repr

/-- Which kind of PDU is present. -/
inductive PduKind where
  | initiatingMessage
  | successfulOutcome
  deriving DecidableEq, Repr

/-- `E2AP_PDU_t`, of these messages. -/
structure RicPdu where
  present : PduKind
  procedureCode : Nat
  criticality : Criticality
  value : MessageType
  ies : List (Ie RicIe)
  deriving DecidableEq

/-- `ProcedureCode_id_*`. -/
@[match_pattern] abbrev procedureCodeRicControl : Nat := 4
@[match_pattern] abbrev procedureCodeRicIndication : Nat := 5
@[match_pattern] abbrev procedureCodeRicSubscription : Nat := 8
@[match_pattern] abbrev procedureCodeRicSubscriptionDelete : Nat := 9
@[match_pattern] abbrev procedureCodeE42Setup : Nat := 14
@[match_pattern] abbrev procedureCodeE42RicSubscription : Nat := 15
@[match_pattern] abbrev procedureCodeE42RicSubscriptionDelete : Nat := 16
@[match_pattern] abbrev procedureCodeE42RicControl : Nat := 17

/-! ## Constraints -/

def IntegerIe.id : IntegerIe → ProtocolIeId
  | ranFunctionId => .ranFunctionId
  | ricActionId => .ricActionId
  | indicationSn => .ricIndicationSn
  | indicationType => .ricIndicationType
  | controlAckRequest => .ricControlAckRequest
  | xappId => .xappId

/-- The greatest number the type of the element takes. -/
def IntegerIe.max : IntegerIe → Nat
  | ranFunctionId => 4095
  | ricActionId => 255
  | indicationSn => 65535
  | indicationType => 1
  | controlAckRequest => 1
  | xappId => 65535

def OctetsIe.id : OctetsIe → ProtocolIeId
  | callProcessId => .ricCallProcessId
  | controlHeader => .ricControlHeader
  | controlMessage => .ricControlMessage
  | controlOutcome => .ricControlOutcome
  | indicationHeader => .ricIndicationHeader
  | indicationMessage => .ricIndicationMessage

/-- The id an alternative stands under. -/
def RicIe.id : RicIe → ProtocolIeId
  | integer type _ => type.id
  | octets type _ => type.id
  | ricRequestId .. => .ricRequestId
  | globalE2NodeId _ => .globalE2NodeId
  | subscriptionDetails .. => .ricSubscriptionDetails
  | actionAdmittedList _ => .ricActionsAdmitted
  | actionNotAdmittedList _ => .ricActionsNotAdmitted
  | e2NodeConnectedList _ => .e2NodesConnected

/-- `INTEGER (0..max)`. -/
def inRange (max : Nat) (v : Int) : Bool := 0 ≤ v && v ≤ max

/-- `SEQUENCE (SIZE(min..max)) OF`. -/
def isSequenceOf {V : Type} (min max : Nat) (p : Ie V → Bool) (items : List (Ie V)) : Bool :=
  (min ≤ items.length && items.length ≤ max) && items.all p

def SubsequentActionIe.satisfies (v : SubsequentActionIe) : Bool :=
  inRange 1 v.ricSubsequentActionType && inRange 16 v.ricTimeToWait

def ActionToBeSetupItem.satisfies (v : ActionToBeSetupItem) : Bool :=
  inRange 255 v.ricActionId && inRange 2 v.ricActionType &&
    v.ricSubsequentAction.all SubsequentActionIe.satisfies

def ActionNotAdmittedItem.satisfies (v : ActionNotAdmittedItem) : Bool :=
  inRange 255 v.ricActionId && v.cause.satisfies

/-- The constraints on a value, and that it is the one its id stands for. -/
def NodeConnectedValue.satisfies (id : ProtocolIeId) : NodeConnectedValue → Bool
  | globalE2NodeId v => id = .globalE2NodeId && v.satisfies
  | configAdditionList items =>
    id = .e2NodeComponentConfigAddition &&
      isSequenceOf 1 1024 (Ie.satisfies ConfigAdditionItem.satisfies) items
  | ranFunctionsList items =>
    id = .ranFunctionsAdded && isSequenceOf 1 256 (Ie.satisfies RanFunctionItem.satisfies) items

def RicIe.satisfies : RicIe → Bool
  | integer type v => inRange type.max v
  | octets .. => true
  | ricRequestId requestor instance_ => inRange 65535 requestor && inRange 65535 instance_
  | globalE2NodeId v => v.satisfies
  | subscriptionDetails _ items =>
    isSequenceOf 1 16 (Ie.satisfies ActionToBeSetupItem.satisfies) items
  | actionAdmittedList items => isSequenceOf 1 16 (Ie.satisfies (inRange 255)) items
  | actionNotAdmittedList items =>
    isSequenceOf 0 16 (Ie.satisfies ActionNotAdmittedItem.satisfies) items
  | e2NodeConnectedList items =>
    isSequenceOf 0 65535 (fun ie => ie.satisfies (NodeConnectedValue.satisfies ie.id)) items

/-- The procedure a message belongs to, and the kind of PDU it comes in. -/
def MessageType.procedure : MessageType → PduKind × Nat
  | ricSubscriptionRequest => (.initiatingMessage, procedureCodeRicSubscription)
  | ricSubscriptionResponse => (.successfulOutcome, procedureCodeRicSubscription)
  | ricSubscriptionDeleteRequest => (.initiatingMessage, procedureCodeRicSubscriptionDelete)
  | ricSubscriptionDeleteResponse => (.successfulOutcome, procedureCodeRicSubscriptionDelete)
  | ricIndication => (.initiatingMessage, procedureCodeRicIndication)
  | ricControlRequest => (.initiatingMessage, procedureCodeRicControl)
  | ricControlAcknowledge => (.successfulOutcome, procedureCodeRicControl)
  | e42SetupResponse => (.successfulOutcome, procedureCodeE42Setup)
  | e42RicSubscriptionRequest => (.initiatingMessage, procedureCodeE42RicSubscription)
  | e42RicSubscriptionDeleteRequest => (.initiatingMessage, procedureCodeE42RicSubscriptionDelete)
  | e42RicControlRequest => (.initiatingMessage, procedureCodeE42RicControl)

/-- The ids in the table of the elements of a message. -/
def MessageType.ies : MessageType → List ProtocolIeId
  | ricSubscriptionRequest => [.ricRequestId, .ranFunctionId, .ricSubscriptionDetails]
  | ricSubscriptionResponse =>
    [.ricRequestId, .ranFunctionId, .ricActionsAdmitted, .ricActionsNotAdmitted]
  | ricSubscriptionDeleteRequest => [.ricRequestId, .ranFunctionId]
  | ricSubscriptionDeleteResponse => [.ricRequestId, .ranFunctionId]
  | ricIndication =>
    [.ricRequestId, .ranFunctionId, .ricActionId, .ricIndicationSn, .ricIndicationType,
      .ricIndicationHeader, .ricIndicationMessage, .ricCallProcessId]
  | ricControlRequest =>
    [.ricRequestId, .ranFunctionId, .ricCallProcessId, .ricControlHeader, .ricControlMessage,
      .ricControlAckRequest]
  | ricControlAcknowledge =>
    [.ricRequestId, .ranFunctionId, .ricCallProcessId, .ricControlOutcome]
  | e42SetupResponse => [.xappId, .e2NodesConnected]
  | e42RicSubscriptionRequest =>
    [.xappId, .globalE2NodeId, .ricRequestId, .ranFunctionId, .ricSubscriptionDetails]
  | e42RicSubscriptionDeleteRequest => [.xappId, .ricRequestId, .ranFunctionId]
  | e42RicControlRequest =>
    [.xappId, .globalE2NodeId, .ricRequestId, .ranFunctionId, .ricCallProcessId,
      .ricControlHeader, .ricControlMessage, .ricControlAckRequest]

/-- An element of the message, with the alternative of its id. -/
def MessageType.takes (type : MessageType) (ie : Ie RicIe) : Bool :=
  type.ies.contains ie.id && ie.satisfies fun v => v.id == ie.id && v.satisfies

/-- The PDU satisfies its constraints. -/
def RicPdu.satisfies (pdu : RicPdu) : Bool :=
  pdu.value.procedure == (pdu.present, pdu.procedureCode) &&
    isSequenceOf 0 65535 pdu.value.takes pdu.ies

/-! ## Open types -/

/-- The id in the table of a list inside of an element. -/
def NodeConnectedValue.opened : NodeConnectedValue → NodeConnectedValue
  | configAdditionList items =>
    configAdditionList (items.map (Ie.opened .e2NodeComponentConfigAdditionItem))
  | ranFunctionsList items => ranFunctionsList (items.map (Ie.opened .ranFunctionItem))
  | v => v

def RicIe.opened : RicIe → RicIe
  | subscriptionDetails trigger items =>
    subscriptionDetails trigger (items.map (Ie.opened .ricActionToBeSetupItem))
  | actionAdmittedList items =>
    actionAdmittedList (items.map (Ie.opened .ricActionAdmittedItem))
  | actionNotAdmittedList items =>
    actionNotAdmittedList (items.map (Ie.opened .ricActionNotAdmittedItem))
  | e2NodeConnectedList items =>
    e2NodeConnectedList (items.map (Ie.mapValue NodeConnectedValue.opened))
  | v => v

/-- The PDU as it is decoded. -/
def RicPdu.opened (pdu : RicPdu) : RicPdu :=
  { pdu with ies := pdu.ies.map (Ie.mapValue RicIe.opened) }

end Codec

end FlexRic
