import FlexRic.Codec.Pdu

/-!
# FlexRic.Codec.SetupTypes

The E2 setup messages as the program holds them (`e2_setup_request_t`,
`e2_setup_response_t`), and as the structures `asn1c` generates.

Lists are arrays with their lengths.  Enumerations on the wire (`long`) are
numbers, and so are the integers of the `INTEGER_t` fields.  The satisfied
constraints (`SetupPdu.satisfies`) are those of `e42ap_v2_03.asn` that the runtime
looks at: sizes with an extension marker are open, and the octets of a string are
put out as they are.
-/

namespace FlexRic

/-! ## Messages -/

/-- `ran_function_t`. -/
structure RanFunction where
  defn : Bytes
  id : UInt16
  rev : UInt16
  oid : Bytes
  deriving DecidableEq, Repr

/-- `e2ap_node_comp_interface_type_e`. -/
inductive NodeCompInterfaceType where
  | ng | xn | e1 | f1 | w1 | s1 | x2
  deriving DecidableEq, Repr

namespace NodeCompInterfaceType

/-- The value of the enumerator, the same as that of the ASN.1 enumeration. -/
def code : NodeCompInterfaceType → Nat
  | ng => 0
  | xn => 1
  | e1 => 2
  | f1 => 3
  | w1 => 4
  | s1 => 5
  | x2 => 6

def ofCode : Nat → Option NodeCompInterfaceType
  | 0 => some ng
  | 1 => some xn
  | 2 => some e1
  | 3 => some f1
  | 4 => some w1
  | 5 => some s1
  | 6 => some x2
  | _ => none

@[simp] theorem ofCode_code (t : NodeCompInterfaceType) : ofCode t.code = some t := by
  cases t <;> rfl

theorem code_le (t : NodeCompInterfaceType) : t.code ≤ 6 := by
  cases t <;> decide

end NodeCompInterfaceType

/-- `e2ap_node_comp_id_t`: a union under the type in it.  What is in the
members of Xn and X2 is never looked at. -/
inductive NodeCompId where
  | ng (amfName : Bytes)
  | xn
  | e1 (gnbCuUpId : UInt64)
  | f1 (gnbDuId : UInt64)
  | w1 (ngEnbDuId : UInt64)
  | s1 (mmeName : Bytes)
  | x2
  deriving DecidableEq, Repr

namespace NodeCompId

def type : NodeCompId → NodeCompInterfaceType
  | ng _ => .ng
  | xn => .xn
  | e1 _ => .e1
  | f1 _ => .f1
  | w1 _ => .w1
  | s1 _ => .s1
  | x2 => .x2

/-- The union read as a `byte_array_t`, where it holds one. -/
def name? : NodeCompId → Option Bytes
  | ng n | s1 n => some n
  | _ => none

/-- The union read as a `uint64_t`, where it holds one. -/
def id? : NodeCompId → Option UInt64
  | e1 v | f1 v | w1 v => some v
  | _ => none

end NodeCompId

/-- `e2ap_node_component_config_add_t`. -/
structure NodeComponentConfigAdd where
  interfaceType : NodeCompInterfaceType
  id : NodeCompId
  request : Bytes
  response : Bytes
  deriving DecidableEq, Repr

/-- `cause_t` and `Cause_t`. -/
inductive Cause where
  | nothing
  | ricRequest (v : Nat)
  | ricService (v : Nat)
  | e2Node (v : Nat)
  | transport (v : Nat)
  | protocol (v : Nat)
  | misc (v : Nat)
  deriving DecidableEq, Repr

/-- `outcome_e2ap_node_comp_conf_ack_e`. -/
inductive NodeCompConfAckOutcome where
  | success
  | failure
  deriving DecidableEq, Repr

namespace NodeCompConfAckOutcome

def code : NodeCompConfAckOutcome → Nat
  | success => 0
  | failure => 1

def ofCode : Nat → Option NodeCompConfAckOutcome
  | 0 => some success
  | 1 => some failure
  | _ => none

@[simp] theorem ofCode_code (o : NodeCompConfAckOutcome) : ofCode o.code = some o := by
  cases o <;> rfl

theorem code_le (o : NodeCompConfAckOutcome) : o.code ≤ 1 := by
  cases o <;> decide

end NodeCompConfAckOutcome

/-- `e2ap_node_comp_config_add_ack_t`. -/
structure NodeCompConfigAddAck where
  interfaceType : NodeCompInterfaceType
  id : NodeCompId
  outcome : NodeCompConfAckOutcome
  cause : Option Cause
  deriving DecidableEq, Repr

/-- `rejected_ran_function_t`. -/
structure RejectedRanFunction where
  id : UInt16
  cause : Cause
  deriving DecidableEq, Repr

/-- `global_ric_id_t`. -/
structure GlobalRicId where
  plmn : E2apPlmn
  doubleWord : UInt32
  deriving DecidableEq, Repr

/-- `e2_setup_request_t`. -/
structure E2SetupRequest where
  transId : UInt8
  id : GlobalE2NodeId
  ranFuncItem : List RanFunction
  compConfAdd : List NodeComponentConfigAdd
  deriving DecidableEq

/-- `e2_setup_response_t`. -/
structure E2SetupResponse where
  transId : UInt8
  id : GlobalRicId
  accepted : List UInt16
  rejected : List RejectedRanFunction
  compConfigAddAck : List NodeCompConfigAddAck
  deriving DecidableEq

/-- `e2ap_msg_t`, of the setup messages. -/
inductive SetupMsg where
  | request (sr : E2SetupRequest)
  | response (sr : E2SetupResponse)
  deriving DecidableEq

/-! ## Generated structures -/

/-- `RANfunction_Item_t`. -/
structure RanFunctionItem where
  ranFunctionId : Int
  ranFunctionDefinition : Bytes
  ranFunctionRevision : Int
  ranFunctionOid : Bytes
  deriving DecidableEq

/-- `E2nodeComponentID_t`. -/
inductive E2NodeComponentId where
  | ng (amfName : Bytes)
  | xn
  | e1 (gnbCuCpId : Nat)
  | f1 (gnbDuId : Nat)
  | w1 (ngEnbDuId : Nat)
  | s1 (mmeName : Bytes)
  | x2
  deriving DecidableEq

/-- `E2nodeComponentConfigAddition_Item_t`. -/
structure ConfigAdditionItem where
  interfaceType : Nat
  componentId : E2NodeComponentId
  requestPart : Bytes
  responsePart : Bytes
  deriving DecidableEq

/-- `E2nodeComponentConfigAdditionAck_Item_t`. -/
structure ConfigAdditionAckItem where
  interfaceType : Nat
  componentId : E2NodeComponentId
  updateOutcome : Nat
  failureCause : Option Cause
  deriving DecidableEq

/-- `RANfunctionIDcause_Item_t`. -/
structure RanFunctionIdCauseItem where
  ranFunctionId : Int
  cause : Cause
  deriving DecidableEq

/-- `GlobalE2node_gNB_ID_t`. -/
structure GlobalE2NodeGnbId where
  plmnId : Bytes
  gnbId : BitString
  gnbCuUpId : Option Nat
  gnbDuId : Option Nat
  deriving DecidableEq

/-- `ENB_ID_t`. -/
inductive EnbId where
  | macroEnbId (v : BitString)
  | homeEnbId (v : BitString)
  | shortMacroEnbId (v : BitString)
  | longMacroEnbId (v : BitString)
  deriving DecidableEq

/-- `GlobalE2node_eNB_ID_t`. -/
structure GlobalE2NodeEnbId where
  plmnIdentity : Bytes
  enbId : EnbId
  deriving DecidableEq

/-- `GlobalE2node_ID_t`; nothing looks into the alternatives of the en-gNB and
the ng-eNB. -/
inductive GlobalE2NodeIdIe where
  | gNB (v : GlobalE2NodeGnbId)
  | enGnb
  | ngEnb
  | eNB (v : GlobalE2NodeEnbId)
  deriving DecidableEq

/-- `GlobalRIC_ID_t`. -/
structure GlobalRicIdIe where
  plmnIdentity : Bytes
  ricId : BitString
  deriving DecidableEq

/-- The alternatives of the elements of `E2setupRequestIEs`. -/
inductive E2SetupRequestValue where
  | transactionId (v : Int)
  | globalE2NodeId (v : GlobalE2NodeIdIe)
  | ranFunctionsList (items : List (Ie RanFunctionItem))
  | configAdditionList (items : List (Ie ConfigAdditionItem))
  deriving DecidableEq

/-- The alternatives of the elements of `E2setupResponseIEs`. -/
inductive E2SetupResponseValue where
  | transactionId (v : Int)
  | globalRicId (v : GlobalRicIdIe)
  | ranFunctionsIdList (items : List (Ie Int))
  | ranFunctionsIdCauseList (items : List (Ie RanFunctionIdCauseItem))
  | configAdditionAckList (items : List (Ie ConfigAdditionAckItem))
  deriving DecidableEq

/-- `E2AP_PDU_t`, of the setup messages. -/
abbrev SetupPdu := E2apPdu E2SetupRequestValue E2SetupResponseValue

/-! ## Constraints -/

/-- `INTEGER (0..68719476735)`. -/
def isNodeId (v : Nat) : Bool := v < 2 ^ 36

/-- `SEQUENCE (SIZE(1..n)) OF`. -/
def isListOf {V : Type} (n : Nat) (p : V → Bool) (items : List (Ie V)) : Bool :=
  1 ≤ items.length && items.length ≤ n && items.all (Ie.satisfies p)

/-- `RANfunctionID`. -/
def isRanFunctionId (v : Int) : Bool := 0 ≤ v && v ≤ 4095

def RanFunctionItem.satisfies (v : RanFunctionItem) : Bool :=
  isRanFunctionId v.ranFunctionId && (0 ≤ v.ranFunctionRevision && v.ranFunctionRevision ≤ 4095)

def Cause.satisfies : Cause → Bool
  | nothing => false
  | ricRequest v => v < 14
  | ricService v => v < 3
  | e2Node v => v < 1
  | transport v => v < 2
  | protocol v => v < 7
  | misc v => v < 4

def E2NodeComponentId.satisfies : E2NodeComponentId → Bool
  | e1 v | f1 v | w1 v => isNodeId v
  | ng _ | s1 _ | xn | x2 => true

def ConfigAdditionItem.satisfies (v : ConfigAdditionItem) : Bool :=
  v.interfaceType ≤ 6 && v.componentId.satisfies

def ConfigAdditionAckItem.satisfies (v : ConfigAdditionAckItem) : Bool :=
  v.interfaceType ≤ 6 && v.componentId.satisfies && v.updateOutcome ≤ 1 &&
    v.failureCause.all Cause.satisfies

def RanFunctionIdCauseItem.satisfies (v : RanFunctionIdCauseItem) : Bool :=
  isRanFunctionId v.ranFunctionId && v.cause.satisfies

def EnbId.satisfies : EnbId → Bool
  | macroEnbId v => v.bits = 20
  | homeEnbId v => v.bits = 28
  | shortMacroEnbId v => v.bits = 18
  | longMacroEnbId v => v.bits = 21

def GlobalE2NodeIdIe.satisfies : GlobalE2NodeIdIe → Bool
  | gNB v => v.plmnId.length = 3 && (22 ≤ v.gnbId.bits && v.gnbId.bits ≤ 32) &&
      v.gnbCuUpId.all isNodeId && v.gnbDuId.all isNodeId
  | eNB v => v.plmnIdentity.length = 3 && v.enbId.satisfies
  | enGnb | ngEnb => true

def GlobalRicIdIe.satisfies (v : GlobalRicIdIe) : Bool :=
  v.plmnIdentity.length = 3 && v.ricId.bits = 20

/-- The constraints on a value, and that it is the one its id stands for. -/
def E2SetupRequestValue.satisfies (id : ProtocolIeId) : E2SetupRequestValue → Bool
  | transactionId v => id = .transactionId && (0 ≤ v && v ≤ 255)
  | globalE2NodeId v => id = .globalE2NodeId && v.satisfies
  | ranFunctionsList items =>
    id = .ranFunctionsAdded && isListOf 256 RanFunctionItem.satisfies items
  | configAdditionList items =>
    id = .e2NodeComponentConfigAddition && isListOf 1024 ConfigAdditionItem.satisfies items

def E2SetupResponseValue.satisfies (id : ProtocolIeId) : E2SetupResponseValue → Bool
  | transactionId v => id = .transactionId && (0 ≤ v && v ≤ 255)
  | globalRicId v => id = .globalRicId && v.satisfies
  | ranFunctionsIdList items => id = .ranFunctionsAccepted && isListOf 256 isRanFunctionId items
  | ranFunctionsIdCauseList items =>
    id = .ranFunctionsRejected && isListOf 256 RanFunctionIdCauseItem.satisfies items
  | configAdditionAckList items =>
    id = .e2NodeComponentConfigAdditionAck && isListOf 1024 ConfigAdditionAckItem.satisfies items

/-- A message of the procedure whose elements satisfy their constraints. -/
def Procedure.satisfies {V : Type} (p : ProtocolIeId → V → Bool) (m : Procedure V) : Bool :=
  m.procedureCode = procedureCodeE2Setup &&
    m.value.any fun ies => ies.all fun ie => ie.satisfies (p ie.id)

/-- The PDU satisfies its constraints. -/
def SetupPdu.satisfies : SetupPdu → Bool
  | .initiatingMessage m => m.satisfies E2SetupRequestValue.satisfies
  | .successfulOutcome m => m.satisfies E2SetupResponseValue.satisfies

/-! ## Open types

Every list in a setup message has elements of one kind, under one id. -/

def E2SetupRequestValue.opened : E2SetupRequestValue → E2SetupRequestValue
  | ranFunctionsList items => ranFunctionsList (items.map (Ie.opened .ranFunctionItem))
  | configAdditionList items =>
    configAdditionList (items.map (Ie.opened .e2NodeComponentConfigAdditionItem))
  | v => v

def E2SetupResponseValue.opened : E2SetupResponseValue → E2SetupResponseValue
  | ranFunctionsIdList items => ranFunctionsIdList (items.map (Ie.opened .ranFunctionIdItem))
  | ranFunctionsIdCauseList items =>
    ranFunctionsIdCauseList (items.map (Ie.opened .ranFunctionIeCauseItem))
  | configAdditionAckList items =>
    configAdditionAckList (items.map (Ie.opened .e2NodeComponentConfigAdditionAckItem))
  | v => v

def Procedure.mapValues {V : Type} (f : V → V) (m : Procedure V) : Procedure V :=
  { m with value := m.value.map (List.map fun ie => { ie with value := ie.value.map f }) }

/-- The PDU as it is decoded. -/
def SetupPdu.opened : SetupPdu → SetupPdu
  | .initiatingMessage m => .initiatingMessage (m.mapValues E2SetupRequestValue.opened)
  | .successfulOutcome m => .successfulOutcome (m.mapValues E2SetupResponseValue.opened)

end FlexRic
