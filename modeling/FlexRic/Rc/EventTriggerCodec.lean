import FlexRic.Rc.ParamCodec

/-!
# FlexRic.Rc.EventTriggerCodec

Event triggers on the wire: the generated structures, `rc_enc_event_trigger_asn` and
`rc_dec_event_trigger_asn`, and what they are made of.

* Nearly all optional fields are refused by both sides.  The encoder of format 3 neither refuses
  nor encodes the two of a change (`cpRcEvTriggerFormat3It`).
* The encoder of format 3 does not look at the number of changes, and that of a UE identifier
  change does not look at the identifier.
-/

namespace FlexRic

namespace Rc

open Outcome Codec

/-! ## Generated structures -/

/-- `MessageType_Choice_NI_t`. -/
structure MessageTypeNiAsn where
  niType : Int
  niIdentifier : Option Unread
  niMessage : Option Unread
  deriving DecidableEq, Repr

/-- `RRC_MessageID__rrcType`. -/
inductive RrcTypeAsn where
  | nothing
  | lte (v : Int)
  | nr (v : Int)
  deriving DecidableEq, Repr

/-- `MessageType_Choice_RRC_t`. -/
structure MessageTypeRrcAsn where
  rrcType : RrcTypeAsn
  messageId : Int64
  deriving DecidableEq, Repr

/-- `MessageType_Choice_t`. -/
inductive MessageTypeChoiceAsn where
  | nothing
  | ni (v : MessageTypeNiAsn)
  | rrc (v : MessageTypeRrcAsn)
  deriving DecidableEq, Repr

/-- `E2SM_RC_EventTrigger_Format1_Item_t`. -/
structure EvTrgFormat1ItemAsn where
  ricEventTriggerConditionId : Int
  messageType : MessageTypeChoiceAsn
  messageDirection : Option Unread
  associatedUeInfo : Option Unread
  logicalOr : Option Unread
  deriving DecidableEq, Repr

/-- `E2SM_RC_EventTrigger_Format1_t`. -/
structure EvTrgFormat1Asn where
  messageList : List EvTrgFormat1ItemAsn
  globalAssociatedUeInfo : Option Unread
  deriving DecidableEq, Repr

/-- `E2SM_RC_EventTrigger_Format2_t`. -/
structure EvTrgFormat2Asn where
  ricCallProcessTypeId : Int
  ricCallProcessBreakpointId : Int
  associatedE2NodeInfo : Option Unread
  associatedUeInfo : Option Unread
  deriving DecidableEq, Repr

/-- `E2SM_RC_EventTrigger_Format3_Item_t`. -/
structure EvTrgFormat3ItemAsn where
  ricEventTriggerConditionId : Int
  e2NodeInfoChangeId : Int
  associatedCellInfo : Option Unread
  logicalOr : Option Unread
  deriving DecidableEq, Repr

/-- `TriggerType_Choice_RRCstate_Item_t`. -/
structure RrcStateItemAsn where
  stateChangedTo : Int
  logicalOr : Option Unread
  deriving DecidableEq, Repr

/-- `TriggerType_Choice_t`. -/
inductive TriggerTypeAsn where
  | nothing
  | rrcState (rrcStateList : List RrcStateItemAsn)
  | ueId (ueIdChangeId : Int)
  | l2State (associatedL2Variables : List TestItemAsn)

/-- `E2SM_RC_EventTrigger_Format4_Item_t`. -/
structure EvTrgFormat4ItemAsn where
  ricEventTriggerConditionId : Int
  triggerType : TriggerTypeAsn
  associatedUeInfo : Option Unread
  logicalOr : Option Unread

/-- `E2SM_RC_EventTrigger_Format5_t`. -/
structure EvTrgFormat5Asn where
  onDemand : Int
  associatedUeInfo : Option Unread
  associatedCellInfo : Option Unread
  deriving DecidableEq, Repr

/-- `E2SM_RC_EventTrigger_t`. -/
inductive EventTriggerAsn where
  | nothing
  | format1 (f : EvTrgFormat1Asn)
  | format2 (f : EvTrgFormat2Asn)
  | format3 (e2NodeInfoChangeList : List EvTrgFormat3ItemAsn)
  | format4 (ueInfoChangeList : List EvTrgFormat4ItemAsn)
  | format5 (f : EvTrgFormat5Asn)

/-! ### Constraints -/

def RrcTypeAsn.satisfies : RrcTypeAsn → Bool
  | nothing => false
  | lte v => isEnumerated 12 v
  | nr v => isEnumerated 8 v

def MessageTypeChoiceAsn.satisfies : MessageTypeChoiceAsn → Bool
  | nothing => false
  | ni v => isEnumerated 7 v.niType
  | rrc v => v.rrcType.satisfies

def EvTrgFormat1Asn.satisfies (f : EvTrgFormat1Asn) : Bool :=
  isSequence 65535 (·.messageType.satisfies) f.messageList

def RrcStateItemAsn.satisfies (s : RrcStateItemAsn) : Bool := isEnumerated 4 s.stateChangedTo

def TriggerTypeAsn.satisfies : TriggerTypeAsn → Bool
  | nothing => false
  | rrcState ss => isSequence 8 RrcStateItemAsn.satisfies ss
  | ueId _ => true
  | l2State ts => isSequence 255 TestItemAsn.satisfies ts

def EventTriggerAsn.satisfies : EventTriggerAsn → Bool
  | nothing => false
  | format1 f => f.satisfies
  | format2 _ => true
  | format3 cs => isSequence 65535 (fun _ => true) cs
  | format4 cs => isSequence 65535 (·.triggerType.satisfies) cs
  | format5 f => isEnumerated 1 f.onDemand

/-! ## Enumerations -/

/-- `InterfaceType_t`. -/
def NetworkInterfaceType.code : NetworkInterfaceType → Int
  | ng => 0
  | xn => 1
  | f1 => 2
  | e1 => 3
  | s1 => 4
  | x2 => 5
  | w1 => 6

/-- `cp_rrc_msg_type_lte`. -/
def cpRrcMsgTypeLte : LteRrcClass → Int
  | .bcchBch => 0
  | .bcchBchMbms => 1
  | .bcchDlSch => 2
  | .bcchDlSchBr => 3
  | .bcchDlSchMbms => 4
  | .mcch => 5
  | .pcch => 6
  | .dlCcch => 7
  | .dlDcch => 8
  | .ulCcch => 9
  | .ulDcch => 10
  | .scMcch => 11

/-- `cp_rrc_msg_type_nr`. -/
def cpRrcMsgTypeNr : NrRrcClass → Int
  | .bcchBch => 0
  | .bcchDlSch => 1
  | .dlCcch => 2
  | .dlDcch => 3
  | .pcch => 4
  | .ulCcch => 5
  | .ulCcch1 => 6
  | .ulDcch => 7

/-- `RRC_State_t`. -/
def RrcStateE2smRc.code : RrcStateE2smRc → Int
  | connected => 0
  | inactive => 1
  | idle => 2
  | any => 3

/-- `dec_rrc_msg_type_lte`. -/
def decRrcMsgTypeLte : Int → Outcome LteRrcClass :=
  decEnum [.bcchBch, .bcchBchMbms, .bcchDlSch, .bcchDlSchBr, .bcchDlSchMbms, .mcch, .pcch, .dlCcch,
    .dlDcch, .ulCcch, .ulDcch, .scMcch] cpRrcMsgTypeLte

/-- `dec_rrc_msg_type_nr`. -/
def decRrcMsgTypeNr : Int → Outcome NrRrcClass :=
  decEnum [.bcchBch, .bcchDlSch, .dlCcch, .dlDcch, .pcch, .ulCcch, .ulCcch1, .ulDcch] cpRrcMsgTypeNr

/-! ## Encoders -/

/-- `cp_msg_type_ni`. -/
def cpMsgTypeNi (src : NetworkInterfaceE2rc) : Outcome MessageTypeNiAsn := do
  let niId ← encAbsent src.niId
  let niMsgId ← encAbsent src.niMsgId
  return ⟨src.niType.code, niId, niMsgId⟩

/-- The choice of `cp_msg_type_rrc`. -/
def encRrcType : RrcType → RrcTypeAsn
  | .lte c => .lte (cpRrcMsgTypeLte c)
  | .nr c => .nr (cpRrcMsgTypeNr c)

/-- `cp_msg_type_rrc`. -/
def cpMsgTypeRrc (src : RrcMsgId) : MessageTypeRrcAsn :=
  ⟨encRrcType src.type, src.rrcMsgId.toInt64⟩

/-- The choice of `cp_rc_ev_trigger_format_1_it`. -/
def encMsgType : MsgTypeEvTrg → Outcome MessageTypeChoiceAsn
  | .networkInterface net => do
    let net ← cpMsgTypeNi net
    return .ni net
  | .rrcMsg msg => return .rrc (cpMsgTypeRrc msg)

/-- `cp_rc_ev_trigger_format_1_it`. -/
def cpRcEvTriggerFormat1It (src : MsgEvTrg) : Outcome EvTrgFormat1ItemAsn := do
  let cond ← encId src.evTriggerCondId
  let msgType ← encMsgType src.msgType
  let msgDir ← encAbsent src.msgDir
  let ueInfo ← encAbsent src.assocUeInfo
  let logOr ← encAbsent src.logOr
  return ⟨cond, msgType, msgDir, ueInfo, logOr⟩

/-- `cp_rc_ev_trigger_format_1`. -/
def cpRcEvTriggerFormat1 (src : EvTrgFrmt1) : Outcome EvTrgFormat1Asn := do
  let items ← sizedWalk 65536 cpRcEvTriggerFormat1It src.msgEvTrg
  let ueInfo ← encAbsent src.globalAssocUeInfo
  return ⟨items, ueInfo⟩

/-- `cp_rc_ev_trigger_format_2`. -/
def cpRcEvTriggerFormat2 (src : EvTrgFrmt2) : Outcome EvTrgFormat2Asn := do
  let type ← encId src.callProcTypeId
  let breakpoint ← encId src.callBreakId
  let nodeInfo ← encAbsent src.assocE2NodeInfo
  let ueInfo ← encAbsent src.assocUeInfo
  return ⟨type, breakpoint, nodeInfo, ueInfo⟩

/-- The id of a change: `INTEGER (1..512, ...)`. -/
def encChangeId (id : UInt16) : Outcome Int := do
  assert (0 < id ∧ id < 513) "src->e2_node_info_chng_id > 0 && src->e2_node_info_chng_id < 512 + 1"
  return id.toNat

/-- `cp_rc_ev_trigger_format_3_it`; the optional fields are not looked at. -/
def cpRcEvTriggerFormat3It (src : E2NodeInfoChng) : Outcome EvTrgFormat3ItemAsn := do
  let cond ← encId src.evTriggerCondId
  let change ← encChangeId src.e2NodeInfoChngId
  return ⟨cond, change, none, none⟩

/-- `cp_rc_ev_trigger_format_3`. -/
def cpRcEvTriggerFormat3 (src : EvTrgFrmt3) : Outcome (List EvTrgFormat3ItemAsn) :=
  walk cpRcEvTriggerFormat3It src.e2NodeInfoChng

/-- `enc_rrc_state`. -/
def encRrcState (src : RrcState) : Outcome RrcStateItemAsn := do
  let logOr ← encAbsent src.logOr
  return ⟨src.stateChngdTo.code, logOr⟩

/-- The choice of `cp_rc_ev_trigger_format_4_it`. -/
def encTriggerType : UeInfoChngTrigger → Outcome TriggerTypeAsn
  | .rrcState states => do
    let states ← sizedWalk 9 encRrcState states
    return .rrcState states
  | .ueIdChng id => return .ueId id.toNat
  | .l2State tests => do
    let tests ← sizedWalk 256 encRanParamTest tests
    return .l2State tests

/-- `cp_rc_ev_trigger_format_4_it`. -/
def cpRcEvTriggerFormat4It (src : UeInfoChng) : Outcome EvTrgFormat4ItemAsn := do
  let cond ← encId src.evTrigCondId
  let trigger ← encTriggerType src.trigger
  let ueInfo ← encAbsent src.assocUeInfo
  let logOr ← encAbsent src.logOr
  return ⟨cond, trigger, ueInfo, logOr⟩

/-- `cp_rc_ev_trigger_format_4`. -/
def cpRcEvTriggerFormat4 (src : EvTrgFrmt4) : Outcome (List EvTrgFormat4ItemAsn) :=
  sizedWalk 65536 cpRcEvTriggerFormat4It src.ueInfoChng

/-- `cp_rc_ev_trigger_format_5`. -/
def cpRcEvTriggerFormat5 (src : EvTrgFrmt5) : Outcome EvTrgFormat5Asn := do
  let ueInfo ← encAbsent src.assocUeInfo
  let cellInfo ← encAbsent src.assocCellInfo
  return ⟨0, ueInfo, cellInfo⟩

/-- The structure of `rc_enc_event_trigger_asn`. -/
def eventTriggerPdu : EventTrigger → Outcome EventTriggerAsn
  | .frmt1 f => do
    let f ← cpRcEvTriggerFormat1 f
    return .format1 f
  | .frmt2 f => do
    let f ← cpRcEvTriggerFormat2 f
    return .format2 f
  | .frmt3 f => do
    let cs ← cpRcEvTriggerFormat3 f
    return .format3 cs
  | .frmt4 f => do
    let cs ← cpRcEvTriggerFormat4 f
    return .format4 cs
  | .frmt5 f => do
    let f ← cpRcEvTriggerFormat5 f
    return .format5 f

/-- `rc_enc_event_trigger_asn`, into 512 KiB. -/
def rcEncEventTriggerAsn {Buf : Type} (rt : Asn1c EventTriggerAsn Buf) (src : EventTrigger) :
    Outcome Buf := do
  let pdu ← eventTriggerPdu src
  encodeInto (512 * 1024) rt pdu

/-! ## Decoders -/

/-- `dec_msg_type_ni`. -/
def decMsgTypeNi (src : MessageTypeNiAsn) : Outcome NetworkInterfaceE2rc := do
  let niType ← decEnum [.ng, .xn, .f1, .e1, .s1, .x2, .w1] NetworkInterfaceType.code src.niType
  let niId ← decAbsent src.niIdentifier
  let niMsgId ← decAbsent src.niMessage
  return ⟨niType, niId, niMsgId⟩

/-- The choice of `dec_msg_type_rrc`. -/
def decRrcType : RrcTypeAsn → Outcome RrcType
  | .lte v => do
    let c ← decRrcMsgTypeLte v
    return .lte c
  | .nr v => do
    let c ← decRrcMsgTypeNr v
    return .nr c
  | .nothing => .abort "Unknown type"

/-- `dec_msg_type_rrc`. -/
def decMsgTypeRrc (src : MessageTypeRrcAsn) : Outcome RrcMsgId := do
  let type ← decRrcType src.rrcType
  return ⟨type, src.messageId.toUInt64⟩

/-- The choice of `dec_rc_ev_trigger_format_1_it`. -/
def decMsgType : MessageTypeChoiceAsn → Outcome MsgTypeEvTrg
  | .ni v => do
    let net ← decMsgTypeNi v
    return .networkInterface net
  | .rrc v => do
    let msg ← decMsgTypeRrc v
    return .rrcMsg msg
  | .nothing => .abort "Unknown type"

/-- `dec_rc_ev_trigger_format_1_it`. -/
def decRcEvTriggerFormat1It (src : EvTrgFormat1ItemAsn) : Outcome MsgEvTrg := do
  let cond ← decId src.ricEventTriggerConditionId
  let msgType ← decMsgType src.messageType
  let msgDir ← decAbsent src.messageDirection
  let ueInfo ← decAbsent src.associatedUeInfo
  let logOr ← decAbsent src.logicalOr
  return ⟨cond, msgType, msgDir, ueInfo, logOr⟩

/-- `dec_rc_ev_trigger_format_1`. -/
def decRcEvTriggerFormat1 (src : EvTrgFormat1Asn) : Outcome EvTrgFrmt1 := do
  let items ← sizedWalk 65536 decRcEvTriggerFormat1It src.messageList
  let ueInfo ← decAbsent src.globalAssociatedUeInfo
  return ⟨items, ueInfo⟩

/-- `dec_rc_ev_trigger_format_2`. -/
def decRcEvTriggerFormat2 (src : EvTrgFormat2Asn) : Outcome EvTrgFrmt2 := do
  let type ← decId src.ricCallProcessTypeId
  let breakpoint ← decId src.ricCallProcessBreakpointId
  let nodeInfo ← decAbsent src.associatedE2NodeInfo
  let ueInfo ← decAbsent src.associatedUeInfo
  return ⟨type, breakpoint, nodeInfo, ueInfo⟩

/-- The id of a change. -/
def decChangeId (id : Int) : Outcome UInt16 := do
  assert (0 < id ∧ id < 513) "src->e2NodeInfoChange_ID > 0 && src->e2NodeInfoChange_ID < 513"
  return longToU16 id

/-- `dec_e2_node_info_chng`. -/
def decE2NodeInfoChng (src : EvTrgFormat3ItemAsn) : Outcome E2NodeInfoChng := do
  let cond ← decId src.ricEventTriggerConditionId
  let change ← decChangeId src.e2NodeInfoChangeId
  let cellInfo ← decAbsent src.associatedCellInfo
  let logOr ← decAbsent src.logicalOr
  return ⟨cond, change, cellInfo, logOr⟩

/-- `dec_rc_ev_trigger_format_3`. -/
def decRcEvTriggerFormat3 (src : List EvTrgFormat3ItemAsn) : Outcome EvTrgFrmt3 := do
  let items ← sizedWalk 65536 decE2NodeInfoChng src
  return ⟨items⟩

/-- `dec_rrc_state`. -/
def decRrcState (src : RrcStateItemAsn) : Outcome RrcState := do
  let state ← decEnum [.connected, .inactive, .idle, .any] RrcStateE2smRc.code src.stateChangedTo
  let logOr ← decAbsent src.logicalOr
  return ⟨state, logOr⟩

/-- `dec_ran_param_cond_crit_def`. -/
def decRanParamCondCritDef (src : List TestItemAsn) : Outcome (List RanParamTest) :=
  sizedWalk 256 decRanParamTest src

/-- The choice of `dec_ue_info_chng`, with `dec_rrc_state_lst`. -/
def decTriggerType : TriggerTypeAsn → Outcome UeInfoChngTrigger
  | .rrcState states => do
    let states ← sizedWalk 9 decRrcState states
    return .rrcState states
  | .ueId id => return .ueIdChng (longToU16 id)
  | .l2State tests => do
    let tests ← decRanParamCondCritDef tests
    return .l2State tests
  | .nothing => .abort "Unknown type"

/-- `dec_ue_info_chng`. -/
def decUeInfoChng (src : EvTrgFormat4ItemAsn) : Outcome UeInfoChng := do
  let cond ← decId src.ricEventTriggerConditionId
  let trigger ← decTriggerType src.triggerType
  let ueInfo ← decAbsent src.associatedUeInfo
  let logOr ← decAbsent src.logicalOr
  return ⟨cond, trigger, ueInfo, logOr⟩

/-- `dec_rc_ev_trigger_format_4`. -/
def decRcEvTriggerFormat4 (src : List EvTrgFormat4ItemAsn) : Outcome EvTrgFrmt4 := do
  let items ← sizedWalk 65536 decUeInfoChng src
  return ⟨items⟩

/-- `dec_rc_ev_trigger_format_5`. -/
def decRcEvTriggerFormat5 (src : EvTrgFormat5Asn) : Outcome EvTrgFrmt5 := do
  let onDemand ← decEnum [.trueOnDemand] (fun _ => 0) src.onDemand
  let ueInfo ← decAbsent src.associatedUeInfo
  let cellInfo ← decAbsent src.associatedCellInfo
  return ⟨onDemand, ueInfo, cellInfo⟩

/-- What `rc_dec_event_trigger_asn` makes of the structure. -/
def eventTriggerOfPdu : EventTriggerAsn → Outcome EventTrigger
  | .format1 f => do
    let f ← decRcEvTriggerFormat1 f
    return .frmt1 f
  | .format2 f => do
    let f ← decRcEvTriggerFormat2 f
    return .frmt2 f
  | .format3 cs => do
    let f ← decRcEvTriggerFormat3 cs
    return .frmt3 f
  | .format4 cs => do
    let f ← decRcEvTriggerFormat4 cs
    return .frmt4 f
  | .format5 f => do
    let f ← decRcEvTriggerFormat5 f
    return .frmt5 f
  | .nothing => .abort "Unknown format"

/-- `rc_dec_event_trigger_asn`. -/
def rcDecEventTriggerAsn {Buf : Type} (rt : Asn1c EventTriggerAsn Buf) (b : Buf) :
    Outcome EventTrigger := do
  let pdu ← decodeFrom rt b
  eventTriggerOfPdu pdu

end Rc

end FlexRic
