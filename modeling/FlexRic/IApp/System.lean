import FlexRic.Codec.MessageValues
import FlexRic.Codec.RicEnc
import FlexRic.IApp.MapRicId
import FlexRic.IApp.Tables
import FlexRic.Ric.System

/-!
# FlexRic.IApp.System

The iApp on top of the near-RT RIC: the E42 handlers of
`msg_handler_iapp.c`, run by the iApp's one thread, and the handlers of E2
answers and indications, run by the workers of the RIC.

A handler is cut where another thread can come in between: the subscription
handler between sending, registering and entering the mapping; the control
handler, which holds the map's write lock, between sending and entering; a
deletion between looking the mapping up and sending; the delete and control
answers between forwarding and removing the mapping.  `Pc` is where the
iApp's thread stands.

`History` records what the code does not keep: it is only written.
-/

namespace FlexRic

/-- The fields of `e42_iapp_t` the handlers use.  `forwardMutex` is whether
an indication has left `forward_mutex` locked. -/
structure E42Iapp where
  e2Nodes : List Codec.E2NodeConnected
  xapps : MapXapps
  xappId : UInt32
  map : MapRicId
  registry : SubscriptionRegistry
  forwardMutex : Bool
  deriving DecidableEq

/-- `valid_global_e2_node`: it makes the array of all nodes first. -/
def E42Iapp.validGlobalE2Node (iapp : E42Iapp) (id : GlobalE2NodeId) : Outcome Bool := do
  let nodes ← Codec.generateE2NodeArr iapp.e2Nodes
  return nodes.any fun n => eqGlobalE2NodeId n.id id

/-- `e42_ric_subscription_request_t` and `e42_ric_control_request_t`: the
sender, the E2 node and the sender's own id of the request. -/
structure E42Request where
  xappId : UInt16
  id : GlobalE2NodeId
  ricId : RicGenId
  deriving DecidableEq

/-- Where the iApp's thread stands between two of its steps. -/
inductive Pc where
  /-- waiting for the next E42 message -/
  | idle
  /-- a subscription request has been sent to the E2 node -/
  | subForwarded (m : E42Request) (newId : UInt16) (req : Req)
  /-- and entered into the registry -/
  | subRegistered (m : E42Request) (newId : UInt16) (req : Req)
  /-- a control request has been sent; the write lock of the map is held -/
  | ctrlForwarded (m : E42Request) (req : Req)
  /-- deletions on behalf of an xApp are still to be sent -/
  | deleting (xappId : UInt16) (todo : List (GlobalE2NodeId × RicGenId))
  deriving DecidableEq

/-- The handler is done once nothing is left to delete. -/
def Pc.deletingOrIdle (xappId : UInt16) : List (GlobalE2NodeId × RicGenId) → Pc
  | [] => .idle
  | todo => .deleting xappId todo

/-- The write lock of `map_ric_id` is held by the iApp's thread. -/
def Pc.locked : Pc → Bool
  | .ctrlForwarded .. => true
  | _ => false

/-- One run of an answer handler of the iApp: for which request, and to
which xApp and under which id the answer was forwarded, if it was. -/
structure Answered where
  req : Req
  ev : PendingEvent
  sentTo : Option XappRicId
  deriving DecidableEq

/-- A deletion sent to an E2 node on behalf of an xApp. -/
structure Deleted where
  xappId : UInt16
  node : GlobalE2NodeId
  id : RicGenId
  deriving DecidableEq

/-- An indication with the subscriptions alive at that moment and the xApps
it was forwarded to. -/
structure Indicated where
  node : GlobalE2NodeId
  id : RicGenId
  liveSubs : List Req
  sentTo : List UInt32
  deriving DecidableEq

structure History where
  /-- subscriptions sent to an E2 node for an xApp -/
  created : List Req
  /-- those entered into the registry -/
  registered : List Req
  /-- those whose mapping has been entered -/
  accepted : List Req
  /-- those not deleted, of xApps that have not disconnected -/
  liveSubs : List Req
  answers : List Answered
  deletes : List Deleted
  indications : List Indicated
  deriving DecidableEq

structure Sys where
  ricSys : RicSys
  iapp : E42Iapp
  pc : Pc
  hist : History
  deriving DecidableEq

namespace Sys

open RicSys (RicEvent)

def init : Sys where
  ricSys := .init
  iapp := ⟨[], .empty, 7, .empty, .init, false⟩
  pc := .idle
  hist := ⟨[], [], [], [], [], [], []⟩

/-! ## The iApp's thread -/

/-- `valid_xapp_id`. -/
def validXappId (s : Sys) (xappId : UInt16) : Bool := decide (xappId.toUInt32 ≤ s.iapp.xappId)

/-- `e2ap_handle_e42_setup_request_iapp` and the registration of the address
in the event loop.  The response lists the nodes. -/
def e42Setup (s : Sys) (info : SctpInfo) (lenRf : Nat) : Outcome Sys := do
  .await (s.pc == .idle)
  .assert (decide (0 < lenRf)) "len_rf > 0"
  let _ ← Codec.generateE2NodeArr s.iapp.e2Nodes
  let xapps ← s.iapp.xapps.addMapXappsSad s.iapp.xappId.toUInt16 info
  return { s with iapp.xapps := xapps, iapp.xappId := s.iapp.xappId + 1 }

/-- `e2ap_handle_e42_ric_subscription_request_iapp` up to the message to the
E2 node. -/
def e42Subscribe (s : Sys) (m : E42Request) (timer : Option Fd) : Outcome Sys := do
  .await (s.pc == .idle)
  if !s.validXappId m.xappId then return s
  else
    let info ← s.iapp.xapps.findMapXappsSad m.xappId
    if info.sinPort == 0 then return s
    else
      let (newId, req, ricSys) ←
        s.ricSys.fwdSubscription m.id m.ricId (some ⟨m.ricId, m.xappId⟩) timer
      return { s with
        ricSys
        pc := if newId = 0 then .idle else .subForwarded m newId req
        hist.created := s.hist.created ++ [req]
        hist.liveSubs := s.hist.liveSubs ++ [req] }

/-- The same handler: `register_subscription`. -/
def iappRegister (s : Sys) (reallocOk : Bool) : Outcome Sys :=
  match s.pc with
  | .subForwarded m newId req =>
    let (ok, registry) :=
      s.iapp.registry.register m.xappId.toUInt32 m.ricId.ranFuncId newId reallocOk
    .next { s with
      iapp.registry := registry
      pc := if ok then .subRegistered m newId req else .idle
      hist.registered := if ok then s.hist.registered ++ [req] else s.hist.registered }
  | _ => .blocked

/-- The same handler: the mapping is entered, with the new id on both sides. -/
def iappInsert (s : Sys) : Outcome Sys :=
  match s.pc with
  | .subRegistered m newId req => do
    let ricId := { m.ricId with ricReqId := newId.toUInt32 }
    let map ← MapRicId.insert s.iapp.map ⟨ricId, m.id, .subscription⟩ ⟨ricId, m.xappId⟩
    return { s with iapp.map := map, pc := .idle, hist.accepted := s.hist.accepted ++ [req] }
  | _ => .blocked

/-- `e2ap_handle_e42_ric_subscription_delete_request_iapp` up to the lookup. -/
def e42Delete (s : Sys) (xappId : UInt16) (ricId : RicGenId) : Outcome Sys := do
  .await (s.pc == .idle)
  let n ← s.iapp.map.findRicReqMapRicId ⟨ricId, xappId⟩
  .assert (n.ricReqType == .subscription) "n.ric_req_type == SUBSCRIPTION_RIC_REQUEST_TYPE"
  return { s with
    pc := .deleting xappId [(n.e2NodeId, { ricId with ricReqId := n.ricId.ricReqId })] }

/-- The message of a deletion: the end of the same handler, and
`gen_e2ap_subs_delete`. -/
def fwdDelete (s : Sys) (timer : Option Fd) : Outcome Sys :=
  match s.pc with
  | .deleting xappId ((node, id) :: todo) => do
    let (sent, ricSys) ← s.ricSys.fwdSubscriptionDelete node id timer
    return { s with
      ricSys
      pc := .deletingOrIdle xappId todo
      hist.deletes := if sent then s.hist.deletes ++ [⟨xappId, node, id⟩] else s.hist.deletes }
  | _ => .blocked

/-- `e2ap_handle_e42_ric_control_request_iapp` up to the message to the E2
node; the write lock of the map is taken before it is sent. -/
def e42Control (s : Sys) (m : E42Request) (timer : Option Fd) : Outcome Sys := do
  .await (s.pc == .idle)
  .assert (s.validXappId m.xappId) "valid_xapp_id(iapp, e42_cr->xapp_id) == true"
  .assert (← s.iapp.validGlobalE2Node m.id) "valid_global_e2_node(iapp, &e42_cr->id)"
  let (req, ricSys) ← s.ricSys.fwdControl m.id m.ricId (some ⟨m.ricId, m.xappId⟩) timer
  return { s with ricSys, pc := .ctrlForwarded m req }

/-- The same handler: `add_map_ric_id` under the lock, then the unlock. -/
def iappAdd (relock : Relock) (s : Sys) (picks : Picks) : Outcome Sys :=
  match s.pc with
  | .ctrlForwarded m req => do
    let map ← s.iapp.map.addMapRicId relock true ⟨req.id, m.id, .control⟩ ⟨m.ricId, m.xappId⟩ picks
    return { s with iapp.map := map, pc := .idle }
  | _ => .blocked

/-- The event loop at `SCTP_CONNECTION_SHUTDOWN_EVENT`: `rm_if_pending_subs`. -/
def xappDisconnect (s : Sys) (info : SctpInfo) : Outcome Sys := do
  .await (s.pc == .idle)
  let xappId ← s.iapp.xapps.findMapXappsXid info
  let subs := s.iapp.map.findAllSubsMapRicId xappId
  return { s with
    pc := .deletingOrIdle xappId (subs.map fun n => (n.e2NodeId, n.ricId))
    hist.liveSubs :=
      s.hist.liveSubs.filter fun r => !r.origin.any fun x => x.xappId == xappId }

/-! ## The workers of the RIC -/

/-- The handler of the `k`-th worker's answer is done. -/
def finish (s : Sys) (k : Nat) (w : Worker) : Outcome Sys := do
  let ricSys ← s.ricSys.step (.notified k)
  return { s with
    ricSys
    hist.liveSubs :=
      if w.ev = .subscriptionDeleteRequest then s.hist.liveSubs.filter (· != w.req)
      else s.hist.liveSubs }

/-- What the handler forwarded goes on record. -/
def record (s : Sys) (w : Worker) (sentTo : Option XappRicId) : Sys :=
  { s with hist.answers := s.hist.answers ++ [⟨w.req, w.ev, sentTo⟩] }

/-- `e2ap_handle_subscription_response_iapp` up to the message: to whom the
response `src` goes, if to anyone. -/
def routeSubscriptionResponse (iapp : E42Iapp) (src : RicGenId) : Outcome (Option XappRicId) :=
  match iapp.map.findXappMapRicId src.ricReqId.toUInt16 with
  | none => return none
  | some x =>
    if src.ranFuncId != x.ricId.ranFuncId then return none
    else if src.ricInstId != x.ricId.ricInstId then return none
    else do
      let info ← iapp.xapps.findMapXappsSad x.xappId
      if info.sinPort == 0 then return none
      else return some ⟨{ src with ricReqId := x.ricId.ricReqId }, x.xappId⟩

/-- `e2ap_handle_subscription_response_iapp`. -/
def handleSubscriptionResponse (s : Sys) (k : Nat) (w : Worker) : Outcome Sys := do
  let sentTo ← routeSubscriptionResponse s.iapp w.req.id
  (s.record w sentTo).finish k w

/-- The common part of the two handlers that forward an answer and then
remove the mapping: the checks and the message. -/
def forwardAnswer (s : Sys) (k : Nat) (w : Worker) (x : XappRicId) : Outcome Sys := do
  .assert (w.req.id.ranFuncId == x.ricId.ranFuncId) "src->ric_id.ran_func_id == x.ric_id.ran_func_id"
  .assert (w.req.id.ricInstId == x.ricId.ricInstId) "src->ric_id.ric_inst_id == x.ric_id.ric_inst_id"
  let _ ← s.iapp.xapps.findMapXappsSad x.xappId
  let ricSys ← s.ricSys.step (.lookedUp k x)
  return { s.record w (some x) with ricSys }

/-- `e2ap_handle_subscription_delete_response_iapp` up to `rm_map_ric_id`: a
missing mapping is tolerated. -/
def handleDeleteResponse (s : Sys) (k : Nat) (w : Worker) : Outcome Sys :=
  match s.iapp.map.findXappMapRicId w.req.id.ricReqId.toUInt16 with
  | none => (s.record w none).finish k w
  | some x => s.forwardAnswer k w x

/-- `e2ap_handle_e42_ric_control_ack_iapp` up to `rm_map_ric_id`: a missing
mapping ends the process. -/
def handleControlAck (s : Sys) (k : Nat) (w : Worker) : Outcome Sys := do
  let x ← .expect (s.iapp.map.findXappMapRicId w.req.id.ricReqId.toUInt16) "RIC Req Id not found!"
  s.forwardAnswer k w x

/-- The `k`-th worker notifies the iApp; it waits for the lock of the map. -/
def notify (s : Sys) (k : Nat) : Outcome Sys := do
  let w ← .awaitSome s.ricSys.workers[k]?
  .await w.found.isNone
  .await (!s.pc.locked)
  match w.ev with
  | .subscriptionRequest => s.handleSubscriptionResponse k w
  | .subscriptionDeleteRequest => s.handleDeleteResponse k w
  | .controlRequest => s.handleControlAck k w
  | _ => .blocked

/-- The end of the delete and control answer handlers: `rm_map_ric_id`. -/
def remove (s : Sys) (k : Nat) (picks : Picks) : Outcome Sys := do
  let w ← .awaitSome s.ricSys.workers[k]?
  let x ← .awaitSome w.found
  .await (!s.pc.locked)
  let map ← s.iapp.map.rmMapRicId x picks
  { s with iapp.map := map }.finish k w

/-- The blocks behind the optional `sn` and `call_process_id` of an
indication.  `memcpy` and `mv_ric_indication` copy the pointers, so that every
copy of the indication has the same ones. -/
inductive SharedParts where
  | absent
  | allocated
  | freed
  deriving DecidableEq

def SharedParts.ofIndication (ind : Codec.RicIndication) : SharedParts :=
  if ind.sn.isNone && ind.callProcessId.isNone then .absent else .allocated

/-- `e2ap_free_indication`, as far as the shared blocks go.  What C leaves
undefined, here and in a read of a freed block, counts as the end of the
process. -/
def SharedParts.free : SharedParts → Outcome SharedParts
  | .absent => .next .absent
  | .allocated => .next .freed
  | .freed => .abort "double free"

/-- `forward_indication_to_xapp`; an xApp without a port leaves
`forward_mutex` locked.  The copy is freed after it is sent. -/
def forwardIndicationToXapp (ind : Codec.RicIndication) (iapp : E42Iapp) (parts : SharedParts)
    (xappId : UInt32) : Outcome (Bool × SharedParts × E42Iapp) := do
  .await (!iapp.forwardMutex)
  let info ← iapp.xapps.findMapXappsSad xappId.toUInt16
  if info.sinPort == 0 then return (false, parts, { iapp with forwardMutex := true })
  else
    .assert (parts != .freed) "read of a freed block"
    let _ ← Codec.e2apEncIndicationAsnPdu ind
    let parts ← parts.free
    return (true, parts, iapp)

/-- The loop of `e2ap_handle_ric_indication_iapp` over the recipients; who
the indication was sent to. -/
def forwardAll (ind : Codec.RicIndication) (iapp : E42Iapp) (parts : SharedParts) :
    List UInt32 → Outcome (List UInt32 × SharedParts × E42Iapp)
  | [] => return ([], parts, iapp)
  | xappId :: rest => do
    let (sent, parts, iapp) ← forwardIndicationToXapp ind iapp parts xappId
    let (sentTo, parts, iapp) ← forwardAll ind iapp parts rest
    return (if sent then xappId :: sentTo else sentTo, parts, iapp)

/-- `e2ap_handle_ric_indication_iapp`, and the release of the indication by
the worker that has decoded it (`sctp_msg_arrived_event`). -/
def indication (s : Sys) (node : GlobalE2NodeId) (ind : Codec.RicIndication) : Outcome Sys := do
  let (sentTo, parts, iapp) ←
    forwardAll ind s.iapp (.ofIndication ind) (s.iapp.registry.recipients ind.ricId.ranFuncId)
  let _ ← parts.free
  return { s with
    iapp
    hist.indications := s.hist.indications ++ [⟨node, ind.ricId, s.hist.liveSubs, sentTo⟩] }

/-! ## Events -/

inductive Event where
  /-- the RIC, its local service and the E2 nodes -/
  | ric (e : RicEvent)
  | e42Setup (info : SctpInfo) (lenRf : Nat)
  | e42Subscribe (m : E42Request) (timer : Option Fd)
  | iappRegister (reallocOk : Bool)
  | iappInsert
  | e42Delete (xappId : UInt16) (ricId : RicGenId)
  | fwdDelete (timer : Option Fd)
  | e42Control (m : E42Request) (timer : Option Fd)
  | iappAdd (picks : Picks)
  | xappDisconnect (info : SctpInfo)
  | notify (k : Nat)
  | remove (k : Nat) (picks : Picks)
  | indication (node : GlobalE2NodeId) (ind : Codec.RicIndication)
  deriving DecidableEq

/-- The events of the RIC that the iApp has no part in. -/
def ownEvent : RicEvent → Bool
  | .fwdSubscription .. | .fwdSubscriptionDelete .. | .fwdControl .. | .lookedUp .. | .notified .. =>
    false
  | _ => true

/-- The iApp's list of E2 nodes follows that of the RIC. -/
def regE2Nodes (nodes : List Codec.E2NodeConnected) : RicEvent → List Codec.E2NodeConnected
  | .e2Setup node => nodes ++ [node]
  | .e2Shutdown node => nodes.filter fun n => !eqGlobalE2NodeId n.id node
  | _ => nodes

def step (relock : Relock) (s : Sys) : Event → Outcome Sys
  | .ric e => do
    .await (ownEvent e)
    let ricSys ← s.ricSys.step e
    return { s with ricSys, iapp.e2Nodes := regE2Nodes s.iapp.e2Nodes e }
  | .e42Setup info lenRf => s.e42Setup info lenRf
  | .e42Subscribe m timer => s.e42Subscribe m timer
  | .iappRegister reallocOk => s.iappRegister reallocOk
  | .iappInsert => s.iappInsert
  | .e42Delete xappId ricId => s.e42Delete xappId ricId
  | .fwdDelete timer => s.fwdDelete timer
  | .e42Control m timer => s.e42Control m timer
  | .iappAdd picks => s.iappAdd relock picks
  | .xappDisconnect info => s.xappDisconnect info
  | .notify k => s.notify k
  | .remove k picks => s.remove k picks
  | .indication node ind => s.indication node ind

/-! ## Pieces of worked runs -/

/-- A gNB with one component. -/
def gnbNode (nbId : UInt32) : Codec.E2NodeConnected := ⟨.gnb nbId, [⟨.ng, .ng [97], [1], [2]⟩], []⟩

/-- Two gNBs and two xApps, with the ids 7 and 8, are set up. -/
def setUp : List Event :=
  [.ric (.e2Setup (gnbNode 1)), .ric (.e2Setup (gnbNode 2)), .e42Setup ⟨36001, 1, 2⟩ 1,
    .e42Setup ⟨36002, 1, 2⟩ 1]

/-- The iApp handles a subscription request from start to end. -/
def subscribe (m : E42Request) (fd : Fd) : List Event :=
  [.e42Subscribe m (some fd), .iappRegister true, .iappInsert]

/-- An E2 node answers the `k`-th outstanding procedure, admitting action 0. -/
def answer (k : Nat) : Event := .ric (.answer k ⟨[0], 0⟩ (0, 0))

/-- A report of the subscription, with neither sequence number nor call
process id. -/
def report (id : RicGenId) : Codec.RicIndication :=
  ⟨id, 0, none, .report, [1], [2], none⟩

end Sys

/-- The near-RT RIC with its iApp, xApps and E2 nodes. -/
def iappMachine (relock : Relock) : Machine Sys Sys.Event := ⟨Sys.init, Sys.step relock⟩

end FlexRic
