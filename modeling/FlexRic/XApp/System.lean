import FlexRic.XApp.Tables

/-!
# FlexRic.XApp.System

An xApp between its user threads, its receiving thread, its timers and the
RIC, once it is connected.

A call of `report_sm_sync_xapp`, `rm_report_sm_sync_xapp` or
`control_sm_sync_xapp` is cut where another thread can come between: it takes
an id, it registers its timer and sends its request (the subscription in this
order, the other two in the opposite one), it waits on the condition variable
and it returns.  The receiving thread handles an answer in three steps: it
looks the procedure up, stops a timer, and signals the condition variable.

Next to the fields of `e42_xapp_t` the state keeps where each call is, which
requests are out, for which request each timer was registered, and which
answers have been received and signalled.

`step_cases` says once what an event can do.
-/

namespace FlexRic

/-! ## Requests and calls -/

/-- The calls that wait for an answer. -/
inductive SyncCall where
  | reportSm
  | rmReportSm
  | controlSm
  deriving DecidableEq, Repr

namespace SyncCall

/-- The kind of its timer. -/
def pendingEvent : SyncCall → PendingEvent
  | reportSm => .e42RicSubscriptionRequest
  | rmReportSm => .e42RicSubscriptionDeleteRequest
  | controlSm => .e42RicControlRequest

/-- After how many milliseconds its timer expires. -/
def waitMs : SyncCall → Nat
  | reportSm => 5000
  | rmReportSm => 10000
  | controlSm => 10000

/-- `e2ap_handle_e42_ric_subscription_request_xapp` registers the timer
before it sends; the other two handlers send before they register it. -/
def registersFirst : SyncCall → Bool
  | reportSm => true
  | _ => false

/-- The member `success` of what the call returns, if it returns anything. -/
def success : SyncCall → Option Bool
  | rmReportSm => none
  | _ => some true

end SyncCall

/-- A request of an xApp. -/
structure XReq where
  uid : Nat
  call : SyncCall
  id : RicGenId
  deriving DecidableEq, Repr

namespace XReq

/-- Its timer. -/
def timer (r : XReq) : PendingEventXapp := ⟨r.call.pendingEvent, r.id, r.call.waitMs⟩

/-- Its key in `act_proc`, as the handlers of its answer read it. -/
def key (r : XReq) : UInt16 := r.id.ricReqId.toUInt16

end XReq

/-- What ended a wait on the condition variable. -/
inductive Wake where
  /-- `signal_sync_ui`, for the answer of the request `uid` -/
  | signal (uid : Nat)
  /-- `ETIMEDOUT` -/
  | timedOut
  | spurious
  deriving DecidableEq, Repr

/-- Where a call is; `woken` also keeps whether its answer had been received
when the wait ended. -/
inductive Phase where
  | started
  | registered
  | sent
  | ready
  | waiting
  | woken (cause : Wake) (received : Bool)
  deriving DecidableEq, Repr

/-- A call in flight. -/
structure XCall where
  req : XReq
  phase : Phase
  deriving DecidableEq, Repr

namespace XCall

/-- Where `add_pending_event_xapp` takes the call. -/
def afterRegister (c : XCall) : Option Phase :=
  match c.phase with
  | .started => if c.req.call.registersFirst then some .registered else none
  | .sent => some .ready
  | _ => none

/-- Where `e2ap_send_bytes_xapp` takes it. -/
def afterSend (c : XCall) : Option Phase :=
  match c.phase with
  | .started => if c.req.call.registersFirst then none else some .sent
  | .registered => some .ready
  | _ => none

/-- The wait of the call is over. -/
def Woken (c : XCall) : Prop := ∃ cause received, c.phase = .woken cause received

instance (c : XCall) : Decidable c.Woken :=
  match h : c.phase with
  | .woken cause received => isTrue ⟨cause, received, h⟩
  | .started => isFalse fun ⟨_, _, h'⟩ => by simp [h] at h'
  | .registered => isFalse fun ⟨_, _, h'⟩ => by simp [h] at h'
  | .sent => isFalse fun ⟨_, _, h'⟩ => by simp [h] at h'
  | .ready => isFalse fun ⟨_, _, h'⟩ => by simp [h] at h'
  | .waiting => isFalse fun ⟨_, _, h'⟩ => by simp [h] at h'

end XCall

/-- A call that has returned. -/
structure Returned where
  req : XReq
  success : Option Bool
  cause : Wake
  received : Bool
  deriving DecidableEq, Repr

/-- Where the receiving thread is: at `epoll_wait`, before it stops the timer
`ev` for an answer, before it signals. -/
inductive Rx where
  | idle
  | found (req : XReq) (ev : PendingEventXapp)
  | stopped (req : XReq)
  deriving DecidableEq, Repr

/-- The request whose timer is still to be stopped. -/
def Rx.answering : Rx → List XReq
  | .found r _ => [r]
  | _ => []

/-- The request whose answer is being handled. -/
def Rx.handling : Rx → List XReq
  | .idle => []
  | .found r _ => [r]
  | .stopped r => [r]

/-- `sync_ui_t` without its mutex and its condition variable; the two flags
are written and never read. -/
structure SyncUi where
  flagSync : Bool
  msgAck : Bool
  deriving DecidableEq, Repr

structure XSys where
  actProc : ActProc
  pending : PendingEventXappDs
  sync : SyncUi
  /-- of `e2_event_loop_xapp` -/
  retryCount : Nat
  calls : List XCall
  /-- sent, and the answer not taken up -/
  due : List XReq
  rx : Rx
  /-- the request each timer was registered for -/
  timers : List (Fd × XReq)
  received : List Nat
  signalled : List Nat
  returned : List Returned
  nextUid : Nat
  deriving DecidableEq

namespace XSys

/-- The state `init_xapp_api` returns in: connected, the setup timer
stopped. -/
def init : XSys :=
  ⟨.init, .empty, ⟨false, false⟩, 0, [], [], .idle, [], [], [], [], 0⟩

/-! ## The functions of the source -/

/-- `valid_ran_func_id`. -/
def validRanFuncId (ranFuncId : UInt16) : Bool :=
  ranFuncId == 145 || ranFuncId == 142 || ranFuncId == 143 || ranFuncId == 144 ||
    ranFuncId == 146 || ranFuncId == 148 || ranFuncId == 2 || ranFuncId == 3

/-- `generate_ric_gen_id`. -/
def generateRicGenId (p : ActProc) (type : ActProcType) (ranFuncId : UInt16)
    (id : GlobalE2NodeId) : Outcome (RicGenId × ActProc) := do
  .assert (validRanFuncId ranFuncId) "valid_ran_func_id(ran_func_id) == true"
  let (reqId, p') := p.addActProc type ⟨0, 0, ranFuncId⟩ id
  .assert (decide (reqId < 65536)) "Overflow detected"
  return (⟨reqId, 0, ranFuncId⟩, p')

/-- `add_pending_event_xapp`; `timer` is what the system hands out. -/
def addPendingEventXapp (p : PendingEventXappDs) (ev : PendingEventXapp) (timer : Option Fd) :
    Outcome (Fd × PendingEventXappDs) := do
  .assert (decide (0 < ev.waitMs)) "ev->wait_ms > 0"
  let fd ← .expect timer "tfd != -1"
  .await (!p.left.any fun e => e.1 == fd)
  let p' ← p.addPendingEvent fd ev
  return (fd, p')

/-- What the three handlers of an answer start with: the procedure of the
answer, and the timer they are going to stop. -/
def findAnswered (p : ActProc) (r : XReq) : Outcome (PendingEventXapp × ActProc) := do
  let (rv, p') ← p.findActProc r.key
  let val ← .expect rv "ric_req_id not registered in the registry"
  return (⟨r.call.pendingEvent, val.id, 0⟩, p')

/-- What a call does to `act_proc` before it returns: a report stays. -/
def finish (p : ActProc) (r : XReq) : Outcome ActProc :=
  match r.call with
  | .reportSm => return p
  | .rmReportSm => p.rmActProc r.key
  | .controlSm => p.rmActProc r.key

/-- What the event loop does about an expired timer: the first three
expirations for a subscription make it send the setup request again. -/
def retry (retryCount : Nat) (ev : PendingEvent) : Nat :=
  match ev with
  | .e42RicSubscriptionRequest => if retryCount < 3 then retryCount + 1 else 0
  | _ => retryCount

/-! ## Events -/

inductive XEvent where
  /-- `report_sm_sync_xapp` is called -/
  | reportSm (id : GlobalE2NodeId) (ranFuncId : UInt16)
  /-- `rm_report_sm_sync_xapp` is called -/
  | rmReportSm (ricReqId : Int)
  /-- `control_sm_sync_xapp` is called -/
  | controlSm (id : GlobalE2NodeId) (ranFuncId : UInt16)
  /-- the `i`-th call registers its timer -/
  | register (i : Nat) (timer : Option Fd)
  /-- it sends its request -/
  | send (i : Nat)
  /-- it enters `pthread_cond_timedwait` -/
  | wait (i : Nat)
  /-- its wait ends with `ETIMEDOUT` -/
  | timeout (i : Nat)
  /-- its wait ends without cause -/
  | spurious (i : Nat)
  /-- it returns -/
  | ret (i : Nat)
  /-- the receiving thread takes up the `k`-th answer -/
  | recv (k : Nat)
  /-- it stops the timer -/
  | stopTimer (picks : Picks)
  /-- it signals, and the `i`-th call is the one to wake, if any waits -/
  | signal (i : Nat)
  /-- the event loop handles a timer that has expired -/
  | expired (fd : Fd)
  deriving DecidableEq

/-- A call has begun. -/
def opened (s : XSys) (actProc : ActProc) (call : SyncCall) (id : RicGenId) : XSys :=
  { s with
    actProc
    calls := s.calls ++ [⟨⟨s.nextUid, call, id⟩, .started⟩]
    nextUid := s.nextUid + 1 }

/-- The `i`-th call has moved on. -/
def setPhase (s : XSys) (i : Nat) (c : XCall) (phase : Phase) : XSys :=
  { s with calls := s.calls.set i { c with phase } }

/-- The wait of the `i`-th call is over. -/
def wake (s : XSys) (i : Nat) (c : XCall) (cause : Wake) : XSys :=
  s.setPhase i c (.woken cause (decide (c.req.uid ∈ s.received)))

/-- Some call is in `pthread_cond_timedwait`. -/
def anyWaiting (s : XSys) : Bool := s.calls.any fun c => c.phase == .waiting

/-- `signal_sync_ui`, for the answer of `r`: a call that waits is woken. -/
def signalSyncUi (s : XSys) (r : XReq) (i : Nat) : Outcome XSys := do
  let s := { s with sync := ⟨true, true⟩, rx := .idle, signalled := s.signalled ++ [r.uid] }
  if s.anyWaiting then
    let c ← .awaitSome s.calls[i]?
    .await (c.phase == .waiting)
    return s.wake i c (.signal r.uid)
  else
    return s

def step (s : XSys) : XEvent → Outcome XSys
  | .reportSm id ranFuncId => do
    let (ricId, actProc) ← generateRicGenId s.actProc .ricSubscriptionProcedureActive ranFuncId id
    return s.opened actProc .reportSm ricId
  | .rmReportSm ricReqId => do
    .assert (decide (-1 < ricReqId) && decide (ricReqId < 65536))
      "ric_req_id  > -1 && ric_req_id < 1 << 16"
    let (ans, actProc) ← s.actProc.findActProc (.ofNat ricReqId.toNat)
    let val ← .expect ans "ric_req_id not registered"
    return s.opened actProc .rmReportSm val.id
  | .controlSm id ranFuncId => do
    .assert (validRanFuncId ranFuncId) "valid_ran_func_id(ran_func_id) == true"
    let (ricId, actProc) ← generateRicGenId s.actProc .ricControlProcedureActive ranFuncId id
    return s.opened actProc .controlSm ricId
  | .register i timer => do
    let c ← .awaitSome s.calls[i]?
    let phase ← .awaitSome c.afterRegister
    let (fd, pending) ← addPendingEventXapp s.pending c.req.timer timer
    return { s.setPhase i c phase with pending, timers := s.timers ++ [(fd, c.req)] }
  | .send i => do
    let c ← .awaitSome s.calls[i]?
    let phase ← .awaitSome c.afterSend
    return { s.setPhase i c phase with due := s.due ++ [c.req] }
  | .wait i => do
    let c ← .awaitSome s.calls[i]?
    .await (c.phase == .ready)
    return s.setPhase i c .waiting
  | .timeout i => do
    let c ← .awaitSome s.calls[i]?
    .await (c.phase == .waiting)
    return s.wake i c .timedOut
  | .spurious i => do
    let c ← .awaitSome s.calls[i]?
    .await (c.phase == .waiting)
    return s.wake i c .spurious
  | .ret i => do
    let c ← .awaitSome s.calls[i]?
    match c.phase with
    | .woken cause received =>
      let actProc ← finish s.actProc c.req
      return { s with
        actProc
        calls := s.calls.eraseIdx i
        returned := s.returned ++ [⟨c.req, c.req.call.success, cause, received⟩] }
    | _ => .blocked
  | .recv k => do
    .await (s.rx == .idle)
    let r ← .awaitSome s.due[k]?
    let (ev, actProc) ← findAnswered s.actProc r
    return { s with
      actProc
      due := s.due.eraseIdx k
      rx := .found r ev
      received := s.received ++ [r.uid] }
  | .stopTimer picks =>
    match s.rx with
    | .found r ev => do
      let (fd, pending) ← s.pending.rmPendingEventEv ev picks
      return { s with pending, rx := .stopped r, timers := s.timers.filter fun t => t.1 != fd }
    | _ => .blocked
  | .signal i =>
    match s.rx with
    | .stopped r => s.signalSyncUi r i
    | _ => .blocked
  | .expired fd => do
    .await (s.rx == .idle)
    .await (s.pending.left.any fun e => e.1 == fd)
    let ev ← s.pending.findEvent fd
    return { s with retryCount := retry s.retryCount ev.ev }

end XSys

/-- A connected xApp with its threads. -/
def xappMachine : Machine XSys XSys.XEvent := ⟨XSys.init, XSys.step⟩

end FlexRic
