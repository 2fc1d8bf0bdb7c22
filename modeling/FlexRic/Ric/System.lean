import FlexRic.Codec.RicTypes
import FlexRic.Ric.NearRic

/-!
# FlexRic.Ric.System

The near-RT RIC between its callers and the E2 nodes.

The state adds to `NearRic` what the code keeps nowhere: which E2 procedures
are outstanding (`procs`), which subscriptions the nodes hold (`subs`), and
which answers the workers of the task manager are still handling
(`workers`).  Every function that sends a request is one event, callable at
any time by the iApp or by the local service; an E2 node answers any of its
outstanding procedures in any order; timers expire.

`step_cases` says once what an event can do: open a procedure, close one,
or leave the procedures alone.  Everything about runs of the RIC rests on it.
-/

namespace FlexRic

/-- A request sent to an E2 node, with the xApp request that caused it. -/
structure Req where
  uid : Nat
  node : GlobalE2NodeId
  id : RicGenId
  type : RicReqType
  origin : Option XappRicId
  deriving DecidableEq

/-- An E2 procedure that waits for its answer. -/
structure Proc where
  req : Req
  ev : PendingEvent
  fd : Fd
  deriving DecidableEq

/-- The key under which the procedure waits in `pending`. -/
def Proc.key (p : Proc) : PendingEventRic := ⟨p.ev, p.req.id⟩

/-- The entry of its timer in `pending`. -/
def Proc.entry (p : Proc) : Fd × PendingEventRic := (p.fd, p.key)

/-- A worker with an answer whose timer it has stopped; `found` is the
mapping its iApp handler has read, for the handlers that remove it later. -/
structure Worker where
  req : Req
  ev : PendingEvent
  found : Option XappRicId
  deriving DecidableEq

/-- The request whose answer is being handled, and the kind of the answer. -/
def Worker.due (w : Worker) : Req × PendingEvent := (w.req, w.ev)

/-- Where `e2_event_loop_ric` stands: the expired timers it has looked up and
not dealt with yet, its `retry_count`, and whether it is in the `read` of
`consume_fd`. -/
structure RicLoop where
  pendingEvents : Nat
  retryCount : Nat
  reading : Bool
  deriving DecidableEq

structure RicSys where
  ric : NearRic
  /-- sent and not answered -/
  procs : List Proc
  /-- answered subscriptions that are not deleted -/
  subs : List Req
  workers : List Worker
  /-- timers that have expired and that the event loop has not looked up -/
  ready : List Fd
  loop : RicLoop
  nextUid : Nat
  deriving DecidableEq

/-- An expired timer is dealt with.  `consume_fd` reads the descriptor of the
event, which is never set and so is 0, the standard input: `readable` is
whether the `read` returns at once.  Every fourth time nothing is read. -/
def RicLoop.pendingEvent (l : RicLoop) (readable : Bool) : RicLoop :=
  if l.retryCount < 3 then ⟨l.pendingEvents - 1, l.retryCount + 1, !readable⟩
  else ⟨l.pendingEvents - 1, 0, false⟩

namespace RicSys

def init : RicSys := ⟨.init, [], [], [], [], ⟨0, 0, false⟩, 0⟩

/-- The requests in use: subscriptions at the nodes, procedures that wait
for an answer, answers that are being handled. -/
def live (s : RicSys) : List Req := s.subs ++ s.procs.map (·.req) ++ s.workers.map (·.req)

/-- The subscription a deletion is about. -/
def target (s : RicSys) (node : GlobalE2NodeId) (id : RicGenId) : Option Req :=
  s.live.find? fun r => r.type == .subscription && r.node == node && r.id == id

/-- The subscription that a deletion stands for, or a request of its own when there is none. -/
def targetReq (s : RicSys) (node : GlobalE2NodeId) (id : RicGenId) : Req :=
  (s.target node id).getD ⟨s.nextUid, node, id, .subscription, none⟩

/-! ## Events -/

inductive RicEvent where
  | e2Setup (node : Codec.E2NodeConnected)
  | e2Shutdown (node : GlobalE2NodeId)
  | fwdSubscription (node : GlobalE2NodeId) (id : RicGenId) (origin : Option XappRicId)
      (timer : Option Fd)
  | fwdSubscriptionDelete (node : GlobalE2NodeId) (id : RicGenId) (timer : Option Fd)
  | fwdControl (node : GlobalE2NodeId) (id : RicGenId) (origin : Option XappRicId)
      (timer : Option Fd)
  | reportService (node : GlobalE2NodeId) (ranFuncId : UInt16) (timer : Option Fd)
  | rmReportService (node : GlobalE2NodeId) (ranFuncId actId : UInt16) (timer : Option Fd)
  | controlService (node : GlobalE2NodeId) (ranFuncId : UInt16) (timer : Option Fd)
  /-- the `k`-th outstanding procedure is answered -/
  | answer (k : Nat) (resp : NearRic.Admission) (picks : Picks)
  /-- an answer arrives that no outstanding procedure waits for -/
  | stray (ev : PendingEvent) (id : RicGenId) (resp : NearRic.Admission) (picks : Picks)
  /-- the iApp handler of the `k`-th worker has read a mapping -/
  | lookedUp (k : Nat) (x : XappRicId)
  /-- the `k`-th worker is done -/
  | notified (k : Nat)
  /-- a timer expires and `epoll_wait` reports it -/
  | expire (fd : Fd)
  /-- the event loop looks up the `k`-th reported timer -/
  | pendEvent (k : Nat)
  /-- the event loop deals with an expired timer -/
  | pendingEvent (readable : Bool)
  /-- the standard input is readable at last -/
  | readReturns
  deriving DecidableEq

/-- A request of its own has been sent. -/
def opened (s : RicSys) (ric : NearRic) (req : Req) (ev : PendingEvent) (fd : Fd) : RicSys :=
  { s with ric, procs := s.procs ++ [⟨req, ev, fd⟩], nextUid := s.nextUid + 1 }

/-- The `k`-th procedure has been answered. -/
def answered (s : RicSys) (ric : NearRic) (k : Nat) (p : Proc) : RicSys :=
  { s with
    ric
    procs := s.procs.eraseIdx k
    subs :=
      match p.ev with
      | .subscriptionRequest => s.subs ++ [p.req]
      | .subscriptionDeleteRequest => s.subs.filter (· != p.req)
      | _ => s.subs
    workers := s.workers ++ [⟨p.req, p.ev, none⟩] }

/-- `fwd_ric_subscription_request`, with the id it returns. -/
def fwdSubscription (s : RicSys) (node : GlobalE2NodeId) (id : RicGenId)
    (origin : Option XappRicId) (timer : Option Fd) : Outcome (UInt16 × Req × RicSys) := do
  let (newId, fd, ric) ← s.ric.fwdRicSubscriptionRequest node id timer
  let req : Req := ⟨s.nextUid, node, id, .subscription, origin⟩
  return (newId, req, s.opened ric req .subscriptionRequest fd)

/-- `fwd_ric_subscription_request_delete`; whether something was sent. -/
def fwdSubscriptionDelete (s : RicSys) (node : GlobalE2NodeId) (id : RicGenId)
    (timer : Option Fd) : Outcome (Bool × RicSys) := do
  match ← s.ric.fwdRicSubscriptionRequestDelete node id timer with
  | (none, ric) => return (false, { s with ric })
  | (some fd, ric) =>
    return (true, s.opened ric (s.targetReq node id) .subscriptionDeleteRequest fd)

/-- `fwd_ric_control_request`, with the request under its new id. -/
def fwdControl (s : RicSys) (node : GlobalE2NodeId) (id : RicGenId)
    (origin : Option XappRicId) (timer : Option Fd) : Outcome (Req × RicSys) := do
  let (newId, fd, ric) ← s.ric.fwdRicControlRequest node id timer
  let req : Req := ⟨s.nextUid, node, newId, .control, origin⟩
  return (req, s.opened ric req .controlRequest fd)

def step (s : RicSys) : RicEvent → Outcome RicSys
  | .e2Setup node => return { s with ric.e2Nodes := s.ric.e2Nodes ++ [node.id] }
  | .e2Shutdown node => do
    .await (!s.loop.reading)
    return { s with ric.e2Nodes := s.ric.e2Nodes.filter fun n => !eqGlobalE2NodeId n node }
  | .fwdSubscription node id origin timer => do
    let (_, _, s') ← s.fwdSubscription node id origin timer
    return s'
  | .fwdSubscriptionDelete node id timer => do
    let (_, s') ← s.fwdSubscriptionDelete node id timer
    return s'
  | .fwdControl node id origin timer => do
    let (_, s') ← s.fwdControl node id origin timer
    return s'
  | .reportService node ranFuncId timer => do
    let (id, fd, ric) ← s.ric.reportServiceNearRic node ranFuncId timer
    return s.opened ric ⟨s.nextUid, node, id, .subscription, none⟩ .subscriptionRequest fd
  | .rmReportService node ranFuncId actId timer => do
    let (id, fd, ric) ← s.ric.rmReportServiceNearRic node ranFuncId actId timer
    return s.opened ric (s.targetReq node id) .subscriptionDeleteRequest fd
  | .controlService node ranFuncId timer => do
    let (id, fd, ric) ← s.ric.controlServiceNearRic node ranFuncId timer
    return s.opened ric ⟨s.nextUid, node, id, .control, none⟩ .controlRequest fd
  | .answer k resp picks => do
    let p ← .awaitSome s.procs[k]?
    let (_, ric) ← s.ric.handleAnswer p.ev p.req.id resp picks
    return s.answered ric k p
  | .stray ev id resp picks => do
    .await (s.procs.all fun p => p.key != ⟨ev, id⟩)
    let (_, ric) ← s.ric.handleAnswer ev id resp picks
    return { s with ric }
  | .lookedUp k x => do
    let w ← .awaitSome s.workers[k]?
    return { s with workers := s.workers.set k { w with found := some x } }
  | .notified k => do
    let _ ← .awaitSome s.workers[k]?
    return { s with workers := s.workers.eraseIdx k }
  | .expire fd => do
    .await (!s.loop.reading)
    .await (s.ric.pending.left.any fun e => e.1 == fd)
    return { s with ready := s.ready ++ [fd] }
  | .pendEvent k => do
    .await (!s.loop.reading)
    let fd ← .awaitSome s.ready[k]?
    let _ ← s.ric.pendEvent fd
    return { s with
      ready := s.ready.eraseIdx k, loop.pendingEvents := s.loop.pendingEvents + 1 }
  | .pendingEvent readable => do
    .await (!s.loop.reading)
    .await (decide (0 < s.loop.pendingEvents))
    return { s with loop := s.loop.pendingEvent readable }
  | .readReturns => do
    .await s.loop.reading
    return { s with loop.reading := false }

end RicSys

/-- The near-RT RIC with its callers and E2 nodes. -/
def ricMachine : Machine RicSys RicSys.RicEvent := ⟨RicSys.init, RicSys.step⟩

namespace RicSys

variable {s s' : RicSys} {e : RicEvent}

/-! ## What an event can do -/

/-- The request an event opens a procedure for, and of which kind. -/
inductive Opens (s : RicSys) : RicEvent → Req → PendingEvent → Prop
  | subscription (node id origin timer) :
      Opens s (.fwdSubscription node id origin timer)
        ⟨s.nextUid, node, id, .subscription, origin⟩ .subscriptionRequest
  | subscriptionDelete (node id timer)
      (notPending : ∀ e ∈ s.ric.pending.right, e.1 ≠ ⟨.subscriptionDeleteRequest, id⟩) :
      Opens s (.fwdSubscriptionDelete node id timer) (s.targetReq node id)
        .subscriptionDeleteRequest
  | control (node id origin timer) :
      Opens s (.fwdControl node id origin timer)
        ⟨s.nextUid, node, { id with ricReqId := s.ric.reqId.toUInt16.toUInt32 }, .control, origin⟩
        .controlRequest
  | report (node ranFuncId timer) :
      Opens s (.reportService node ranFuncId timer)
        ⟨s.nextUid, node, ⟨s.ric.reqId, 0, ranFuncId⟩, .subscription, none⟩ .subscriptionRequest
  | rmReport (node ranFuncId actId timer) :
      Opens s (.rmReportService node ranFuncId actId timer)
        (s.targetReq node ⟨actId.toUInt32, 0, ranFuncId⟩) .subscriptionDeleteRequest
  | controlService (node ranFuncId timer) :
      Opens s (.controlService node ranFuncId timer)
        ⟨s.nextUid, node, ⟨s.ric.reqId, 0, ranFuncId⟩, .control, none⟩ .controlRequest

/-- The procedures, subscriptions, timers and workers are as before. -/
structure Quiet (s s' : RicSys) : Prop where
  pending : s'.ric.pending = s.ric.pending
  procs : s'.procs = s.procs
  subs : s'.subs = s.subs
  nextUid : s'.nextUid = s.nextUid
  workers : s'.workers = s.workers

/-- What one event can do to the procedures. -/
inductive Effect (s : RicSys) (e : RicEvent) (s' : RicSys) : Prop
  | opened (req : Req) (ev : PendingEvent) (fd : Fd) (ric : NearRic)
      (opens : Opens s e req ev) (started : s.ric.Started fd ⟨ev, req.id⟩ ric)
      (eq : s' = s.opened ric req ev fd)
  | answered (k : Nat) (resp : NearRic.Admission) (picks : Picks) (p : Proc) (fd : Fd)
      (ric : NearRic) (event : e = .answer k resp picks) (proc : s.procs[k]? = some p)
      (stopped : s.ric.handleAnswer p.ev p.req.id resp picks = .next (fd, ric))
      (eq : s' = s.answered ric k p)
  | stray (ev : PendingEvent) (id : RicGenId) (resp : NearRic.Admission) (picks : Picks) (fd : Fd)
      (ric : NearRic) (event : e = .stray ev id resp picks)
      (notWaiting : ∀ p ∈ s.procs, p.key ≠ ⟨ev, id⟩)
      (stopped : s.ric.handleAnswer ev id resp picks = .next (fd, ric))
      (eq : s' = { s with ric })
  | lookedUp (k : Nat) (x : XappRicId) (w : Worker) (event : e = .lookedUp k x)
      (worker : s.workers[k]? = some w)
      (eq : s' = { s with workers := s.workers.set k { w with found := some x } })
  | notified (k : Nat) (w : Worker) (event : e = .notified k) (worker : s.workers[k]? = some w)
      (eq : s' = { s with workers := s.workers.eraseIdx k })
  | quiet (silent : ∀ req ev, ¬ Opens s e req ev) (quiet : Quiet s s')
      (reads : s'.loop.reading = true → s.loop.reading = true ∨
        ∃ readable, e = .pendingEvent readable ∧ s'.loop = s.loop.pendingEvent readable)

/-- A request carries its node and its id. -/
theorem targetReq_node (s : RicSys) (node : GlobalE2NodeId) (id : RicGenId) :
    (s.targetReq node id).node = node ∧ (s.targetReq node id).id = id ∧
      (s.targetReq node id).type = .subscription := by
  unfold targetReq
  cases h : s.target node id with
  | none => exact ⟨rfl, rfl, rfl⟩
  | some r =>
    have := List.find?_some h
    simp only [Bool.and_eq_true, beq_iff_eq] at this
    exact ⟨this.1.2, this.2, this.1.1⟩

/-- **What a forwarded subscription does to the RIC.** -/
theorem fwdSubscription_eq_next {node : GlobalE2NodeId} {id : RicGenId} {origin : Option XappRicId}
    {timer : Option Fd} {newId : UInt16} {req : Req}
    (h : s.fwdSubscription node id origin timer = .next (newId, req, s')) :
    req = ⟨s.nextUid, node, id, .subscription, origin⟩ ∧ newId.toUInt32 = id.ricReqId ∧
      ∃ fd ric, s.ric.Started fd ⟨.subscriptionRequest, req.id⟩ ric ∧
        s' = s.opened ric req .subscriptionRequest fd := by
  simp only [fwdSubscription, Outcome.bind_eq_next, Outcome.pure_eq, Outcome.next_inj] at h
  obtain ⟨⟨newId, fd, ric⟩, hs, heq⟩ := h
  cases heq
  obtain ⟨hst, hid, -⟩ := NearRic.fwdRicSubscriptionRequest_eq_next hs
  exact ⟨rfl, hid, fd, ric, hst, rfl⟩

/-- What a forwarded deletion does to the RIC. -/
theorem fwdSubscriptionDelete_eq_next {node : GlobalE2NodeId} {id : RicGenId}
    {timer : Option Fd} {sent : Bool}
    (h : s.fwdSubscriptionDelete node id timer = .next (sent, s')) :
    (sent = false ∧ s' = s ∧ ∃ x ∈ s.ric.pending.right, x.1 = ⟨.subscriptionDeleteRequest, id⟩) ∨
      (sent = true ∧ (∀ e ∈ s.ric.pending.right, e.1 ≠ ⟨.subscriptionDeleteRequest, id⟩) ∧
        ∃ fd ric, s.ric.Started fd ⟨.subscriptionDeleteRequest, id⟩ ric ∧
          s' = s.opened ric (s.targetReq node id) .subscriptionDeleteRequest fd) := by
  simp only [fwdSubscriptionDelete, Outcome.bind_eq_next] at h
  obtain ⟨⟨fd?, ric⟩, hs, h⟩ := h
  obtain ⟨rfl, rfl, hpending⟩ | ⟨fd, rfl, hst, -, hnot⟩ := NearRic.fwdRicSubscriptionRequestDelete_eq_next hs
  · cases h
    exact .inl ⟨rfl, rfl, hpending⟩
  · cases h
    exact .inr ⟨rfl, hnot, fd, ric, hst, rfl⟩

/-- What a forwarded control request does to the RIC. -/
theorem fwdControl_eq_next {node : GlobalE2NodeId} {id : RicGenId} {origin : Option XappRicId}
    {timer : Option Fd} {req : Req}
    (h : s.fwdControl node id origin timer = .next (req, s')) :
    req = ⟨s.nextUid, node, { id with ricReqId := s.ric.reqId.toUInt16.toUInt32 }, .control, origin⟩ ∧
      ∃ fd ric, s.ric.Started fd ⟨.controlRequest, req.id⟩ ric ∧
        s' = s.opened ric req .controlRequest fd := by
  simp only [fwdControl, Outcome.bind_eq_next, Outcome.pure_eq, Outcome.next_inj] at h
  obtain ⟨⟨newId, fd, ric⟩, hs, heq⟩ := h
  cases heq
  obtain ⟨hst, hid, -⟩ := NearRic.fwdRicControlRequest_eq_next hs
  exact ⟨by rw [hid], fd, ric, hst, rfl⟩

/-- **The effect of an event.** -/
theorem step_cases (h : s.step e = .next s') : Effect s e s' := by
  cases e with
  | e2Setup node =>
    cases h
    exact .quiet (fun _ _ ho => by cases ho) ⟨rfl, rfl, rfl, rfl, rfl⟩ .inl
  | e2Shutdown node =>
    simp only [step, Outcome.bind_eq_next, Outcome.pure_eq, Outcome.next_inj,
      Outcome.await_eq_next] at h
    obtain ⟨⟨⟩, -, rfl⟩ := h
    exact .quiet (fun _ _ ho => by cases ho) ⟨rfl, rfl, rfl, rfl, rfl⟩ .inl
  | fwdSubscription node id origin timer =>
    simp only [step, Outcome.bind_eq_next, Outcome.pure_eq, Outcome.next_inj] at h
    obtain ⟨⟨newId, req, s₁⟩, hs, rfl⟩ := h
    obtain ⟨rfl, -, fd, ric, hst, rfl⟩ := fwdSubscription_eq_next hs
    exact .opened _ _ fd ric (.subscription node id origin timer) hst rfl
  | fwdSubscriptionDelete node id timer =>
    simp only [step, Outcome.bind_eq_next, Outcome.pure_eq, Outcome.next_inj] at h
    obtain ⟨⟨sent, s₁⟩, hs, rfl⟩ := h
    obtain ⟨-, rfl, x, hx, hkey⟩ | ⟨-, hnot, fd, ric, hst, rfl⟩ := fwdSubscriptionDelete_eq_next hs
    · refine .quiet (fun req ev ho => ?_) ⟨rfl, rfl, rfl, rfl, rfl⟩ .inl
      cases ho with
      | subscriptionDelete node id timer notPending => exact notPending x hx hkey
    · refine .opened _ _ fd ric (.subscriptionDelete node id timer hnot) ?_ rfl
      rw [(targetReq_node s node id).2.1]
      exact hst
  | fwdControl node id origin timer =>
    simp only [step, Outcome.bind_eq_next, Outcome.pure_eq, Outcome.next_inj] at h
    obtain ⟨⟨req, s₁⟩, hs, rfl⟩ := h
    obtain ⟨rfl, fd, ric, hst, rfl⟩ := fwdControl_eq_next hs
    exact .opened _ _ fd ric (.control node id origin timer) hst rfl
  | reportService node ranFuncId timer =>
    simp only [step, Outcome.bind_eq_next, Outcome.pure_eq, Outcome.next_inj] at h
    obtain ⟨⟨id, fd, ric⟩, hs, rfl⟩ := h
    obtain ⟨hst, rfl, -⟩ := NearRic.reportServiceNearRic_eq_next hs
    exact .opened _ _ fd ric (.report node ranFuncId timer) hst rfl
  | rmReportService node ranFuncId actId timer =>
    simp only [step, Outcome.bind_eq_next, Outcome.pure_eq, Outcome.next_inj] at h
    obtain ⟨⟨id, fd, ric⟩, hs, rfl⟩ := h
    obtain ⟨hst, rfl, -⟩ := NearRic.rmReportServiceNearRic_eq_next hs
    refine .opened _ _ fd ric (.rmReport node ranFuncId actId timer) ?_ rfl
    rw [(targetReq_node s node _).2.1]
    exact hst
  | controlService node ranFuncId timer =>
    simp only [step, Outcome.bind_eq_next, Outcome.pure_eq, Outcome.next_inj] at h
    obtain ⟨⟨id, fd, ric⟩, hs, rfl⟩ := h
    obtain ⟨hst, rfl, -⟩ := NearRic.controlServiceNearRic_eq_next hs
    exact .opened _ _ fd ric (.controlService node ranFuncId timer) hst rfl
  | answer k resp picks =>
    simp only [step, Outcome.bind_eq_next, Outcome.pure_eq, Outcome.next_inj,
      Outcome.awaitSome_eq_next] at h
    obtain ⟨p, hp, ⟨fd, ric⟩, hs, rfl⟩ := h
    exact .answered k resp picks p fd ric rfl hp hs rfl
  | stray ev id resp picks =>
    simp only [step, Outcome.bind_eq_next, Outcome.pure_eq, Outcome.next_inj,
      Outcome.await_eq_next] at h
    obtain ⟨⟨⟩, hnot, ⟨fd, ric⟩, hs, rfl⟩ := h
    refine .stray ev id resp picks fd ric rfl (fun p hp => ?_) hs rfl
    simpa using List.all_eq_true.mp hnot p hp
  | lookedUp k x =>
    simp only [step, Outcome.bind_eq_next, Outcome.pure_eq, Outcome.next_inj,
      Outcome.awaitSome_eq_next] at h
    obtain ⟨w, hw, rfl⟩ := h
    exact .lookedUp k x w rfl hw rfl
  | notified k =>
    simp only [step, Outcome.bind_eq_next, Outcome.pure_eq, Outcome.next_inj,
      Outcome.awaitSome_eq_next] at h
    obtain ⟨w, hw, rfl⟩ := h
    exact .notified k w rfl hw rfl
  | expire fd =>
    simp only [step, Outcome.bind_eq_next, Outcome.pure_eq, Outcome.next_inj,
      Outcome.await_eq_next] at h
    obtain ⟨⟨⟩, -, ⟨⟩, -, rfl⟩ := h
    exact .quiet (fun _ _ ho => by cases ho) ⟨rfl, rfl, rfl, rfl, rfl⟩ .inl
  | pendEvent k =>
    simp only [step, Outcome.bind_eq_next, Outcome.pure_eq, Outcome.next_inj,
      Outcome.await_eq_next, Outcome.awaitSome_eq_next] at h
    obtain ⟨⟨⟩, -, fd, hfd, ev, hev, rfl⟩ := h
    exact .quiet (fun _ _ ho => by cases ho) ⟨rfl, rfl, rfl, rfl, rfl⟩ .inl
  | pendingEvent readable =>
    simp only [step, Outcome.bind_eq_next, Outcome.pure_eq, Outcome.next_inj,
      Outcome.await_eq_next] at h
    obtain ⟨⟨⟩, -, ⟨⟩, -, rfl⟩ := h
    exact .quiet (fun _ _ ho => by cases ho) ⟨rfl, rfl, rfl, rfl, rfl⟩
      fun _ => .inr ⟨readable, rfl, rfl⟩
  | readReturns =>
    simp only [step, Outcome.bind_eq_next, Outcome.pure_eq, Outcome.next_inj,
      Outcome.await_eq_next] at h
    obtain ⟨⟨⟩, -, rfl⟩ := h
    exact .quiet (fun _ _ ho => by cases ho) ⟨rfl, rfl, rfl, rfl, rfl⟩ fun hr => by cases hr

end RicSys

end FlexRic
