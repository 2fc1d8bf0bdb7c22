import FlexRic.Agent.E2Agent
import FlexRic.Lib.Machine
import Mathlib.Tactic.Ring

/-!
# FlexRic.Agent.System

The E2 agent in its process: the event loop of `e2_event_loop_agent`, the
RAN threads that call `e2_async_event_agent`, and the pipe between them.

The state adds to `E2Agent` where the loop is, how far each call of a RAN
thread has come, the notifications in the pipe, and what the code keeps
nowhere: the live subscriptions, the open setup timers, and what was pushed,
served and sent.

The pipe is a stream of bytes.  `pipe` lists the lengths of the
notifications still in it, the first one less what has been read of it; a
read takes up to four bytes, whatever notifications they belong to.

`table_cases` says once what an event can do to the table of subscriptions.
-/

namespace FlexRic

/-- Where the event loop is. -/
inductive Loop where
  /-- in `epoll_wait` -/
  | waiting
  /-- before the next event of the queue it took over -/
  | serving (e : AindEvent) (rest : List AindEvent)
  /-- in `consume_fd_async`, after an event that was `sent` or not -/
  | consuming (rest : List AindEvent) (sent : Bool)
  /-- `e2_event_loop_agent` has returned, with these events in hand -/
  | returned (rest : List AindEvent)
  /-- the process has called `exit`, with these events in hand -/
  | exited (rest : List AindEvent)
  deriving DecidableEq, Repr

namespace Loop

/-- The next position of the loop after an event. -/
def next : List AindEvent → Loop
  | [] => .waiting
  | e :: rest => .serving e rest

def hasExited : Loop → Bool
  | exited _ => true
  | _ => false

/-- The events taken over from the queue and not served. -/
def inHand : Loop → List AindEvent
  | waiting => []
  | serving e rest => e :: rest
  | consuming rest _ => rest
  | returned rest => rest
  | exited rest => rest

/-- The loop is after sending an event, or has ended because of that. -/
def sends : Loop → Bool
  | consuming _ sent => sent
  | exited _ => true
  | _ => false

/-- The loop runs, and is not about to end. -/
def running : Loop → Bool
  | waiting => true
  | serving _ _ => true
  | consuming _ sent => !sent
  | _ => false

/-- How many reads the loop will make before it waits again. -/
def reads : Loop → Nat
  | serving _ rest => rest.length + 1
  | consuming rest _ => rest.length + 1
  | _ => 0

@[simp] theorem inHand_waiting : inHand .waiting = [] := rfl

@[simp] theorem inHand_serving (e : AindEvent) (rest : List AindEvent) :
    inHand (.serving e rest) = e :: rest := rfl

@[simp] theorem inHand_consuming (rest : List AindEvent) (sent : Bool) :
    inHand (.consuming rest sent) = rest := rfl

@[simp] theorem inHand_next (evs : List AindEvent) : (next evs).inHand = evs := by
  cases evs <;> rfl

@[simp] theorem sends_next (evs : List AindEvent) : (next evs).sends = false := by
  cases evs <;> rfl

@[simp] theorem sends_consuming (rest : List AindEvent) (sent : Bool) :
    (consuming rest sent).sends = sent := rfl

@[simp] theorem running_next (evs : List AindEvent) : (next evs).running = true := by
  cases evs <;> rfl

@[simp] theorem reads_waiting : reads .waiting = 0 := rfl

@[simp] theorem reads_serving (e : AindEvent) (rest : List AindEvent) :
    reads (.serving e rest) = rest.length + 1 := rfl

@[simp] theorem reads_consuming (rest : List AindEvent) (sent : Bool) :
    reads (.consuming rest sent) = rest.length + 1 := rfl

@[simp] theorem reads_next (evs : List AindEvent) : (next evs).reads = evs.length := by
  cases evs <;> rfl

end Loop

/-- How far a call of `e2_async_event_agent` has come. -/
inductive CallPhase where
  /-- before it takes `mtx_ind_event` -/
  | looking (tries : Nat)
  /-- in the table, with the mutex; `stale` once a node was taken out since -/
  | searching (tries : Nat) (stale : Bool)
  | found (ev : AindEvent)
  | writing
  deriving DecidableEq, Repr

/-- A call of `e2_async_event_agent` by a RAN thread. -/
structure Call where
  thread : Nat
  ricReqId : UInt32
  indData : Option Nat
  phase : CallPhase
  deriving DecidableEq, Repr

namespace Call

/-- The call holds `mtx_ind_event`. -/
def searching (c : Call) : Bool :=
  match c.phase with
  | .searching .. => true
  | _ => false

/-- The call when a node is taken out of the tree: a search that goes through
it may be at that node. -/
def disturbed (c : Call) : Call :=
  match c.phase with
  | .searching tries _ => { c with phase := .searching tries true }
  | _ => c

/-- A search that is disturbed keeps its request. -/
@[simp] theorem disturbed_ricReqId (c : Call) : c.disturbed.ricReqId = c.ricReqId := by
  unfold disturbed
  split <;> rfl

/-- A search that is disturbed keeps its data. -/
@[simp] theorem disturbed_indData (c : Call) : c.disturbed.indData = c.indData := by
  unfold disturbed
  split <;> rfl

/-- A call that has found its subscription is not disturbed. -/
theorem disturbed_found (c : Call) {ev : AindEvent} :
    c.disturbed.phase = .found ev ↔ c.phase = .found ev := by
  obtain ⟨thread, ricReqId, indData, phase⟩ := c
  cases phase <;> simp [disturbed]

theorem disturbed_writing (c : Call) : c.disturbed.phase = .writing ↔ c.phase = .writing := by
  obtain ⟨thread, ricReqId, indData, phase⟩ := c
  cases phase <;> simp [disturbed]

end Call

/-- A `ric_indication_t`, without the bytes of the service model. -/
structure RicIndication where
  ricId : RicGenId
  actionId : UInt8
  deriving DecidableEq, Repr

/-- `generate_aindication`. -/
def generateAindication (ev : AindEvent) : RicIndication := ⟨ev.ricId, ev.actionId⟩

/-- `generate_indication`. -/
def generateIndication (ev : IndEvent) : RicIndication := ⟨ev.ricId, ev.actionId⟩

/-- What an agent is started with.  `init_agent_api` enters the address it
connects to into the list of connections. -/
structure AgentConfig where
  plugin : List UInt16
  initRicAddr : String
  ricAddrs : List String
  firstTimer : Fd
  known : initRicAddr ∈ ricAddrs
  firstTimer_pos : 0 < firstTimer

/-- An agent with the service models RC (3) and MAC (142). -/
def AgentConfig.local : AgentConfig where
  plugin := [3, 142]
  initRicAddr := "127.0.0.1"
  ricAddrs := ["127.0.0.1"]
  firstTimer := 8
  known := List.mem_singleton.mpr rfl
  firstTimer_pos := by decide

structure AgentSys where
  ag : E2Agent
  pipe : List Nat
  /-- the pipe was written to since `epoll_wait` last reported it -/
  edge : Bool
  loop : Loop
  calls : List Call
  /-- the subscriptions requested and not deleted, with their keys -/
  subs : List (Fd × IndEvent)
  /-- the open timers of setup requests -/
  setupTimers : List Fd
  /-- the events pushed, with the threads that did -/
  pushed : List (Nat × AindEvent)
  /-- the events the loop has served, and whether there was something to send -/
  served : List (AindEvent × Bool)
  sentInd : List RicIndication
  sentAind : List RicIndication
  deriving DecidableEq

namespace AgentSys

/-- The agent when `e2_start_agent` enters the event loop: the first setup
request is sent and its timer runs. -/
def init (cfg : AgentConfig) : AgentSys where
  ag :=
    { plugin := cfg.plugin
      timers := [cfg.firstTimer]
      closedTwice := []
      indEvent := .empty
      pending := Bimap.inserted cmpFd cmpPendingEvent .empty cfg.firstTimer .setupRequest
      aind := []
      transIdSetupReq := 1
      connectionState := .disconnected
      initRicAddr := cfg.initRicAddr
      ricConnections := cfg.ricAddrs.map (⟨·, 0⟩)
      freedAper := [] }
  pipe := []
  edge := false
  loop := .waiting
  calls := []
  subs := []
  setupTimers := [cfg.firstTimer]
  pushed := []
  served := []
  sentInd := []
  sentAind := []

/-! ## Events -/

inductive AgentEvent where
  /-- a subscription request arrives, the service model answers `ans` -/
  | subscription (sr : RicSubscriptionRequest) (ans : SubscriptionAns) (fd : Fd)
  | subscriptionDelete (id : RicGenId) (picks : Picks)
  /-- the loop sees an expired timer.  Of a subscription: `value` tells
  whether the condition matches.  Of a setup request: `newTimer` is the next
  timer, `encodes` whether the request could be encoded -/
  | timer (fd : Fd) (value : Bool) (newTimer : Fd) (encodes : Bool)
  | setupResponse (picks : Picks)
  | shutdown (fdTimer : Fd)
  /-- a RAN thread calls `e2_async_event_agent` -/
  | call (thread : Nat) (ricReqId : UInt32) (indData : Option Nat)
  /-- the `k`-th call takes `mtx_ind_event` -/
  | lock (k : Nat)
  /-- the `k`-th call ends a search of the table and lets the mutex go -/
  | look (k : Nat)
  /-- the `k`-th call pushes its event -/
  | push (k : Nat)
  /-- the `k`-th call writes its notification and returns -/
  | write (k : Nat)
  /-- the loop sees the pipe readable and takes the queue over -/
  | wake
  /-- the loop serves the next event: is there something to send? -/
  | serve (value : Bool)
  /-- the loop reads from the pipe -/
  | consume
  deriving DecidableEq

/-- The length of `snprintf("%u", ric_req_id)`. -/
def notificationLen (ricReqId : UInt32) : Nat := (Nat.toDigits 10 ricReqId.toNat).length

/-- What a pipe holds at most. -/
def pipeCapacity : Nat := 65536

/-- What is left of the notifications after a read of `n` bytes. -/
def readBytes : Nat → List Nat → List Nat
  | _, [] => []
  | n, d :: ds => if d ≤ n then readBytes (n - d) ds else (d - n) :: ds

/-- The setup timers that are still open. -/
def openTimers (ag : E2Agent) (fds : List Fd) : List Fd := fds.filter (· ∈ ag.timers)

/-- The loop sees an expired timer. -/
def timerExpired (s : AgentSys) (fd : Fd) (value : Bool) (newTimer : Fd) (encodes : Bool) :
    Outcome AgentSys :=
  match s.ag.indEventOf fd with
  | some ev =>
    .next { s with sentInd := if value then s.sentInd ++ [generateIndication ev] else s.sentInd }
  | none => do
    .assert (s.ag.pendEvent fd) "Unknown event happened!"
    let ag ← (s.ag.close fd).handlePendingEvent newTimer encodes
    return { s with ag, setupTimers := openTimers ag (newTimer :: s.setupTimers) }

/-- A call holds `mtx_ind_event`. -/
def searching (s : AgentSys) : Bool := s.calls.any Call.searching

/-- The end of a search of the `k`-th call in the table.  The loop frees nodes
without the mutex: a search under which one was freed may read it. -/
def look (s : AgentSys) (k : Nat) (c : Call) (tries : Nat) (stale : Bool) : Outcome AgentSys := do
  .assert (!stale) "a freed node of ind_event.right is read"
  match s.ag.findRicReqId c.ricReqId with
  | some ev =>
    let aind : AindEvent := ⟨ev.ricId, ev.sm, ev.actionId, c.indData⟩
    return { s with calls := s.calls.set k { c with phase := .found aind } }
  | none => do
    .assert (decide (tries + 1 < 10)) "Not found RIC Request ID"
    return { s with calls := s.calls.set k { c with phase := .looking (tries + 1) } }

/-- The calls when the loop deletes the subscription `id`: `stop_ind_event`
takes its node out of the tree without `mtx_ind_event`. -/
def callsDuring (s : AgentSys) (id : RicGenId) : List Call :=
  if s.ag.hasIndEvent id then s.calls.map Call.disturbed else s.calls

/-- The loop serves the event `e`. -/
def serve (s : AgentSys) (e : AindEvent) (rest : List AindEvent) (value : Bool) : AgentSys :=
  if e.indData = none then { s with loop := .returned (e :: rest) }
  else
    { s with
      served := s.served ++ [(e, value)]
      sentAind := if value then s.sentAind ++ [generateAindication e] else s.sentAind
      loop := .consuming rest value }

/-- `consume_fd_async` and what follows it: after an event that was sent the
process exits. -/
def consume (s : AgentSys) (rest : List AindEvent) (sent : Bool) : Outcome AgentSys := do
  .await (decide (0 < s.pipe.sum))
  .assert (min 4 s.pipe.sum != 1) "No bytes in the pipe but message in the queue! "
  return { s with pipe := readBytes 4 s.pipe, loop := if sent then .exited rest else .next rest }

def step (s : AgentSys) : AgentEvent → Outcome AgentSys
  | .subscription sr ans fd => do
    -- the entry is inserted under `mtx_ind_event`
    .await (s.loop == .waiting && !s.searching)
    let (_, entry, ag) ← s.ag.handleSubscriptionRequest sr ans fd
    return { s with ag, subs := entry :: s.subs }
  | .subscriptionDelete id picks => do
    .await (s.loop == .waiting)
    let (_, ag) ← s.ag.handleSubscriptionDeleteRequest id picks
    return { s with
      ag
      calls := s.callsDuring id
      subs := s.subs.filter fun p => p.2.ricId != id }
  | .timer fd value newTimer encodes => do
    .await (s.loop == .waiting && s.ag.timers.contains fd)
    s.timerExpired fd value newTimer encodes
  | .setupResponse picks => do
    .await (s.loop == .waiting)
    let ag ← s.ag.handleSetupResponse picks
    return { s with ag, setupTimers := openTimers ag s.setupTimers }
  | .shutdown fdTimer => do
    .await (s.loop == .waiting)
    let ag ← s.ag.handleConnectionShutdown fdTimer
    return { s with ag, setupTimers := openTimers ag (fdTimer :: s.setupTimers) }
  | .call thread ricReqId indData => do
    .await (!s.loop.hasExited && s.calls.all fun c => c.thread != thread)
    return { s with calls := s.calls ++ [⟨thread, ricReqId, indData, .looking 0⟩] }
  | .lock k => do
    .await (!s.loop.hasExited && !s.searching)
    match s.calls[k]? with
    | some c@⟨_, _, _, .looking tries⟩ =>
      return { s with calls := s.calls.set k { c with phase := .searching tries false } }
    | _ => .blocked
  | .look k => do
    .await (!s.loop.hasExited)
    match s.calls[k]? with
    | some c@⟨_, _, _, .searching tries stale⟩ => s.look k c tries stale
    | _ => .blocked
  | .push k => do
    .await (!s.loop.hasExited)
    match s.calls[k]? with
    | some c@⟨_, _, _, .found ev⟩ =>
      return { s with
        ag.aind := s.ag.aind ++ [ev]
        calls := s.calls.set k { c with phase := .writing }
        pushed := s.pushed ++ [(c.thread, ev)] }
    | _ => .blocked
  | .write k => do
    .await (!s.loop.hasExited)
    match s.calls[k]? with
    | some ⟨_, ricReqId, _, .writing⟩ => do
      .await (decide (s.pipe.sum + notificationLen ricReqId ≤ pipeCapacity))
      return { s with
        pipe := s.pipe ++ [notificationLen ricReqId]
        edge := true
        calls := s.calls.eraseIdx k }
    | _ => .blocked
  | .wake => do
    .await (s.loop == .waiting && s.edge && decide (0 < s.pipe.sum))
    .assert (!s.ag.aind.isEmpty) "Aperiodic Event detected but the queue is empty!"
    return { s with ag.aind := [], loop := .next s.ag.aind, edge := false }
  | .serve value =>
    match s.loop with
    | .serving e rest => .next (s.serve e rest value)
    | _ => .blocked
  | .consume =>
    match s.loop with
    | .consuming rest sent => s.consume rest sent
    | _ => .blocked

end AgentSys

/-- The E2 agent in its process. -/
def agentMachine (cfg : AgentConfig) : Machine AgentSys AgentSys.AgentEvent :=
  ⟨AgentSys.init cfg, AgentSys.step⟩

namespace AgentSys

variable {s s' : AgentSys} {e : AgentEvent}

/-! ## What an event can do to the tables -/

/-- The tables, the timers and the connections are as before. -/
structure SameTables (s s' : AgentSys) : Prop where
  indEvent : s'.ag.indEvent = s.ag.indEvent
  pending : s'.ag.pending = s.ag.pending
  timers : s'.ag.timers = s.ag.timers
  closedTwice : s'.ag.closedTwice = s.ag.closedTwice
  initRicAddr : s'.ag.initRicAddr = s.ag.initRicAddr
  ricConnections : s'.ag.ricConnections = s.ag.ricConnections
  transIdSetupReq : s'.ag.transIdSetupReq = s.ag.transIdSetupReq
  subs : s'.subs = s.subs
  setupTimers : s'.setupTimers = s.setupTimers

/-- What one event can do to the table of subscriptions and to the setup
timer. -/
inductive TableEffect (s : AgentSys) (e : AgentEvent) (s' : AgentSys) : Prop
  | registered (sr : RicSubscriptionRequest) (ans : SubscriptionAns) (fd key : Fd) (ev : IndEvent)
      (ag : E2Agent) (event : e = .subscription sr ans fd)
      (registered : s.ag.Registered fd key ev ag) (id : ev.ricId = sr.ricId)
      (eq : s' = { s with ag, subs := (key, ev) :: s.subs })
  | notFound (id : RicGenId) (picks : Picks) (event : e = .subscriptionDelete id picks)
      (absent : ∀ x ∈ s.ag.indEvent.right, x.1.ricId ≠ id)
      (eq : s' = { s with subs := s.subs.filter fun p => p.2.ricId != id })
  | stopped (id : RicGenId) (picks : Picks) (key : Fd) (ag : E2Agent)
      (event : e = .subscriptionDelete id picks) (stopped : s.ag.Stopped id picks key ag)
      (eq : s' =
        { s with
          ag
          calls := s.calls.map Call.disturbed
          subs := s.subs.filter fun p => p.2.ricId != id })
  | expired (fd : Fd) (value : Bool) (newTimer : Fd) (encodes : Bool) (ag : E2Agent)
      (event : e = .timer fd value newTimer encodes) (isOpen : fd ∈ s.ag.timers)
      (notInd : s.ag.indEventOf fd = none) (pend : s.ag.pendEvent fd = true)
      (handled : (s.ag.close fd).handlePendingEvent newTimer encodes = .next ag)
      (eq : s' = { s with ag, setupTimers := openTimers ag (newTimer :: s.setupTimers) })
  | setUp (picks : Picks) (ag : E2Agent) (event : e = .setupResponse picks)
      (handled : s.ag.handleSetupResponse picks = .next ag)
      (eq : s' = { s with ag, setupTimers := openTimers ag s.setupTimers })
  | shutDown (fdTimer : Fd) (ag : E2Agent) (event : e = .shutdown fdTimer)
      (handled : s.ag.handleConnectionShutdown fdTimer = .next ag)
      (eq : s' = { s with ag, setupTimers := openTimers ag (fdTimer :: s.setupTimers) })
  | quiet (same : SameTables s s')

/-- The end of a search: nothing was freed under it, and the call has found the
subscription or tries again. -/
theorem look_eq_next {k tries : Nat} {stale : Bool} {c : Call}
    (h : s.look k c tries stale = .next s') :
    stale = false ∧
      ((∃ ev, s.ag.findRicReqId c.ricReqId = some ev ∧
        s' = { s with
          calls := s.calls.set k
            { c with phase := .found ⟨ev.ricId, ev.sm, ev.actionId, c.indData⟩ } }) ∨
      (s.ag.findRicReqId c.ricReqId = none ∧ tries + 1 < 10 ∧
        s' = { s with calls := s.calls.set k { c with phase := .looking (tries + 1) } })) := by
  simp only [look, Outcome.bind_eq_next, Outcome.assert_eq_next, Bool.not_eq_true'] at h
  obtain ⟨⟨⟩, hstale, h⟩ := h
  refine ⟨hstale, ?_⟩
  split at h
  · rename_i ev hev
    cases h
    exact .inl ⟨ev, hev, rfl⟩
  · rename_i hnone
    simp only [Outcome.bind_eq_next, Outcome.assert_eq_next, decide_eq_true_eq, Outcome.pure_eq,
      Outcome.next_inj] at h
    obtain ⟨⟨⟩, htries, rfl⟩ := h
    exact .inr ⟨hnone, htries, rfl⟩

/-- **The loop reads four octets off the pipe**, or as many as there are, but not one. -/
theorem consume_eq_next {rest : List AindEvent} {sent : Bool} (h : s.consume rest sent = .next s') :
    0 < s.pipe.sum ∧ min 4 s.pipe.sum ≠ 1 ∧
      s' = { s with pipe := readBytes 4 s.pipe, loop := if sent then .exited rest else .next rest } := by
  simp only [consume, Outcome.bind_eq_next, Outcome.await_eq_next, Outcome.assert_eq_next,
    Outcome.pure_eq, Outcome.next_inj, decide_eq_true_eq, bne_iff_ne] at h
  obtain ⟨⟨⟩, hpos, ⟨⟩, hne, rfl⟩ := h
  exact ⟨hpos, hne, rfl⟩

/-- **The effect of an event on the tables.** -/
theorem table_cases (h : s.step e = .next s') : TableEffect s e s' := by
  cases e with
  | subscription sr ans fd =>
    simp only [step, Outcome.bind_eq_next, Outcome.pure_eq, Outcome.next_inj] at h
    obtain ⟨⟨⟩, -, ⟨resp, ⟨key, ev⟩, ag⟩, hh, rfl⟩ := h
    obtain ⟨hreg, hid, -⟩ := E2Agent.handleSubscriptionRequest_eq_next hh
    exact .registered sr ans fd key ev ag rfl hreg hid rfl
  | subscriptionDelete id picks =>
    simp only [step, E2Agent.handleSubscriptionDeleteRequest, Outcome.bind_eq_next,
      Outcome.pure_eq, Outcome.next_inj] at h
    obtain ⟨⟨⟩, -, ⟨resp, ag⟩, ⟨⟨found, ag₁⟩, hs, heq⟩, rfl⟩ := h
    cases heq
    obtain ⟨-, rfl, habsent⟩ | ⟨-, key, hst⟩ := E2Agent.stopIndEvent_eq_next hs
    · have hnot : ¬ s.ag.hasIndEvent id = true := fun h => by
        obtain ⟨x, hx, hid⟩ := E2Agent.hasIndEvent_iff.mp h
        exact habsent x hx hid
      exact .notFound id picks rfl habsent (by rw [callsDuring, if_neg hnot])
    · refine .stopped id picks key ag₁ rfl hst ?_
      rw [callsDuring, if_pos hst.hasIndEvent]
  | timer fd value newTimer encodes =>
    simp only [step, timerExpired, Outcome.bind_eq_next, Outcome.await_eq_next, Bool.and_eq_true,
      List.contains_eq_mem, decide_eq_true_eq] at h
    obtain ⟨⟨⟩, ⟨-, hopen⟩, h⟩ := h
    split at h
    · cases h
      exact .quiet (by constructor <;> rfl)
    · rename_i hind
      simp only [Outcome.bind_eq_next, Outcome.assert_eq_next, Outcome.pure_eq,
        Outcome.next_inj] at h
      obtain ⟨⟨⟩, hpend, ag, hh, rfl⟩ := h
      exact .expired fd value newTimer encodes ag rfl hopen hind hpend hh rfl
  | setupResponse picks =>
    simp only [step, Outcome.bind_eq_next, Outcome.pure_eq, Outcome.next_inj] at h
    obtain ⟨⟨⟩, -, ag, hh, rfl⟩ := h
    exact .setUp picks ag rfl hh rfl
  | shutdown fdTimer =>
    simp only [step, Outcome.bind_eq_next, Outcome.pure_eq, Outcome.next_inj] at h
    obtain ⟨⟨⟩, -, ag, hh, rfl⟩ := h
    exact .shutDown fdTimer ag rfl hh rfl
  | call thread ricReqId indData =>
    simp only [step, Outcome.bind_eq_next, Outcome.pure_eq, Outcome.next_inj] at h
    obtain ⟨⟨⟩, -, rfl⟩ := h
    exact .quiet (by constructor <;> rfl)
  | lock k =>
    simp only [step, Outcome.bind_eq_next] at h
    obtain ⟨⟨⟩, -, h⟩ := h
    split at h
    · cases h
      exact .quiet (by constructor <;> rfl)
    · contradiction
  | look k =>
    simp only [step, Outcome.bind_eq_next] at h
    obtain ⟨⟨⟩, -, h⟩ := h
    split at h
    · obtain ⟨-, ⟨ev, -, rfl⟩ | ⟨-, -, rfl⟩⟩ := look_eq_next h
      all_goals exact .quiet (by constructor <;> rfl)
    · contradiction
  | push k =>
    simp only [step, Outcome.bind_eq_next] at h
    obtain ⟨⟨⟩, -, h⟩ := h
    split at h
    · cases h
      exact .quiet (by constructor <;> rfl)
    · contradiction
  | write k =>
    simp only [step, Outcome.bind_eq_next] at h
    obtain ⟨⟨⟩, -, h⟩ := h
    split at h
    · simp only [Outcome.bind_eq_next, Outcome.pure_eq, Outcome.next_inj] at h
      obtain ⟨⟨⟩, -, rfl⟩ := h
      exact .quiet (by constructor <;> rfl)
    · contradiction
  | wake =>
    simp only [step, Outcome.bind_eq_next, Outcome.pure_eq, Outcome.next_inj] at h
    obtain ⟨⟨⟩, -, ⟨⟩, -, rfl⟩ := h
    exact .quiet (by constructor <;> rfl)
  | serve value =>
    simp only [step] at h
    split at h
    · cases h
      unfold serve
      split <;> exact .quiet (by constructor <;> rfl)
    · contradiction
  | consume =>
    simp only [step] at h
    split at h
    · obtain ⟨-, -, rfl⟩ := consume_eq_next h
      exact .quiet (by constructor <;> rfl)
    · contradiction

end AgentSys

end FlexRic
