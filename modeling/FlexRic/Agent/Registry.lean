import FlexRic.Agent.RicAgents
import FlexRic.Lib.Allocator
import FlexRic.Lib.Machine

/-!
# FlexRic.Agent.Registry

The registry of agents of `agent/e2_agent_api.c`, with the memory that
`init_agent_api`, the agents' threads and `stop_agent_api` share.

* `AgentRun` is an `e2_agent_t` with its thread, as the objects its members point to;
* `initAgentApi`, `staticStartAgent`, the turns of `e2_event_loop_agent` and the two halves of
  `e2_free_agent`, before and after it waits for the loop, follow the source;
* a call of `stop_agent_api` takes several steps, between which the threads go on.

What the containers of an agent allocate is one object each.  The length limit on addresses and
the type of the arguments come with the RAN, so that the limit is a parameter.
-/

namespace FlexRic

namespace AgentApi

/-- The members of `e2_agent_t` that point to what it allocates, and the agent itself. -/
inductive Field where
  | self | ricConnections | ricAddr | initRicAddr | plugin | pending | indEvent | aind | cuDuId
  deriving DecidableEq

/-- `e2_agent_args_t`: a local variable of `init_agent_api`. -/
structure Args where
  frame : Nat
  ricIpAddress : Option Nat
  clientIp : Option Nat
  smDir : Option Nat

inductive ThreadState where
  /-- there is none -/
  | none
  | created
  /-- in the event loop of the agent -/
  | running (agent : Nat)
  /-- `e2_start_agent` has returned -/
  | ending
  | returned
  deriving DecidableEq

/-- An agent, with its thread. -/
structure AgentRun where
  obj : Field → Option Nat
  /-- `ep.base.addr` -/
  addr : List Char
  args : Args
  pendingSize : Nat
  stopToken : Bool
  agentStopped : Bool
  /-- the entry its thread was given -/
  inst : Nat
  thread : ThreadState
  /-- how often the agent was freed, and its thread joined -/
  freed : Nat
  joined : Nat

/-- `agent_instance_t`. -/
structure Instance where
  agent : Option Nat
  thread : Option Nat
  active : Bool
  /-- the object, and the address it holds -/
  ricIp : Option (Nat × List Char)

/-- Where `e2_free_agent` is, called for an entry, and what follows it. -/
inductive Phase where
  /-- before the call -/
  | entry
  /-- what the agent owns is freed -/
  | cleared
  /-- the stop token is set -/
  | waiting
  /-- the agent is freed -/
  | joining
  deriving DecidableEq

/-- The call that has `agents_mutex`. -/
inductive ApiCall where
  | idle
  /-- `stop_agent_api`, at the entry `i` -/
  | stop (i : Nat) (phase : Phase)
  /-- `init_agent_api`, which could not create the thread of the agent -/
  | init (agent inst serverIpStr : Nat) (phase : Phase)
  deriving DecidableEq

/-- The arguments of `init_agent_api`, and what it meets. -/
structure InitCall where
  /-- what `get_near_ric_ip` finds -/
  serverIp : Option (List Char)
  /-- `args->client_ip != NULL` -/
  clientIp : Bool
  /-- `args->libs_dir != NULL` -/
  libsDir : Bool
  /-- a CU, a CU-UP or a DU -/
  cuDuId : Bool
  /-- the socket opens and the address is one of IPv4 -/
  connects : Bool
  /-- `e2_init_agent` gives NULL; as it is, it asserts instead -/
  agentFails : Bool
  /-- `pthread_create` fails -/
  threadFails : Bool

/-- What `e2_start_agent` meets before its loop. -/
inductive StartResult where
  | ok | noMemory | noMutex | noTimer

/-- One turn of the event loop. -/
inductive Turn where
  /-- a message, an indication or no event -/
  | message
  | setupResponse
  /-- the setup timer expires; is a new one created, is the request encoded -/
  | timer (created encoded : Bool)
  /-- the connection is lost; is a timer created -/
  | lost (created : Bool)
  /-- the loop is left by a `return` -/
  | stray

end AgentApi

open AgentApi

/-- The static variables of `e2_agent_api.c`, and the agents initialised so far. -/
structure AgentApi where
  agents : Nat → Instance
  numActiveAgents : Nat
  mem : Memory
  runs : Nat → AgentRun
  born : Nat
  call : ApiCall
  /-- the agents initialised before the last return of `stop_agent_api` -/
  settled : Nat

namespace AgentApi

/-! ## The objects of an agent -/

/-- Where `e2_init_agent` allocates for the member, counted from its first object. -/
def Field.index : Field → Nat
  | .self => 0
  | .ricConnections => 1
  | .ricAddr => 2
  | .initRicAddr => 3
  | .plugin => 4
  | .pending => 5
  | .indEvent => 6
  | .aind => 7
  | .cuDuId => 8

/-- `e2_init_agent`, whose objects begin at `base`. -/
def e2InitAgent (base : Nat) (addr : List Char) (args : Args) (cuDuId : Option Nat) (inst : Nat) :
    AgentRun where
  obj := fun f => if f = .cuDuId then cuDuId else some (base + f.index)
  addr := addr
  args := args
  pendingSize := 0
  stopToken := false
  agentStopped := false
  inst := inst
  thread := .none
  freed := 0
  joined := 0

namespace AgentRun

def ptr (r : AgentRun) (f : Field) : Ptr := .of (r.obj f)

def set (r : AgentRun) (f : Field) (x : Option Nat) : AgentRun :=
  { r with obj := fun g => if g = f then x else r.obj g }

end AgentRun

def setRun (s : AgentApi) (a : Nat) (r : AgentRun) : AgentApi :=
  { s with runs := fun b => if b = a then r else s.runs b }

def setInstance (s : AgentApi) (i : Nat) (inst : Instance) : AgentApi :=
  { s with agents := fun j => if j = i then inst else s.agents j }

def setActive (s : AgentApi) (i : Nat) (active : Bool) : AgentApi :=
  s.setInstance i { s.agents i with active }

/-! ## `e2_free_agent` -/

/-- What it frees before it stops the loop. -/
def freeOwned (s : AgentApi) (a : Nat) : AgentApi :=
  let r := s.runs a
  let mem := (s.mem.access (r.ptr .self)).access (.stack r.args.frame)
  let mem := (mem.free (.of r.args.clientIp)).free (.of r.args.smDir)
  let mem := mem.free (.stack r.args.frame)
  -- `ag->args` is read once more
  let mem := (mem.access (.stack r.args.frame)).free (.of r.args.ricIpAddress)
  let mem := (mem.access (r.ptr .ricConnections)).free (r.ptr .ricAddr)
  let mem := (mem.free (r.ptr .ricConnections)).free (r.ptr .initRicAddr)
  -- `ep.base.addr` is an array
  let mem := mem.free (.inside ((r.obj .self).getD 0))
  { s.setRun a { r.set .initRicAddr none with
      args := { r.args with ricIpAddress := none } } with mem }

def setStopToken (s : AgentApi) (a : Nat) : AgentApi :=
  { s.setRun a { s.runs a with stopToken := true } with
    mem := s.mem.access ((s.runs a).ptr .self) }

/-- What it frees after the loop has stopped. -/
def freeRest (s : AgentApi) (a : Nat) : AgentApi :=
  let r := s.runs a
  let mem := s.mem.access (r.ptr .self)
  let mem := mem.access (r.ptr .pending)
  let mem := if 0 < r.pendingSize then mem.free (r.ptr .pending) else mem
  let mem := (mem.access (r.ptr .plugin)).free (r.ptr .plugin)
  let mem := (mem.access (r.ptr .pending)).free (r.ptr .pending)
  let mem := (mem.access (r.ptr .indEvent)).free (r.ptr .indEvent)
  let mem := (mem.access (r.ptr .aind)).free (r.ptr .aind)
  let mem := (mem.free (r.ptr .cuDuId)).free (r.ptr .self)
  { s.setRun a { r with freed := r.freed + 1 } with mem }

/-! ## `init_agent_api` -/

/-- An active entry has the address. -/
def hasAgent (s : AgentApi) (ip : List Char) : Bool :=
  (List.range s.numActiveAgents).any fun i =>
    (s.agents i).active && (s.agents i).ricIp.any fun x => x.2 == ip

/-- The call goes as far as `pthread_create`. -/
def Creates (maxRicIpLength : Nat) (s : AgentApi) (c : InitCall) : Prop :=
  s.numActiveAgents < macNearRtRics ∧ c.agentFails = false ∧
    ∃ ip ∈ c.serverIp, s.hasAgent ip = false ∧ ip.length < maxRicIpLength

instance (maxRicIpLength : Nat) (s : AgentApi) (c : InitCall) :
    Decidable (Creates maxRicIpLength s c) :=
  inferInstanceAs (Decidable (_ ∧ _ ∧ ∃ ip ∈ c.serverIp, _))

/-- The local variable `agent_args`, whose strings begin at `base`. -/
def initArgs (base : Nat) (c : InitCall) : Args where
  frame := base
  ricIpAddress := some base
  clientIp := if c.clientIp then some (base + 1) else none
  smDir := if c.libsDir then some (base + 2) else none

/-- `init_agent_api` from `e2_init_agent` on. -/
def startAgent (s : AgentApi) (c : InitCall) (ip : List Char) (serverIpStr : Nat)
    (cuDuId : Option Nat) (args : Args) : Outcome AgentApi := do
  let inst := s.numActiveAgents
  if c.agentFails then
    return { s.setInstance inst { s.agents inst with agent := none } with
      mem := { s.mem.free (.heap serverIpStr) with scope := none } }
  else do
    .assert (decide (ip.length < 16)) "strlen(addr) < 16"
    .assert c.connects "rc == 1"
    .assert c.libsDir "dir_path != NULL"
    let a := s.born
    let base := s.mem.next
    let ricIp := some (base + 8, ip)
    let s := { s.setRun a (e2InitAgent base ip args cuDuId inst) with
      mem := (s.mem.mallocs 8).malloc, born := a + 1 }
    if c.threadFails then
      let s := s.setInstance inst { s.agents inst with agent := some a, active := true, ricIp }
      return { s.freeOwned a with call := .init a inst serverIpStr .cleared }
    else
      let s := s.setInstance inst ⟨some a, some a, true, ricIp⟩
      let s := s.setRun a { s.runs a with thread := .created }
      return { s with
        mem := { s.mem.free (.heap serverIpStr) with scope := none }
        numActiveAgents := inst + 1 }

def initAgentApi (maxRicIpLength : Nat) (s : AgentApi) (c : InitCall) : Outcome AgentApi := do
  .await (s.call == .idle)
  if macNearRtRics ≤ s.numActiveAgents then return s
  else
    match c.serverIp with
    | none => return s
    | some ip =>
      let serverIpStr := s.mem.next
      let mem := s.mem.malloc
      if s.hasAgent ip then return { s with mem := mem.free (.heap serverIpStr) }
      else
        let cuDuId := if c.cuDuId then some mem.next else none
        let mem := mem.mallocIf c.cuDuId
        let args := initArgs mem.next c
        let mem := (mem.malloc.mallocIf c.clientIp).mallocIf c.libsDir
        if ip.length < maxRicIpLength then
          startAgent { s with mem := { mem with scope := some args.frame } } c ip serverIpStr cuDuId
            args
        else
          let mem := (mem.free (.of args.ricIpAddress)).free (.of args.clientIp)
          let mem := (mem.free (.of args.smDir)).free (.heap serverIpStr)
          return { s with mem }

/-! ## The threads -/

/-- `bi_map_free` of the pending events, where there are any, and `init_pending_events`. -/
def resetPending (r : AgentRun) (mem : Memory) (freed : Bool) : AgentRun × Memory :=
  let mem := if freed then mem.free (r.ptr .pending) else mem
  ({ r.set .pending (some mem.next) with pendingSize := 0 }, mem.malloc)

/-- `e2_start_agent` up to its loop; also, whether it gets there. -/
def e2StartAgent (r : AgentRun) (mem : Memory) (res : StartResult) : AgentRun × Memory × Bool :=
  let mem := mem.access (r.ptr .self)
  match res with
  | .noMemory => (r.set .initRicAddr none, mem, false)
  | .noMutex =>
    let (r, mem) := (r.set .initRicAddr (some mem.next), mem.malloc)
    (r.set .initRicAddr none, mem.free (r.ptr .initRicAddr), false)
  | .noTimer =>
    let (r, mem) := (r.set .initRicAddr (some mem.next), mem.malloc)
    let (r, mem) := resetPending r (mem.access (r.ptr .pending)) (decide (0 < r.pendingSize))
    (r.set .initRicAddr none, mem.free (r.ptr .initRicAddr), false)
  | .ok =>
    let (r, mem) := (r.set .initRicAddr (some mem.next), mem.malloc)
    let (r, mem) := resetPending r (mem.access (r.ptr .pending)) (decide (0 < r.pendingSize))
    -- the timer, and the request that `gen_setup_request` makes of the plugins
    ({ r with pendingSize := 1 }, mem.access (r.ptr .plugin), true)

/-- `static_start_agent`, up to the loop. -/
def staticStartAgent (s : AgentApi) (a : Nat) (res : StartResult) : Outcome AgentApi := do
  .await ((s.runs a).thread == .created)
  match (s.agents (s.runs a).inst).agent with
  | none => return s.setRun a { s.runs a with thread := .returned }
  | some b =>
    let s := s.setActive (s.runs a).inst true
    let (r, mem, loops) := e2StartAgent (s.runs b) s.mem res
    let s := { s.setRun b r with mem }
    return s.setRun a { s.runs a with thread := if loops then .running b else .ending }

/-- `handle_pending_event`. -/
def handlePendingEvent (r : AgentRun) (mem : Memory) (created encoded : Bool) :
    AgentRun × Memory :=
  let mem := (mem.access (r.ptr .initRicAddr)).access (r.ptr .ricConnections)
  let mem := mem.access (r.ptr .ricAddr)
  let (r, mem) := resetPending r (mem.access (r.ptr .pending)) true
  if created then
    let r := { r with pendingSize := 1 }
    if encoded then (r, mem) else resetPending r mem true
  else (r, mem)

/-- `handle_connection_shutdown`. -/
def handleConnectionShutdown (r : AgentRun) (mem : Memory) (created : Bool) : AgentRun × Memory :=
  let (r, mem) := resetPending r (mem.access (r.ptr .pending)) (decide (0 < r.pendingSize))
  ({ r with pendingSize := if created then 1 else 0 }, mem)

/-- One turn of `e2_event_loop_agent`; also, whether the loop goes on. -/
def loopTurn (r : AgentRun) (mem : Memory) : Turn → Outcome (AgentRun × Memory × Bool)
  | .message =>
    let mem := (mem.access (r.ptr .pending)).access (r.ptr .plugin)
    return (r, (mem.access (r.ptr .indEvent)).access (r.ptr .aind), true)
  | .setupResponse => do
    .assert (decide (0 < r.pendingSize)) "Trying to extract a key not found in the tree"
    return ({ r with pendingSize := r.pendingSize - 1 }, mem.access (r.ptr .pending), true)
  | .timer created encoded =>
    let (r, mem) := handlePendingEvent r (mem.access (r.ptr .pending)) created encoded
    return (r, mem, true)
  | .lost created =>
    let (r, mem) := handleConnectionShutdown r mem created
    return (r, mem, true)
  | .stray => return (r, (mem.access (r.ptr .indEvent)).access (r.ptr .aind), false)

/-- The thread `a` makes a turn of its loop. -/
def turn (s : AgentApi) (a : Nat) (t : Turn) : Outcome AgentApi := do
  match (s.runs a).thread with
  | .running b => do
    .await (!(s.runs b).stopToken)
    let (r, mem, loops) ← loopTurn (s.runs b) (s.mem.access ((s.runs b).ptr .self)) t
    let s := { s.setRun b r with mem }
    return if loops then s else s.setRun a { s.runs a with thread := .ending }
  | _ => .blocked

/-- The loop of the thread `a` ends. -/
def stopLoop (s : AgentApi) (a : Nat) : Outcome AgentApi := do
  match (s.runs a).thread with
  | .running b => do
    .await (s.runs b).stopToken
    let mem := s.mem.access ((s.runs b).ptr .self)
    let s := { s.setRun b { s.runs b with agentStopped := true } with mem }
    return s.setRun a { s.runs a with thread := .ending }
  | _ => .blocked

/-- The thread `a` returns. -/
def threadReturn (s : AgentApi) (a : Nat) : Outcome AgentApi := do
  .await ((s.runs a).thread == .ending)
  return (s.setActive (s.runs a).inst false).setRun a { s.runs a with thread := .returned }

/-! ## `stop_agent_api` -/

/-- The call of `stop_agent_api` goes on. -/
def proceedStop (s : AgentApi) (i : Nat) : Phase → Outcome AgentApi
  | .entry =>
    if i < s.numActiveAgents then
      if (s.agents i).active then
        match (s.agents i).agent with
        | none => return { s with call := .stop i .joining }
        | some a => return { s.freeOwned a with call := .stop i .cleared }
      else return { s with call := .stop (i + 1) .entry }
    else return { s with call := .idle, numActiveAgents := 0, settled := s.born }
  | .cleared => do
    let a ← .awaitSome (s.agents i).agent
    return { s.setStopToken a with call := .stop i .waiting }
  | .waiting => do
    let a ← .awaitSome (s.agents i).agent
    .await (s.runs a).agentStopped
    return { s.freeRest a with call := .stop i .joining }
  | .joining => do
    let a ← .awaitSome (s.agents i).thread
    .await ((s.runs a).thread == .returned)
    let s := s.setRun a { s.runs a with joined := (s.runs a).joined + 1 }
    let mem := s.mem.free (.of ((s.agents i).ricIp.map Prod.fst))
    let s := { s.setInstance i { s.agents i with active := false, ricIp := none } with
      mem, call := .stop (i + 1) .entry }
    match (s.agents i).agent with
    | none => return s
    | some b =>
      -- `ag->args` is read from the agent, and its address from the arguments
      let r := s.runs b
      let mem := (s.mem.access (r.ptr .self)).access (.stack r.args.frame)
      let mem := mem.free (.of r.args.ricIpAddress)
      return { s.setRun b { r with args := { r.args with ricIpAddress := none } } with mem }

/-- The call of `init_agent_api` that could not create the thread goes on. -/
def proceedInit (s : AgentApi) (a inst serverIpStr : Nat) : Phase → Outcome AgentApi
  | .cleared => return { s.setStopToken a with call := .init a inst serverIpStr .waiting }
  | .waiting => do
    .await (s.runs a).agentStopped
    let s := s.freeRest a
    let mem := (s.mem.free (.of ((s.agents inst).ricIp.map Prod.fst))).free (.heap serverIpStr)
    return { s.setInstance inst { s.agents inst with active := false, ricIp := none } with
      mem := { mem with scope := none }, call := .idle }
  | _ => .blocked

/-! ## The machine -/

inductive Event where
  | initAgent (c : InitCall)
  | stop
  /-- the call in progress goes on -/
  | proceed
  | start (a : Nat) (res : StartResult)
  | turn (a : Nat) (t : Turn)
  | stopLoop (a : Nat)
  | threadReturn (a : Nat)

def step (maxRicIpLength : Nat) (s : AgentApi) : Event → Outcome AgentApi
  | .initAgent c => s.initAgentApi maxRicIpLength c
  | .stop => do
    .await (s.call == .idle)
    return { s with call := .stop 0 .entry }
  | .proceed =>
    match s.call with
    | .idle => .blocked
    | .stop i phase => s.proceedStop i phase
    | .init a inst serverIpStr phase => s.proceedInit a inst serverIpStr phase
  | .start a res => do
    .await (decide (a < s.born))
    s.staticStartAgent a res
  | .turn a t => do
    .await (decide (a < s.born))
    s.turn a t
  | .stopLoop a => do
    .await (decide (a < s.born))
    s.stopLoop a
  | .threadReturn a => do
    .await (decide (a < s.born))
    s.threadReturn a

/-- Before the first call. -/
def init : AgentApi where
  agents := fun _ => ⟨none, none, false, none⟩
  numActiveAgents := 0
  mem := .empty
  runs := fun _ => e2InitAgent 0 [] ⟨0, none, none, none⟩ none 0
  born := 0
  call := .idle
  settled := 0

/-- The registry of a RAN whose addresses are shorter than `maxRicIpLength`. -/
def registryMachine (maxRicIpLength : Nat) : Machine AgentApi Event :=
  ⟨init, step maxRicIpLength⟩

end AgentApi

end FlexRic
