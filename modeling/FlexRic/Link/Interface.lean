import FlexRic.Agent.RicAgents
import FlexRic.Ric.PendingEvents

/-!
# FlexRic.Link.Interface

The near-RT RIC and its E2 agents over the connections between them, each of which keeps the order
of its messages and stays up.

* A request goes down the connection of the node it names; the agent's loop takes the first message
  and answers it.
* The RIC's event loop takes the first message that came up and hands it to the workers, who handle
  what they have in any order.
* What the RIC makes of an answer is what it makes of its key: the kind of the procedure and the id.
* `Effect` and `step_cases` say what an event can do.
-/

namespace FlexRic

/-- What a near-RT RIC sends to an E2 node. -/
inductive E2Request where
  | subscription (sr : RicSubscriptionRequest)
  | subscriptionDelete (id : RicGenId)
  | control (id : RicGenId)
  deriving DecidableEq

/-- What an E2 node sends to a near-RT RIC. -/
inductive E2Answer where
  | subscription (resp : RicSubscriptionResponse)
  | subscriptionDelete (id : RicGenId)
  | control (id : RicGenId)
  | indication (ind : RicIndication)
  deriving DecidableEq

namespace E2Request

/-- The pending event the RIC starts a timer for. -/
def key : E2Request → PendingEventRic
  | subscription sr => ⟨.subscriptionRequest, sr.ricId⟩
  | subscriptionDelete id => ⟨.subscriptionDeleteRequest, id⟩
  | control id => ⟨.controlRequest, id⟩

/-- The request of a procedure, of which the caller gives the actions. -/
def ofProc (p : Proc) (action : List RicAction) : Option E2Request :=
  match p.ev with
  | .subscriptionRequest => some (.subscription ⟨p.req.id, action⟩)
  | .subscriptionDeleteRequest => some (.subscriptionDelete p.req.id)
  | .controlRequest => some (.control p.req.id)
  | _ => none

/-- A request carries the key of its procedure. -/
theorem key_ofProc {p : Proc} {action : List RicAction} {m : E2Request}
    (h : ofProc p action = some m) : m.key = p.key := by
  unfold ofProc at h
  split at h
  all_goals
    cases h <;> rename_i hev <;> simp [key, Proc.key, hev]

end E2Request

namespace E2Answer

/-- The pending event the RIC looks for. -/
def key : E2Answer → Option PendingEventRic
  | subscription resp => some ⟨.subscriptionRequest, resp.ricId⟩
  | subscriptionDelete id => some ⟨.subscriptionDeleteRequest, id⟩
  | control id => some ⟨.controlRequest, id⟩
  | indication _ => none

/-- What the RIC reads of a subscription response. -/
def admission : E2Answer → NearRic.Admission
  | subscription resp => ⟨[resp.admitted], 0⟩
  | _ => ⟨[], 0⟩

end E2Answer

namespace AgentSys

/-- `e2ap_msg_handle_agent`, for the requests of a RIC. -/
def handleRequest (a : AgentSys) (ans : SubscriptionAns) (fd : Fd) (picks : Picks) :
    E2Request → Outcome (E2Answer × AgentSys)
  | .subscription sr => do
    let (resp, _, _) ← a.ag.handleSubscriptionRequest sr ans fd
    let a ← a.step (.subscription sr ans fd)
    return (.subscription resp, a)
  | .subscriptionDelete id => do
    let (id', _) ← a.ag.handleSubscriptionDeleteRequest id picks
    let a ← a.step (.subscriptionDelete id picks)
    return (.subscriptionDelete id', a)
  | .control id => do
    .await (a.loop == .waiting)
    let _ ← a.ag.smPlugin id.ranFuncId
    return (.control id, a)

/-- The events that no message of the RIC and no end of the connection causes. -/
def AgentEvent.isOwn : AgentEvent → Bool
  | .subscription .. | .subscriptionDelete .. | .shutdown _ => false
  | _ => true

end AgentSys

namespace RicSys

/-- The events that no message of a node and no connection causes. -/
def RicEvent.isOwn : RicEvent → Bool
  | .e2Setup _ | .e2Shutdown _ | .answer .. | .stray .. => false
  | _ => true

/-- `e2ap_msg_handle_ric`, for an answer with the key. -/
def receive (s : RicSys) (key : PendingEventRic) (resp : NearRic.Admission) (picks : Picks) :
    Outcome RicSys :=
  match s.procs.findIdx? fun p => p.key == key with
  | some k => s.step (.answer k resp picks)
  | none => s.step (.stray key.ev key.id resp picks)

end RicSys

/-- An E2 node and its connection: what goes down to it, what has come up, and what of this the
event loop of the RIC has taken and given to its workers (`sctp_msg_arrived_event`). -/
structure E2Link where
  node : GlobalE2NodeId
  agent : AgentSys
  down : List E2Request
  up : List E2Answer
  tasks : List E2Answer
  deriving DecidableEq

namespace E2Link

/-- Messages to the node go over this connection. -/
def serves (l : E2Link) (node : GlobalE2NodeId) : Bool := eqGlobalE2NodeId node l.node

end E2Link

structure E2Sys where
  ric : RicSys
  links : List E2Link
  /-- the indications that the RIC has been given -/
  arrived : List (GlobalE2NodeId × RicIndication)
  deriving DecidableEq

namespace E2Sys

inductive LinkEvent where
  /-- a node has been set up -/
  | connect (node : Codec.E2NodeConnected) (cfg : AgentConfig)
  /-- the RIC acts on its own, with the actions of the subscription it may ask for -/
  | ric (e : RicSys.RicEvent) (action : List RicAction)
  /-- the `i`-th agent handles the first request -/
  | deliver (i : Nat) (ans : SubscriptionAns) (fd : Fd) (picks : Picks)
  | agent (i : Nat) (e : AgentSys.AgentEvent)
  /-- the event loop of the RIC takes the first message from the `i`-th node -/
  | receive (i : Nat)
  /-- a worker handles the `j`-th of those that have been taken -/
  | handle (i j : Nat) (picks : Picks)

def init : E2Sys := ⟨.init, [], []⟩

/-- The RIC has moved on; the request of a procedure it opened goes down. -/
def sendOpened (s : E2Sys) (ric : RicSys) (action : List RicAction) : Outcome E2Sys :=
  match ric.procs[s.ric.procs.length]? with
  | none => return { s with ric }
  | some p => do
    let m ← .awaitSome (E2Request.ofProc p action)
    let i ← .awaitSome (s.links.findIdx? fun l => l.serves p.req.node)
    let l ← .awaitSome s.links[i]?
    return { s with ric, links := s.links.set i { l with down := l.down ++ [m] } }

/-- A worker of the RIC handles a message from a node (`e2ap_msg_handle_ric`). -/
def work (s : E2Sys) (node : GlobalE2NodeId) (picks : Picks) (m : E2Answer) : Outcome E2Sys :=
  match m with
  | .indication ind => return { s with arrived := s.arrived ++ [(node, ind)] }
  | m => do
    let key ← .awaitSome m.key
    let ric ← s.ric.receive key m.admission picks
    return { s with ric }

def step (s : E2Sys) : LinkEvent → Outcome E2Sys
  | .connect node cfg => do
    .await (s.links.all fun l => !l.serves node.id)
    let ric ← s.ric.step (.e2Setup node)
    return { s with ric, links := s.links ++ [⟨node.id, .init cfg, [], [], []⟩] }
  | .ric e action => do
    .await e.isOwn
    let ric ← s.ric.step e
    s.sendOpened ric action
  | .deliver i ans fd picks => do
    let l ← .awaitSome s.links[i]?
    match l.down with
    | [] => .blocked
    | m :: down => do
      let (answer, agent) ← l.agent.handleRequest ans fd picks m
      return { s with links := s.links.set i { l with agent, down, up := l.up ++ [answer] } }
  | .agent i e => do
    .await e.isOwn
    let l ← .awaitSome s.links[i]?
    let agent ← l.agent.step e
    let up := l.up ++ (l.agent.sentBy agent).map .indication
    return { s with links := s.links.set i { l with agent, up } }
  | .receive i => do
    .await (!s.ric.loop.reading)
    let l ← .awaitSome s.links[i]?
    match l.up with
    | [] => .blocked
    | m :: up => return { s with links := s.links.set i { l with up, tasks := l.tasks ++ [m] } }
  | .handle i j picks => do
    let l ← .awaitSome s.links[i]?
    let m ← .awaitSome l.tasks[j]?
    work { s with links := s.links.set i { l with tasks := l.tasks.eraseIdx j } } l.node picks m

end E2Sys

/-- The near-RT RIC and its E2 nodes. -/
def linkMachine : Machine E2Sys E2Sys.LinkEvent := ⟨E2Sys.init, E2Sys.step⟩

namespace RicSys

variable {s s' : RicSys} {e : RicEvent}

/-- What the RIC does on its own: a procedure is opened, or the procedures stay. -/
theorem own_cases (hown : e.isOwn = true) (hs : s.step e = .next s') :
    (∃ req ev fd ric, Opens s e req ev ∧ s.ric.Started fd ⟨ev, req.id⟩ ric ∧
      s' = s.opened ric req ev fd) ∨
    (∀ req ev, ¬ Opens s e req ev) ∧ s'.procs = s.procs ∧ s'.subs = s.subs ∧
      ∀ r, r ∈ s'.live → r ∈ s.live := by
  cases step_cases hs with
  | opened req ev fd ric opens started eq => exact .inl ⟨req, ev, fd, ric, opens, started, eq⟩
  | answered k resp picks p fd ric event proc stopped eq =>
    subst event
    cases hown
  | stray ev id resp picks fd ric event notWaiting stopped eq =>
    subst event
    cases hown
  | lookedUp k x w event worker eq =>
    subst event
    refine .inr ⟨fun _ _ => nofun, by rw [eq], by rw [eq], fun r hr => ?_⟩
    rw [eq] at hr
    simp only [live, List.mem_append, List.mem_map] at hr ⊢
    obtain hr | ⟨v, hv, rfl⟩ := hr
    · exact .inl hr
    · obtain hv | rfl := List.mem_or_eq_of_mem_set hv
      · exact .inr ⟨v, hv, rfl⟩
      · exact .inr ⟨w, List.mem_of_getElem? worker, rfl⟩
  | notified k w event worker eq =>
    subst event
    refine .inr ⟨fun _ _ => nofun, by rw [eq], by rw [eq], fun r hr => ?_⟩
    rw [eq] at hr
    simp only [live, List.mem_append, List.mem_map] at hr ⊢
    obtain hr | ⟨v, hv, rfl⟩ := hr
    · exact .inl hr
    · exact .inr ⟨v, List.mem_of_mem_eraseIdx hv, rfl⟩
  | quiet silent quiet =>
    refine .inr ⟨silent, quiet.procs, quiet.subs, fun r hr => ?_⟩
    rwa [live, quiet.procs, quiet.subs, quiet.workers] at hr

/-- An answer that the RIC takes is that of a procedure with its key. -/
theorem receive_eq_next {key : PendingEventRic} {resp : NearRic.Admission} {picks : Picks}
    (h : TimersMatch s) (hs : s.receive key resp picks = .next s') :
    ∃ k p ric, s.procs[k]? = some p ∧ p.key = key ∧ s.step (.answer k resp picks) = .next s' ∧
      s' = s.answered ric k p := by
  unfold receive at hs
  split at hs
  · rename_i k hk
    obtain ⟨hlt, hkey, -⟩ := List.findIdx?_eq_some_iff_getElem.mp hk
    cases step_cases hs with
    | answered k' resp' picks' p fd ric event proc stopped eq =>
      cases event
      have hp : s.procs[k] = p := by simpa [hlt] using proc
      exact ⟨k, p, ric, proc, hp ▸ beq_iff_eq.mp hkey, hs, eq⟩
    | opened req ev fd ric opens started eq => cases opens
    | stray ev id resp' picks' fd ric event notWaiting stopped eq => cases event
    | lookedUp k' x w event worker eq => cases event
    | notified k' w event worker eq => cases event
    | quiet silent quiet =>
      simp only [step, Outcome.bind_eq_next, Outcome.awaitSome_eq_next, Outcome.pure_eq,
        Outcome.next_inj] at hs
      obtain ⟨p, hp, ⟨fd, ric⟩, -, rfl⟩ := hs
      have hlen := congrArg List.length quiet.procs
      simp only [answered, List.length_eraseIdx, hlt, if_true] at hlen
      omega
  · rename_i hnone
    have habsent : ∀ p ∈ s.procs, p.key ≠ ⟨key.ev, key.id⟩ := by
      have hall := List.findIdx?_eq_none_iff.mp hnone
      exact fun p hp => by simpa using hall p hp
    obtain ⟨m, habort⟩ : (s.step (.stray key.ev key.id resp picks)).Aborts :=
      h.stray_aborts habsent
    rw [habort] at hs
    cases hs

end RicSys

namespace E2Sys

variable {s s' : E2Sys} {e : LinkEvent}

/-! ## What an event can do -/

/-- What one event does to the RIC and the connections. -/
inductive Effect (s : E2Sys) (e : LinkEvent) : E2Sys → Prop
  | connected (node : Codec.E2NodeConnected) (cfg : AgentConfig) (ric : RicSys)
      (event : e = .connect node cfg) (new : ∀ l ∈ s.links, l.serves node.id = false)
      (set : s.ric.step (.e2Setup node) = .next ric) :
      Effect s e { s with ric, links := s.links ++ [⟨node.id, .init cfg, [], [], []⟩] }
  | opened (f : RicSys.RicEvent) (action : List RicAction) (p : Proc) (m : E2Request) (i : Nat)
      (l : E2Link) (ric : RicSys) (event : e = .ric f action) (own : f.isOwn = true)
      (acted : s.ric.step f = .next ric) (proc : ric.procs[s.ric.procs.length]? = some p)
      (request : E2Request.ofProc p action = some m) (link : s.links[i]? = some l)
      (serves : l.serves p.req.node = true) :
      Effect s e { s with ric, links := s.links.set i { l with down := l.down ++ [m] } }
  | silent (f : RicSys.RicEvent) (action : List RicAction) (ric : RicSys)
      (event : e = .ric f action) (own : f.isOwn = true) (acted : s.ric.step f = .next ric)
      (noProc : ric.procs[s.ric.procs.length]? = none) : Effect s e { s with ric }
  | delivered (i : Nat) (l : E2Link) (m : E2Request) (down : List E2Request) (answer : E2Answer)
      (agent : AgentSys) (ans : SubscriptionAns) (fd : Fd) (picks : Picks)
      (event : e = .deliver i ans fd picks) (link : s.links[i]? = some l)
      (first : l.down = m :: down)
      (handled : l.agent.handleRequest ans fd picks m = .next (answer, agent)) :
      Effect s e { s with links := s.links.set i { l with agent, down, up := l.up ++ [answer] } }
  | moved (i : Nat) (l : E2Link) (f : AgentSys.AgentEvent) (agent : AgentSys)
      (event : e = .agent i f) (own : f.isOwn = true) (link : s.links[i]? = some l)
      (acted : l.agent.step f = .next agent) :
      Effect s e
        { s with
          links := s.links.set i
            { l with agent, up := l.up ++ (l.agent.sentBy agent).map .indication } }
  | received (i : Nat) (l : E2Link) (m : E2Answer) (up : List E2Answer)
      (link : s.links[i]? = some l) (first : l.up = m :: up) :
      Effect s e { s with links := s.links.set i { l with up, tasks := l.tasks ++ [m] } }
  | indicated (i j : Nat) (l : E2Link) (ind : RicIndication) (link : s.links[i]? = some l)
      (task : l.tasks[j]? = some (.indication ind)) :
      Effect s e
        { s with
          links := s.links.set i { l with tasks := l.tasks.eraseIdx j }
          arrived := s.arrived ++ [(l.node, ind)] }
  | answered (i j : Nat) (l : E2Link) (m : E2Answer) (key : PendingEventRic) (picks : Picks)
      (ric : RicSys) (link : s.links[i]? = some l) (task : l.tasks[j]? = some m)
      (kind : m.key = some key) (received : s.ric.receive key m.admission picks = .next ric) :
      Effect s e { s with ric, links := s.links.set i { l with tasks := l.tasks.eraseIdx j } }

theorem sendOpened_cases {f : RicSys.RicEvent} {action : List RicAction} {ric : RicSys}
    (hown : f.isOwn = true) (hric : s.ric.step f = .next ric)
    (h : s.sendOpened ric action = .next s') : Effect s (.ric f action) s' := by
  unfold sendOpened at h
  split at h
  · rename_i hnone
    cases h
    exact .silent f action ric rfl hown hric hnone
  · rename_i p hp
    simp only [Outcome.bind_eq_next, Outcome.awaitSome_eq_next, Outcome.pure_eq,
      Outcome.next_inj] at h
    obtain ⟨m, hm, i, hi, l, hl, rfl⟩ := h
    obtain ⟨hlt, hserves, -⟩ := List.findIdx?_eq_some_iff_getElem.mp hi
    have hget : s.links[i] = l := by simpa [hlt] using hl
    exact .opened f action p m i l ric rfl hown hric hp hm hl (hget ▸ hserves)

/-- **The effect of an event.** -/
theorem step_cases (h : s.step e = .next s') : Effect s e s' := by
  cases e with
  | connect node cfg =>
    simp only [step, Outcome.bind_eq_next, Outcome.await_eq_next, Outcome.pure_eq,
      Outcome.next_inj, List.all_eq_true, Bool.not_eq_true'] at h
    obtain ⟨_, hnew, ric, hric, rfl⟩ := h
    exact .connected node cfg ric rfl hnew hric
  | ric f action =>
    simp only [step, Outcome.bind_eq_next, Outcome.await_eq_next] at h
    obtain ⟨_, hown, ric, hric, h⟩ := h
    exact sendOpened_cases hown hric h
  | deliver i ans fd picks =>
    simp only [step, Outcome.bind_eq_next, Outcome.awaitSome_eq_next] at h
    obtain ⟨l, hl, h⟩ := h
    split at h
    · cases h
    · rename_i m down hdown
      simp only [Outcome.bind_eq_next, Outcome.pure_eq, Outcome.next_inj] at h
      obtain ⟨⟨answer, agent⟩, hagent, rfl⟩ := h
      exact .delivered i l m down answer agent ans fd picks rfl hl hdown hagent
  | agent i f =>
    simp only [step, Outcome.bind_eq_next, Outcome.await_eq_next, Outcome.awaitSome_eq_next,
      Outcome.pure_eq, Outcome.next_inj] at h
    obtain ⟨_, hown, l, hl, agent, hagent, rfl⟩ := h
    exact .moved i l f agent rfl hown hl hagent
  | receive i =>
    simp only [step, Outcome.bind_eq_next, Outcome.await_eq_next, Outcome.awaitSome_eq_next] at h
    obtain ⟨_, -, l, hl, h⟩ := h
    split at h
    · cases h
    · rename_i m up hup
      cases h
      exact .received i l m up hl hup
  | handle i j picks =>
    simp only [step, Outcome.bind_eq_next, Outcome.awaitSome_eq_next] at h
    obtain ⟨l, hl, m, hm, h⟩ := h
    unfold work at h
    split at h
    · rename_i ind
      cases h
      exact .indicated i j l ind hl hm
    · simp only [Outcome.bind_eq_next, Outcome.awaitSome_eq_next, Outcome.pure_eq,
        Outcome.next_inj] at h
      obtain ⟨key, hkey, ric, hric, rfl⟩ := h
      exact .answered i j l m key picks ric hl hm hkey hric

end E2Sys

end FlexRic
