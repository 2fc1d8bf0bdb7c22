import FlexRic.Agent.LiveIndications
import FlexRic.Lib.Count
import Mathlib.Data.List.Count
import Mathlib.Data.List.Nodup
import Mathlib.Data.Option.Basic

/-!
# FlexRic.Agent.RicAgents

One process with an agent for each near-RIC, and the events that the RAN raises
for all of them.

* `async_event_agent_api` calls `e2_async_event_agent` of every active agent with
  the same pointer, under `agents_mutex`; the service model RC frees the data once
  it is encoded; the loop that has sent an aperiodic indication calls `exit`.
* `runOk`: while no event is given to a second agent, no search fails for good and
  the process ends with nothing left to serve, each event waits in one place or
  has been sent once, under the ids of a subscription that the RIC it went to has
  made.
-/

namespace FlexRic

/-- `SM_RC_ID`. -/
def smRcId : UInt16 := 3

/-- `MAC_NEAR_RT_RICS`. -/
def macNearRtRics : Nat := 20

/-- A call of `async_event_agent_api`, which holds `agents_mutex`: it is before the `idx`-th agent,
or `inside` its `e2_async_event_agent`. -/
structure EventCall where
  thread : Nat
  ricReqId : UInt32
  indData : Nat
  idx : Nat
  inside : Bool
  deriving DecidableEq

namespace EventCall

/-- On to the next agent. -/
def next (c : EventCall) : EventCall := { c with idx := c.idx + 1, inside := false }

end EventCall

/-- An aperiodic indication, with the agent that sent it and the data it was made of. -/
structure SentEvent where
  agent : Nat
  indData : Option Nat
  ind : RicIndication
  deriving DecidableEq

structure RicAgents where
  agents : List AgentSys
  call : Option EventCall
  /-- the `ric_req_id` of each event raised; the event's data is known by its position -/
  raised : List UInt32
  /-- the subscription requests handled, with the agents of their RICs -/
  requested : List (Nat × RicSubscriptionRequest)
  sent : List SentEvent
  freed : List Nat
  deriving DecidableEq

namespace AgentSys

/-- `active`, which the thread of the agent clears when the loop has returned. -/
def active (a : AgentSys) : Bool :=
  match a.loop with
  | .returned _ => false
  | _ => true

/-- `on_indication_rc_sm_ag` always has something to send. -/
def admits (a : AgentSys) : AgentEvent → Bool
  | .call _ _ _ => false
  | .serve value => value || a.loop.inHand.head?.any fun ev => ev.sm != smRcId
  | _ => true

end AgentSys

namespace RicAgents

inductive RicEvent where
  /-- `init_agent_api` -/
  | start (cfg : AgentConfig)
  /-- a RAN thread calls `async_event_agent_api` -/
  | raise (thread : Nat) (ricReqId : UInt32)
  /-- the call enters the next active agent, or returns after the last -/
  | advance
  | agent (i : Nat) (e : AgentSys.AgentEvent)

/-- The process has ended. -/
def exited (s : RicAgents) : Bool := s.agents.any fun a => a.loop.hasExited

/-- What the other agents and the service model see of the `i`-th agent's step. -/
def report (s : RicAgents) (i : Nat) (a a' : AgentSys) : AgentSys.AgentEvent → RicAgents
  | .subscription sr _ _ => { s with requested := s.requested ++ [(i, sr)] }
  | .write _ => { s with call := s.call.map EventCall.next }
  | .serve _ =>
    match a.loop with
    | .serving ev _ =>
      { s with
        sent := s.sent ++ (a'.sentAind.drop a.sentAind.length).map fun ind => ⟨i, ev.indData, ind⟩
        freed := if ev.sm = smRcId then s.freed ++ ev.indData.toList else s.freed }
    | _ => s
  | _ => s

def step (s : RicAgents) : RicEvent → Outcome RicAgents
  | .start cfg => do
    .await (!s.exited && s.call.isNone && decide (s.agents.length < macNearRtRics))
    .await (s.agents.all fun a => !(a.active && a.ag.initRicAddr == cfg.initRicAddr))
    return { s with agents := s.agents ++ [AgentSys.init cfg] }
  | .raise thread ricReqId => do
    .await (!s.exited && s.call.isNone)
    return { s with
      call := some ⟨thread, ricReqId, s.raised.length, 0, false⟩
      raised := s.raised ++ [ricReqId] }
  | .advance => do
    .await (!s.exited)
    let c ← .awaitSome s.call
    .await (!c.inside)
    match s.agents[c.idx]? with
    | none => return { s with call := none }
    | some a =>
      if a.active then do
        let a' ← a.step (.call c.thread c.ricReqId (some c.indData))
        return { s with
          agents := s.agents.set c.idx a'
          call := some { c with inside := true } }
      else return { s with call := some c.next }
  | .agent i e => do
    .await (!s.exited)
    let a ← .awaitSome s.agents[i]?
    .await (a.admits e)
    let a' ← a.step e
    return { s with agents := s.agents.set i a' }.report i a a' e

def init : RicAgents := ⟨[], none, [], [], [], []⟩

end RicAgents

/-- The agents of the near-RICs in one process. -/
def ricAgentsMachine : Machine RicAgents RicAgents.RicEvent := ⟨.init, RicAgents.step⟩

/-! ## Events and indications -/

namespace AgentSys

/-- The data of the events given to the agent and not served. -/
def handed (a : AgentSys) : List (Option Nat) := (a.loop.inHand ++ a.ag.aind).map (·.indData)

/-- Nothing was taken out of the table under the search of the `k`-th call, and
it finds a subscription of RC or has tries left. -/
def LookCond (a : AgentSys) (k : Nat) : Prop :=
  ∀ x ∈ a.calls[k]?, match x.phase with
    | .searching tries stale =>
      stale = false ∧ match a.ag.findRicReqId x.ricReqId with
      | some ev => ev.sm = smRcId
      | none => tries + 1 < 10
    | _ => True

instance (a : AgentSys) (k : Nat) : Decidable (a.LookCond k) := by
  unfold LookCond
  refine @Option.decidableForallMem _ _ (fun x => ?_) _
  split
  · exact @instDecidableAnd _ _ _ (by split <;> infer_instance)
  · infer_instance

end AgentSys

namespace RicAgents

open AgentSys (AgentEvent)
open scoped List

variable {s s' : RicAgents} {a a' : AgentSys} {i : Nat} {e : AgentEvent}

/-- The data of the events that have been given to an agent. -/
def given (s : RicAgents) : List (Option Nat) :=
  s.sent.map (·.indData) ++ s.agents.flatMap AgentSys.handed

/-- The data of the call under way. -/
def calling (s : RicAgents) : Option Nat := s.call.map EventCall.indData

/-- Every event raised has been served. -/
def Idle (s : RicAgents) : Prop :=
  (∀ a ∈ s.agents, a.handed = []) ∧ ∀ d ∈ s.calling, some d ∈ s.given

instance (s : RicAgents) : Decidable s.Idle := inferInstanceAs (Decidable (_ ∧ _))

/-- No subscription is deleted under a search, which finds one of RC or has tries left; an event is
given to one agent; the process exits with nothing to serve; and a call returns after an agent was given its event. -/
def EventCond (s : RicAgents) : RicEvent → Prop
  | .agent i (.look k) => ∀ a ∈ s.agents[i]?, a.LookCond k
  | .agent _ (.push _) => ∀ d ∈ s.calling, some d ∉ s.given
  | .agent i .consume => ∀ a ∈ s.agents[i]?, a.loop.sends = true → s.Idle
  | .advance => ∀ c ∈ s.call, s.agents.length ≤ c.idx → some c.indData ∈ s.given
  | _ => True

instance (s : RicAgents) (e : RicEvent) : Decidable (s.EventCond e) := by
  unfold EventCond
  split <;> infer_instance

/-- The indications made of the data, with the agents that sent them. -/
def sentFor (s : RicAgents) (d : Nat) : List SentEvent := s.sent.filter fun x => x.indData = some d

/-- The event waits: with the call, or with an agent. -/
def Waits (s : RicAgents) (d : Nat) : Prop :=
  s.calling = some d ∨ ∃ a ∈ s.agents, some d ∈ a.handed

/-- The `i`-th agent's RIC has made a subscription with these ids. -/
def Made (s : RicAgents) (i : Nat) (id : RicGenId) (actionId : UInt8) : Prop :=
  ∃ sr, (i, sr) ∈ s.requested ∧ sr.ricId = id ∧ ∃ act ∈ sr.action, act.id = actionId

/-! ## Lists of agents -/

/-- An agent of the list after a step is the one that stepped, or was there before. -/
theorem getElem?_set_cases {l : List AgentSys} {j : Nat} {b : AgentSys}
    (h : (l.set i a')[j]? = some b) : (j = i ∧ b = a') ∨ (j ≠ i ∧ l[j]? = some b) := by
  rw [List.getElem?_set] at h
  split at h
  · rename_i hij
    split at h
    · cases h
      exact .inl ⟨hij.symm, rfl⟩
    · cases h
  · rename_i hij
    exact .inr ⟨fun hji => hij hji.symm, h⟩

end RicAgents

/-! ## What an agent's step does with the events -/

namespace AgentSys

variable {a a' : AgentSys} {e : AgentEvent}

/-- The action id of a subscription is that of an action requested. -/
theorem handleSubscriptionRequest_action {ag ag' : E2Agent} {sr : RicSubscriptionRequest}
    {ans : SubscriptionAns} {fd key : Fd} {resp : RicSubscriptionResponse} {ev : IndEvent}
    (h : ag.handleSubscriptionRequest sr ans fd = .next (resp, (key, ev), ag')) :
    ∃ act ∈ sr.action, act.id = ev.actionId := by
  simp only [E2Agent.handleSubscriptionRequest, E2Agent.supportedRicSubscriptionRequest,
    Outcome.bind_eq_next, Outcome.expect_eq_next, Outcome.pure_eq, Outcome.next_inj,
    Prod.mk.injEq] at h
  obtain ⟨act, ⟨⟨⟩, -, act', hact, ⟨⟩, -, rfl⟩, sm, -, ⟨type, k, ag₁⟩, -, m, -, -, ⟨-, rfl⟩, -⟩ := h
  exact ⟨act', List.mem_of_mem_head? hact, rfl⟩

/-- The subscriptions of an agent are those it had, and the one it is asked for. -/
theorem table_right (hs : a.step e = .next a') {x : IndEvent × Fd}
    (hx : x ∈ a'.ag.indEvent.right) : x ∈ a.ag.indEvent.right ∨
      ∃ sr ans fd, e = .subscription sr ans fd ∧ sr.ricId = x.1.ricId ∧
        ∃ act ∈ sr.action, act.id = x.1.actionId := by
  cases table_cases hs with
  | registered sr ans fd key ev ag event registered id eq =>
    clear eq registered
    subst event
    simp only [step, Outcome.bind_eq_next, Outcome.pure_eq, Outcome.next_inj] at hs
    obtain ⟨⟨⟩, -, ⟨resp, ⟨key', ev'⟩, ag'⟩, hh, rfl⟩ := hs
    obtain ⟨hreg, hid, -⟩ := E2Agent.handleSubscriptionRequest_eq_next hh
    have hind : ag'.indEvent = Bimap.inserted cmpFd cmpIndEvent a.ag.indEvent key' ev' := by
      rw [hreg.rest]
    simp only [hind, Bimap.inserted] at hx
    obtain heq | hx := List.mem_cons.mp ((OrdAssoc.insert_perm _ _ _ _).mem_iff.mp hx)
    · subst heq
      exact .inr ⟨sr, ans, fd, rfl, hid.symm, handleSubscriptionRequest_action hh⟩
    · exact .inl hx
  | notFound id picks event absent eq =>
    subst eq
    exact .inl hx
  | stopped id picks key ag event stopped eq =>
    subst eq
    obtain ⟨evl, evr, -, -, -, hr⟩ := Stopped.removed stopped
    exact .inl (hr.mem_iff.mpr (List.mem_cons_of_mem _ hx))
  | expired fd value newTimer encodes ag event isOpen notInd pend handled eq =>
    subst eq
    have hind : ag.indEvent = a.ag.indEvent := ((E2Agent.close_sameEvents fd).trans
      (E2Agent.handlePendingEvent_sameEvents handled)).indEvent
    rw [← hind]
    exact .inl hx
  | setUp picks ag event handled eq =>
    subst eq
    have hind : ag.indEvent = a.ag.indEvent :=
      (E2Agent.handleSetupResponse_sameEvents handled).indEvent
    rw [← hind]
    exact .inl hx
  | shutDown fdTimer ag event handled eq =>
    subst eq
    obtain ⟨-, -, rfl⟩ := E2Agent.handleConnectionShutdown_eq_next handled
    exact .inl hx
  | quiet same => exact .inl (same.indEvent ▸ hx)

/-- Only a push and a service change the events given to an agent. -/
theorem handed_eq (hs : a.step e = .next a') (hpush : ∀ k, e ≠ .push k)
    (hserve : ∀ value, e ≠ .serve value) : a'.handed = a.handed := by
  unfold handed
  cases queue_cases hs with
  | called thread ricReqId indData event eq => rw [eq]
  | locked k c tries event call was eq => rw [eq]
  | looked k c tries phase event call was new eq => rw [eq]
  | pushed k c ev event call was eq => exact absurd event (hpush k)
  | written k c event call was eq => rw [eq]
  | woken event was edge readable nonempty eq =>
    rw [eq, was, Loop.inHand_next, Loop.inHand_waiting, List.append_nil, List.nil_append]
  | served ev rest value event was eq => exact absurd event (hserve value)
  | consumed rest sent event was readable eq =>
    rw [eq, was, Loop.inHand_consuming]
    cases sent with
    | false => rw [if_neg Bool.false_ne_true, Loop.inHand_next]
    | true => rfl
  | disturbed id picks event same => rw [same.loop, same.aind]
  | quiet same => rw [same.loop, same.aind]

/-- A push hands one event of a call to the queue. -/
theorem step_push {k : Nat} (hs : a.step (.push k) = .next a') :
    ∃ x ev, a.calls[k]? = some x ∧ x.phase = .found ev ∧ a'.handed = a.handed ++ [ev.indData] ∧
      a'.calls = a.calls.set k { x with phase := .writing } ∧ a'.loop = a.loop := by
  simp only [step, Outcome.bind_eq_next] at hs
  obtain ⟨⟨⟩, -, hs⟩ := hs
  split at hs
  · rename_i ev hx
    cases hs
    refine ⟨_, ev, hx, rfl, ?_, rfl, rfl⟩
    unfold handed
    rw [← List.append_assoc, List.map_append]
    rfl
  · cases hs

/-- The loop serves the first event of those it took over. -/
theorem step_serve {value : Bool} (hs : a.step (.serve value) = .next a') :
    ∃ ev rest, a.loop = .serving ev rest ∧ a' = a.serve ev rest value := by
  simp only [step] at hs
  split at hs
  · rename_i ev rest hloop
    cases hs
    exact ⟨ev, rest, hloop, rfl⟩
  · cases hs

/-- Only the loop that has sent an indication ends the process. -/
theorem exits_cases (hs : a.step e = .next a') (hnot : a.loop.hasExited = false)
    (hexits : a'.loop.hasExited = true) : e = .consume ∧ a.loop.sends = true := by
  have hno {l : Loop} (hl : a'.loop = l) (hex : l.hasExited = false) :
      e = .consume ∧ a.loop.sends = true := by
    rw [hl, hex] at hexits
    cases hexits
  cases queue_cases hs with
  | called thread ricReqId indData event eq => exact hno (by rw [eq]) hnot
  | locked k c tries event call was eq => exact hno (by rw [eq]) hnot
  | looked k c tries phase event call was new eq => exact hno (by rw [eq]) hnot
  | pushed k c ev event call was eq => exact hno (by rw [eq]) hnot
  | written k c event call was eq => exact hno (by rw [eq]) hnot
  | woken event was edge readable nonempty eq =>
    refine hno (l := .next a.ag.aind) (by rw [eq]) ?_
    cases a.ag.aind <;> rfl
  | served ev rest value event was eq =>
    rw [eq] at hexits
    unfold serve at hexits
    split at hexits <;> cases hexits
  | consumed rest sent event was readable eq =>
    refine ⟨event, ?_⟩
    rw [was]
    cases sent with
    | false =>
      rw [eq] at hexits
      cases rest <;> cases hexits
    | true => rfl
  | disturbed id picks event same => exact hno same.loop hnot
  | quiet same => exact hno same.loop hnot

/-- A call of an agent goes on. -/
theorem calls_step (hs : a.step e = .next a') (hadm : a.admits e = true) :
    a'.calls.length ≤ a.calls.length ∧ ∀ y ∈ a'.calls, ∃ x ∈ a.calls,
      y.ricReqId = x.ricReqId ∧ y.indData = x.indData ∧
        ∀ ev, y.phase = .found ev → x.phase = .found ev ∨ ev.indData = x.indData := by
  have hsame (hcalls : a'.calls = a.calls) :
      a'.calls.length ≤ a.calls.length ∧ ∀ y ∈ a'.calls, ∃ x ∈ a.calls,
        y.ricReqId = x.ricReqId ∧ y.indData = x.indData ∧
          ∀ ev, y.phase = .found ev → x.phase = .found ev ∨ ev.indData = x.indData := by
    rw [hcalls]
    exact ⟨Nat.le_refl _, fun y hy => ⟨y, hy, rfl, rfl, fun ev hev => .inl hev⟩⟩
  cases queue_cases hs with
  | called thread ricReqId indData event eq =>
    subst event
    cases hadm
  | locked k c tries event call was eq =>
    subst eq
    refine ⟨Nat.le_of_eq List.length_set, fun y hy => ?_⟩
    obtain hy | rfl := List.mem_or_eq_of_mem_set hy
    · exact ⟨y, hy, rfl, rfl, fun ev hev => .inl hev⟩
    · exact ⟨c, List.mem_of_getElem? call, rfl, rfl, fun ev hev => by cases hev⟩
  | looked k c tries phase event call was new eq =>
    subst event
    obtain ⟨c, tries, stale, hc, -, hl⟩ := step_look hs
    obtain ⟨phase, rfl, hfound⟩ := look_phase hl
    refine ⟨Nat.le_of_eq List.length_set, fun y hy => ?_⟩
    obtain hy | rfl := List.mem_or_eq_of_mem_set hy
    · exact ⟨y, hy, rfl, rfl, fun ev hev => .inl hev⟩
    · refine ⟨c, List.mem_of_getElem? hc, rfl, rfl, fun ev hev => ?_⟩
      obtain ⟨indEv, -, rfl⟩ := hfound ev hev
      exact .inr rfl
  | pushed k c ev event call was eq =>
    subst eq
    refine ⟨Nat.le_of_eq List.length_set, fun y hy => ?_⟩
    obtain hy | rfl := List.mem_or_eq_of_mem_set hy
    · exact ⟨y, hy, rfl, rfl, fun ev hev => .inl hev⟩
    · exact ⟨c, List.mem_of_getElem? call, rfl, rfl, fun ev hev => by cases hev⟩
  | written k c event call was eq =>
    subst eq
    refine ⟨(List.eraseIdx_sublist a.calls k).length_le, fun y hy => ?_⟩
    exact ⟨y, List.mem_of_mem_eraseIdx hy, rfl, rfl, fun ev hev => .inl hev⟩
  | woken event was edge readable nonempty eq => exact hsame (by rw [eq])
  | served ev rest value event was eq =>
    refine hsame ?_
    rw [eq]
    unfold serve
    split <;> rfl
  | consumed rest sent event was readable eq => exact hsame (by rw [eq])
  | disturbed id picks event same =>
    rw [same.calls]
    refine ⟨Nat.le_of_eq (List.length_map _), fun y hy => ?_⟩
    obtain ⟨x, hx, rfl⟩ := List.mem_map.mp hy
    exact ⟨x, hx, x.disturbed_ricReqId, x.disturbed_indData, fun ev hev =>
      .inl (x.disturbed_found.mp hev)⟩
  | quiet same => exact hsame same.calls

/-- The only call has returned. -/
theorem calls_write {k : Nat} (hs : a.step (.write k) = .next a') (hone : a.calls.length ≤ 1) :
    a'.calls = [] := by
  simp only [step, Outcome.bind_eq_next] at hs
  obtain ⟨⟨⟩, -, hs⟩ := hs
  split at hs
  · rename_i hx
    simp only [Outcome.bind_eq_next, Outcome.pure_eq, Outcome.next_inj] at hs
    obtain ⟨⟨⟩, -, rfl⟩ := hs
    have hlt : k < a.calls.length := (List.getElem?_eq_some_iff.mp hx).1
    refine List.length_eq_zero_iff.mp ?_
    show (a.calls.eraseIdx k).length = 0
    rw [List.length_eraseIdx_of_lt hlt]
    omega
  · cases hs

/-- A search that meets the condition does not end the process. -/
theorem look_not_aborts {k : Nat} (hc : a.LookCond k) : ¬ (a.step (.look k)).Aborts := by
  simp only [step, Outcome.bind_aborts, Outcome.await_not_aborts, false_or]
  rintro ⟨⟨⟩, -, habort⟩
  split at habort
  · rename_i tries stale hx
    obtain ⟨rfl, hfound⟩ : stale = false ∧ _ := hc _ hx
    unfold look at habort
    simp only at hfound
    split at habort
    · simp [Outcome.assert] at habort
    · rename_i hnone
      rw [hnone] at hfound
      simp [Outcome.assert, hfound] at habort
  · exact Outcome.blocked_not_aborts habort

end AgentSys

/-! ## The events, one by one -/

namespace RicAgents

open AgentSys (AgentEvent)
open scoped List

variable {s s' : RicAgents} {a a' : AgentSys} {i : Nat} {e : AgentEvent}

/-- Each event is given once, at most; what is sent is freed, and only that; and at the end of the
process nothing is left to serve. -/
structure Once (s : RicAgents) : Prop where
  freed : s.freed.map some = s.sent.map (·.indData)
  nodup : s.given.Nodup
  all : ∀ d < s.raised.length, some d ∈ s.given ∨ s.calling = some d
  idle : s.exited = true → s.Idle

/-- While the process runs no loop has exited. -/
theorem not_exited (hex : s.exited = false) (ha : s.agents[i]? = some a) :
    a.loop.hasExited = false := by
  have hall := List.any_eq_false.mp hex a (List.mem_of_getElem? ha)
  simpa using hall

/-- The first loop that exits ends the process. -/
theorem exits_of_exited (hex : s.exited = false) (hagents : s'.agents = s.agents.set i a')
    (hex' : s'.exited = true) : a'.loop.hasExited = true := by
  obtain ⟨b, hb, hbx⟩ := List.any_eq_true.mp hex'
  rw [hagents] at hb
  obtain hb | rfl := List.mem_or_eq_of_mem_set hb
  · exact absurd hbx (List.any_eq_false.mp hex b hb)
  · exact hbx

/-- What is handed over is counted agent by agent. -/
theorem given_perm (hagents : s'.agents = s.agents.set i a') (ha : s.agents[i]? = some a) :
    (a.handed ++ s'.agents.flatMap AgentSys.handed).Perm
      (a'.handed ++ s.agents.flatMap AgentSys.handed) := by
  rw [hagents]
  exact perm_flatMap_set ha

/-- A step of an agent that leaves the events with it as they are. -/
theorem Once.same (h : Once s) (hex : s.exited = false) (ha : s.agents[i]? = some a)
    (hidle : a'.loop.hasExited = true → s.Idle) (hhanded : a'.handed = a.handed)
    (hagents : s'.agents = s.agents.set i a') (hcall : s'.calling = s.calling)
    (hraised : s'.raised = s.raised) (hsent : s'.sent = s.sent) (hfreed : s'.freed = s.freed) :
    Once s' := by
  have hperm : s'.given.Perm s.given := by
    unfold given
    rw [hsent]
    have hp := given_perm hagents ha
    rw [hhanded, List.perm_append_left_iff] at hp
    exact hp.append_left _
  refine ⟨?_, hperm.nodup_iff.mpr h.nodup, ?_, fun hex' => ?_⟩
  · rw [hfreed, hsent]
    exact h.freed
  · rw [hraised, hcall]
    exact fun d hd => (h.all d hd).imp hperm.mem_iff.mpr id
  · obtain ⟨hempty, hcalling⟩ := hidle (exits_of_exited hex hagents hex')
    refine ⟨fun b hb => ?_, ?_⟩
    · rw [hagents] at hb
      obtain hb | rfl := List.mem_or_eq_of_mem_set hb
      · exact hempty b hb
      · rw [hhanded]
        exact hempty a (List.mem_of_getElem? ha)
    · rw [hcall]
      exact fun d hd => hperm.mem_iff.mpr (hcalling d hd)

/-! ## The ids of the events -/

/-- An event that waits in the `i`-th agent, with the ids of a subscription to RC. -/
def EventFor (s : RicAgents) (i : Nat) (ev : AindEvent) : Prop :=
  ev.sm = smRcId ∧ s.Made i ev.ricId ev.actionId ∧
    ∃ d, ev.indData = some d ∧ s.raised[d]? = some ev.ricId.ricReqId

/-- A call of `e2_async_event_agent` of the `i`-th agent is the one `async_event_agent_api` is
in. -/
def InCall (s : RicAgents) (i : Nat) (x : Call) : Prop :=
  ∃ c, s.call = some c ∧ c.inside = true ∧ c.idx = i ∧ x.ricReqId = c.ricReqId ∧
    x.indData = some c.indData ∧ ∀ ev, x.phase = .found ev → ev.indData = some c.indData

structure AgentOk (s : RicAgents) (i : Nat) (a : AgentSys) : Prop where
  one : a.calls.length ≤ 1
  calls : ∀ x ∈ a.calls, s.InCall i x
  waiting : ∀ ev ∈ a.awaiting, s.EventFor i ev
  table : ∀ x ∈ a.ag.indEvent.right, s.Made i x.1.ricId x.1.actionId

structure Ids (s : RicAgents) : Prop where
  call : ∀ c ∈ s.call, s.raised[c.indData]? = some c.ricReqId
  agents : ∀ i a, s.agents[i]? = some a → s.AgentOk i a
  sent : ∀ x ∈ s.sent, s.Made x.agent x.ind.ricId x.ind.actionId ∧
    ∃ d, x.indData = some d ∧ s.raised[d]? = some x.ind.ricId.ricReqId

/-- More requests and more events. -/
structure Grows (s s' : RicAgents) : Prop where
  requested : s.requested ⊆ s'.requested
  raised : ∀ (d : Nat) (id : UInt32), s.raised[d]? = some id → s'.raised[d]? = some id

/-- What was requested stays requested. -/
theorem Made.mono {id : RicGenId} {actionId : UInt8} (h : s.Made i id actionId)
    (hg : Grows s s') : s'.Made i id actionId := by
  obtain ⟨sr, hsr, hid, hact⟩ := h
  exact ⟨sr, hg.requested hsr, hid, hact⟩

/-- An event for a request stays one as the process grows. -/
theorem EventFor.mono {ev : AindEvent} (h : s.EventFor i ev) (hg : Grows s s') :
    s'.EventFor i ev := by
  obtain ⟨hsm, hmade, d, hd, hid⟩ := h
  exact ⟨hsm, hmade.mono hg, d, hd, hg.raised d _ hid⟩

/-- An agent stays as it should be when the process grows elsewhere. -/
theorem AgentOk.mono (h : s.AgentOk i a) (hg : Grows s s')
    (hcall : s'.call = s.call ∨ a.calls = []) : s'.AgentOk i a := by
  refine ⟨h.one, ?_, fun ev hev => (h.waiting ev hev).mono hg, fun x hx => (h.table x hx).mono hg⟩
  obtain heq | hnil := hcall
  · unfold InCall
    rw [heq]
    exact h.calls
  · rw [hnil]
    exact fun x hx => by cases hx

/-- Only the agent of the call has one in it. -/
theorem Ids.calls_nil (h : Ids s) (hnot : ∀ c ∈ s.call, c.inside = true → c.idx ≠ i)
    (ha : s.agents[i]? = some a) : a.calls = [] := by
  refine List.eq_nil_iff_forall_not_mem.mpr fun x hx => ?_
  obtain ⟨c, hc, hinside, hidx, -⟩ := (h.agents i a ha).calls x hx
  exact hnot c hc hinside hidx

/-- What an agent's step keeps, in a state that knows of the request it handled and in which the
call goes on or has returned. -/
theorem AgentOk.step (h : s.AgentOk i a) (hids : Ids s) (hs : a.step e = .next a')
    (hadm : a.admits e = true) (hc : s.EventCond (.agent i e)) (ha : s.agents[i]? = some a)
    (hg : Grows s s') (hreq : ∀ sr ans fd, e = .subscription sr ans fd → (i, sr) ∈ s'.requested)
    (hcall : s'.call = s.call ∨ ∃ k, e = .write k) : s'.AgentOk i a' := by
  obtain ⟨hlen, hcalls⟩ := AgentSys.calls_step hs hadm
  refine ⟨Nat.le_trans hlen h.one, fun y hy => ?_, fun ev hev => ?_, fun x hx => ?_⟩
  · obtain heq | ⟨k, rfl⟩ := hcall
    · obtain ⟨x, hx, hid, hdata, hphase⟩ := hcalls y hy
      obtain ⟨c, hc, hinside, hidx, hxid, hxdata, hfound⟩ := h.calls x hx
      refine ⟨c, by rw [heq, hc], hinside, hidx, by rw [hid, hxid], by rw [hdata, hxdata], ?_⟩
      intro ev hev
      obtain hev | hev := hphase ev hev
      · exact hfound ev hev
      · rw [hev, hxdata]
    · rw [AgentSys.calls_write hs h.one] at hy
      cases hy
  · by_cases hlook : ∃ k, e = .look k
    · obtain ⟨k, rfl⟩ := hlook
      obtain hold | ⟨x, indEv, hx, hfind, rfl⟩ := AgentSys.awaiting_looked hs hev
      · exact (h.waiting ev hold).mono hg
      · obtain ⟨⟨y, hy, rfl⟩, hid⟩ := AgentSys.mem_of_findRicReqId hfind
        obtain ⟨c, hcc, -, -, hxid, hxdata, -⟩ := h.calls x (List.mem_of_getElem? hx)
        obtain ⟨c', tries, stale, hc', hphase, -⟩ := AgentSys.step_look hs
        rw [hx, Option.some.injEq] at hc'
        subst hc'
        have hsm := hc a ha x hx
        rw [hphase, hfind] at hsm
        refine ⟨hsm.2, (h.table y hy).mono hg, c.indData, hxdata, hg.raised _ _ ?_⟩
        rw [hid, hxid]
        exact hids.call c hcc
    · exact (h.waiting ev (AgentSys.awaiting_subset hs (fun k hk => hlook ⟨k, hk⟩) hev)).mono hg
  · obtain hold | ⟨sr, ans, fd, rfl, hid, hact⟩ := AgentSys.table_right hs hx
    · exact (h.table x hold).mono hg
    · exact ⟨sr, hreq sr ans fd rfl, hid, hact⟩

/-! ## One step of the process -/

/-- What the agents' steps leave as it is. -/
theorem report_agents : (s.report i a a' e).agents = s.agents ∧
    (s.report i a a' e).calling = s.calling ∧ (s.report i a a' e).raised = s.raised := by
  cases e with
  | write k =>
    refine ⟨rfl, ?_, rfl⟩
    unfold calling report
    cases s.call <;> rfl
  | serve value =>
    unfold report
    cases a.loop <;> exact ⟨rfl, rfl, rfl⟩
  | _ => exact ⟨rfl, rfl, rfl⟩

/-- Only a served event is sent. -/
theorem report_sent (hserve : ∀ value, e ≠ .serve value) :
    (s.report i a a' e).sent = s.sent ∧ (s.report i a a' e).freed = s.freed := by
  cases e with
  | serve value => exact absurd rfl (hserve value)
  | _ => exact ⟨rfl, rfl⟩

/-- Requests are added to, and none is taken back. -/
theorem report_requested : s.requested ⊆ (s.report i a a' e).requested ∧
    ∀ sr ans fd, e = .subscription sr ans fd → (i, sr) ∈ (s.report i a a' e).requested := by
  cases e with
  | subscription sr ans fd =>
    refine ⟨List.subset_append_left _ _, fun sr' ans' fd' heq => ?_⟩
    cases heq
    exact List.mem_append_right _ (List.mem_singleton_self _)
  | serve value =>
    unfold report
    cases a.loop <;> exact ⟨List.Subset.refl _, nofun⟩
  | _ => exact ⟨List.Subset.refl _, nofun⟩

/-- A call goes on with a write. -/
theorem report_call : (s.report i a a' e).call = s.call ∨
    (∃ k, e = .write k) ∧ (s.report i a a' e).call = s.call.map EventCall.next := by
  cases e with
  | write k => exact .inr ⟨⟨k, rfl⟩, rfl⟩
  | serve value =>
    unfold report
    cases a.loop <;> exact .inl rfl
  | _ => exact .inl rfl

/-- A write is of the call the process is in. -/
theorem InCall.of_write {k : Nat} (h : s.AgentOk i a) (hs : a.step (.write k) = .next a') :
    ∃ x, s.InCall i x := by
  simp only [AgentSys.step, Outcome.bind_eq_next] at hs
  obtain ⟨⟨⟩, -, hs⟩ := hs
  split at hs
  · rename_i hx
    exact ⟨_, h.calls _ (List.mem_of_getElem? hx)⟩
  · cases hs

/-- **What is served carries the id of its request.** -/
theorem served_eq {value : Bool} (h : s.AgentOk i a) (hs : a.step (.serve value) = .next a')
    (hadm : a.admits (.serve value) = true) : ∃ ev d, s.Made i ev.ricId ev.actionId ∧
      s.raised[d]? = some ev.ricId.ricReqId ∧ a'.loop.hasExited = false ∧ a.handed  =
      some d :: a'.handed ∧ ∀ t : RicAgents, t.report i a a' (.serve value) =
        { t with
          sent := t.sent ++ [⟨i, some d, generateAindication ev⟩]
          freed := t.freed ++ [d] } := by
  obtain ⟨ev, rest, hloop, rfl⟩ := AgentSys.step_serve hs
  have hmem : ev ∈ a.awaiting := by
    rw [AgentSys.mem_awaiting, hloop]
    exact .inr (.inl List.mem_cons_self)
  obtain ⟨hsm, hmade, d, hd, hid⟩ := h.waiting ev hmem
  have hvalue : value = true := by
    unfold AgentSys.admits at hadm
    simpa [hloop, hsm] using hadm
  have hserve : a.serve ev rest value =
      { a with
        served := a.served ++ [(ev, true)]
        sentAind := a.sentAind ++ [generateAindication ev]
        loop := .consuming rest true } := by
    unfold AgentSys.serve
    rw [hd, if_neg (by simp), hvalue, if_pos rfl]
  refine ⟨ev, d, hmade, hid, ?_, ?_, ?_⟩
  · rw [hserve]
    rfl
  · rw [hserve]
    simp [AgentSys.handed, hloop, hd]
  · intro t
    rw [hserve]
    simp [report, hloop, hd, hsm]

/-- An agent's step keeps the ids as they should be. -/
theorem Ids.agent (h : Ids s) (ha : s.agents[i]? = some a) (hadm : a.admits e = true)
    (hc : s.EventCond (.agent i e)) (hs : a.step e = .next a') :
    Ids ({ s with agents := s.agents.set i a' }.report i a a' e) := by
  obtain ⟨hagents, -, hraised⟩ := @report_agents { s with agents := s.agents.set i a' } a a' i e
  obtain ⟨hsub, hreq⟩ := @report_requested { s with agents := s.agents.set i a' } a a' i e
  have hcall := @report_call { s with agents := s.agents.set i a' } a a' i e
  have hsent := @report_sent { s with agents := s.agents.set i a' } a a' i e
  generalize hs' : { s with agents := s.agents.set i a' }.report i a a' e = s' at *
  have hg : Grows s s' := ⟨hsub, fun d id hd => by rw [hraised]; exact hd⟩
  refine ⟨fun c hcc => ?_, fun j b hb => ?_, fun x hx => ?_⟩
  · rw [hraised]
    obtain heq | ⟨-, heq⟩ := hcall
    · rw [heq] at hcc
      exact h.call c hcc
    · rw [heq] at hcc
      obtain ⟨c', hc', rfl⟩ := Option.map_eq_some_iff.mp hcc
      exact h.call c' hc'
  · rw [hagents] at hb
    obtain ⟨rfl, rfl⟩ | ⟨hji, hb⟩ := getElem?_set_cases hb
    · exact (h.agents j a ha).step h hs hadm hc ha hg hreq (hcall.imp id And.left)
    · refine (h.agents j b hb).mono hg (hcall.imp id ?_)
      rintro ⟨⟨k, rfl⟩, -⟩
      obtain ⟨x, c, hcc, -, hidx, -⟩ := InCall.of_write (h.agents i a ha) hs
      refine h.calls_nil (fun c' hc' _ hidx' => hji ?_) hb
      cases hcc.symm.trans hc'
      rw [← hidx, ← hidx']
  · by_cases hserve : ∃ value, e = .serve value
    · obtain ⟨value, rfl⟩ := hserve
      obtain ⟨ev, d, hmade, hid, -, -, heq⟩ := served_eq (h.agents i a ha) hs hadm
      rw [← hs', heq] at hx
      obtain hx | hx := List.mem_append.mp hx
      · obtain ⟨hmade, d, hd, hid⟩ := h.sent x hx
        exact ⟨hmade.mono hg, d, hd, hg.raised d _ hid⟩
      · rw [List.mem_singleton.mp hx]
        exact ⟨hmade.mono hg, d, rfl, hg.raised d _ hid⟩
    · rw [(hsent fun value hv => hserve ⟨value, hv⟩).1] at hx
      obtain ⟨hmade, d, hd, hid⟩ := h.sent x hx
      exact ⟨hmade.mono hg, d, hd, hg.raised d _ hid⟩

/-- An event is given to an agent. -/
theorem Once.push {d : Nat} (h : Once s) (hex : s.exited = false) (ha : s.agents[i]? = some a)
    (hnew : some d ∉ s.given) (hloop : a'.loop = a.loop)
    (hhanded : a'.handed = a.handed ++ [some d]) :
    Once { s with agents := s.agents.set i a' } := by
  have hperm : given { s with agents := s.agents.set i a' } ~ some d :: s.given := by
    unfold given
    have hp := perm_flatMap_set (f := AgentSys.handed) (b := a') ha
    rw [hhanded, List.append_assoc, List.perm_append_left_iff] at hp
    exact (hp.append_left _).trans List.perm_middle
  refine ⟨h.freed, hperm.nodup_iff.mpr (List.nodup_cons.mpr ⟨hnew, h.nodup⟩), fun d' hd' => ?_,
    fun hex' => ?_⟩
  · exact (h.all d' hd').imp (fun hg => hperm.mem_iff.mpr (List.mem_cons_of_mem _ hg)) id
  · have hexits : a'.loop.hasExited = true := exits_of_exited hex rfl hex'
    rw [hloop, not_exited hex ha] at hexits
    cases hexits

/-- An event is served. -/
theorem Once.serve {d : Nat} {ind : RicIndication} (h : Once s) (hex : s.exited = false)
    (ha : s.agents[i]? = some a) (hloop : a'.loop.hasExited = false)
    (hhanded : a.handed = some d :: a'.handed) :
    Once
      { s with
        agents := s.agents.set i a'
        sent := s.sent ++ [⟨i, some d, ind⟩]
        freed := s.freed ++ [d] } := by
  have hp := perm_flatMap_set (f := AgentSys.handed) (b := a') ha
  rw [hhanded, List.cons_append] at hp
  have hperm : (s.sent ++ [⟨i, some d, ind⟩] : List SentEvent).map (·.indData) ++
      (s.agents.set i a').flatMap AgentSys.handed ~ s.given := by
    rw [List.map_append, List.append_assoc]
    refine List.Perm.append_left _ ?_
    refine (List.perm_append_left_iff a'.handed).mp (List.Perm.trans ?_ hp)
    exact List.perm_middle
  refine ⟨?_, hperm.nodup_iff.mpr h.nodup, fun d' hd' => ?_, fun hex' => ?_⟩
  · rw [List.map_append, List.map_append, h.freed]
    rfl
  · exact (h.all d' hd').imp hperm.mem_iff.mpr id
  · have hexits : a'.loop.hasExited = true := exits_of_exited hex rfl hex'
    rw [hloop] at hexits
    cases hexits

/-- An agent's step keeps each event at one place. -/
theorem Once.agent (h : Once s) (hids : Ids s) (hex : s.exited = false)
    (ha : s.agents[i]? = some a) (hadm : a.admits e = true)
    (hc : s.EventCond (.agent i e)) (hs : a.step e = .next a') :
    Once ({ s with agents := s.agents.set i a' }.report i a a' e) := by
  by_cases hpush : ∃ k, e = .push k
  · obtain ⟨k, rfl⟩ := hpush
    obtain ⟨x, ev, hx, hphase, hhanded, -, hloop⟩ := AgentSys.step_push hs
    obtain ⟨c, hcc, -, -, -, -, hdata⟩ := (hids.agents i a ha).calls x (List.mem_of_getElem? hx)
    rw [hdata ev hphase] at hhanded
    refine h.push hex ha (hc c.indData ?_) hloop hhanded
    unfold calling
    rw [hcc]
    rfl
  by_cases hserve : ∃ value, e = .serve value
  · obtain ⟨value, rfl⟩ := hserve
    obtain ⟨ev, d, -, -, hloop, hhanded, heq⟩ := served_eq (hids.agents i a ha) hs hadm
    rw [heq]
    exact h.serve hex ha hloop hhanded
  · have hserve' : ∀ value, e ≠ .serve value := fun value hv => hserve ⟨value, hv⟩
    obtain ⟨hagents, hcalling, hraised⟩ :=
      @report_agents { s with agents := s.agents.set i a' } a a' i e
    obtain ⟨hsent, hfreed⟩ := @report_sent { s with agents := s.agents.set i a' } a a' i e hserve'
    have hhanded := AgentSys.handed_eq hs (fun k hk => hpush ⟨k, hk⟩) hserve'
    refine h.same hex ha (fun hexits => ?_) hhanded hagents hcalling hraised hsent
      hfreed
    obtain ⟨rfl, hsends⟩ := AgentSys.exits_cases hs (not_exited hex ha) hexits
    exact hc a ha hsends

/-! ## All runs -/

/-- A new agent keeps the ids as they should be. -/
theorem Ids.start {cfg : AgentConfig} (h : Ids s) :
    Ids { s with agents := s.agents ++ [AgentSys.init cfg] } := by
  refine ⟨h.call, fun j b hb => ?_, h.sent⟩
  rw [List.getElem?_append] at hb
  split at hb
  · exact (h.agents j b hb).mono ⟨List.Subset.refl _, fun _ _ hd => hd⟩ (.inl rfl)
  · have hb' := List.mem_of_getElem? hb
    rw [List.mem_singleton.mp hb']
    exact ⟨Nat.zero_le _, nofun, nofun, nofun⟩

/-- A new agent has no events, so each event stays at one place. -/
theorem Once.start {cfg : AgentConfig} (h : Once s) (hex : s.exited = false) :
    Once { s with agents := s.agents ++ [AgentSys.init cfg] } := by
  have hgiven : given { s with agents := s.agents ++ [AgentSys.init cfg] } = s.given := by
    unfold given
    rw [List.flatMap_append]
    exact congrArg _ (List.append_nil _)
  refine ⟨h.freed, hgiven ▸ h.nodup, fun d hd => hgiven ▸ h.all d hd, fun hex' => ?_⟩
  unfold exited at hex hex'
  rw [List.any_append, hex] at hex'
  cases hex'

/-- A raised event is nobody's yet. -/
theorem Ids.raise {thread : Nat} {ricReqId : UInt32} (h : Ids s) (hnone : s.call = none) :
    Ids
      { s with
        call := some ⟨thread, ricReqId, s.raised.length, 0, false⟩
        raised := s.raised ++ [ricReqId] } := by
  refine ⟨fun c hc => ?_, fun j b hb => ?_, fun x hx => ?_⟩
  · cases hc
    exact List.getElem?_concat_length
  · refine (h.agents j b hb).mono ⟨List.Subset.refl _, fun d id hd => ?_⟩ (.inr ?_)
    · exact (List.getElem?_append_left (List.getElem?_eq_some_iff.mp hd).1).trans hd
    · exact h.calls_nil (by rw [hnone]; exact nofun) hb
  · obtain ⟨hmade, d, hd, hid⟩ := h.sent x hx
    exact ⟨hmade, d, hd,
      (List.getElem?_append_left (List.getElem?_eq_some_iff.mp hid).1).trans hid⟩

/-- A new event is at one place, with its call. -/
theorem Once.raise {thread : Nat} {ricReqId : UInt32} (h : Once s) (hex : s.exited = false)
    (hnone : s.call = none) :
    Once
      { s with
        call := some ⟨thread, ricReqId, s.raised.length, 0, false⟩
        raised := s.raised ++ [ricReqId] } := by
  refine ⟨h.freed, h.nodup, fun d hd => ?_, fun hex' => ?_⟩
  · rw [List.length_append, List.length_singleton, Nat.lt_succ_iff_lt_or_eq] at hd
    obtain hd | rfl := hd
    · obtain hgiven | hcall := h.all d hd
      · exact .inl hgiven
      · rw [calling, hnone] at hcall
        cases hcall
    · exact .inr rfl
  · exact absurd hex' (ne_true_of_eq_false hex)

/-- The call is elsewhere, and in no agent. -/
theorem Ids.recall {call : Option EventCall} (h : Ids s)
    (hnil : ∀ (j : Nat) (b : AgentSys), s.agents[j]? = some b → b.calls = [])
    (hcall : ∀ c ∈ call, s.raised[c.indData]? = some c.ricReqId) : Ids { s with call } :=
  ⟨hcall, fun j b hb => (h.agents j b hb).mono ⟨List.Subset.refl _, fun _ _ hd => hd⟩
    (.inr (hnil j b hb)), h.sent⟩

/-- The call of the process may change, as long as its event has a place. -/
theorem Once.recall {call : Option EventCall} (h : Once s) (hex : s.exited = false)
    (hcall : ∀ d, s.calling = some d → some d ∈ s.given ∨ call.map EventCall.indData = some d) :
    Once { s with call } := by
  refine ⟨h.freed, h.nodup, fun d hd => ?_, fun hex' => ?_⟩
  · obtain hgiven | hcalling := h.all d hd
    · exact .inl hgiven
    · exact hcall d hcalling
  · exact absurd hex' (ne_true_of_eq_false hex)

/-- The call enters an agent. -/
theorem Ids.enter {c : EventCall} (h : Ids s)
    (hnil : ∀ (j : Nat) (b : AgentSys), s.agents[j]? = some b → b.calls = [])
    (hcc : s.call = some c)
    (ha : s.agents[c.idx]? = some a)
    (hs : a.step (.call c.thread c.ricReqId (some c.indData)) = .next a') :
    Ids { s with agents := s.agents.set c.idx a', call := some { c with inside := true } } := by
  simp only [AgentSys.step, Outcome.bind_eq_next, Outcome.pure_eq, Outcome.next_inj] at hs
  obtain ⟨⟨⟩, -, rfl⟩ := hs
  have hg : Grows s
      { s with
        agents := s.agents.set c.idx
          { a with calls := a.calls ++ [⟨c.thread, c.ricReqId, some c.indData, .looking 0⟩] }
        call := some { c with inside := true } } := ⟨List.Subset.refl _, fun _ _ hd => hd⟩
  refine ⟨fun c' hc' => ?_, fun j b hb => ?_, h.sent⟩
  · cases hc'
    exact h.call c hcc
  · obtain ⟨rfl, rfl⟩ | ⟨hji, hb⟩ := getElem?_set_cases hb
    · have hok := h.agents _ a ha
      refine ⟨?_, fun x hx => ?_, fun ev hev => (hok.waiting ev ?_).mono hg,
        fun x hx => (hok.table x hx).mono hg⟩
      · rw [hnil _ a ha]
        exact Nat.le_refl 1
      · rw [hnil _ a ha, List.nil_append, List.mem_singleton] at hx
        subst hx
        exact ⟨_, rfl, rfl, rfl, rfl, rfl, by simp⟩
      · rw [AgentSys.mem_awaiting] at hev ⊢
        refine hev.imp id (Or.imp id ?_)
        rintro ⟨x, hx, hxe⟩
        obtain hx | hx := List.mem_append.mp hx
        · exact ⟨x, hx, hxe⟩
        · rw [List.mem_singleton.mp hx] at hxe
          cases hxe
    · exact (h.agents j b hb).mono hg (.inr (hnil j b hb))

/-- **Every step under the condition keeps the ids and each event at one place.** -/
theorem runOk_step (hids : Ids s) (honce : Once s) {e : RicEvent} (hc : s.EventCond e)
    (hs : s.step e = .next s') : Ids s' ∧ Once s' := by
  cases e with
  | start cfg =>
    simp only [step, Outcome.bind_eq_next, Outcome.await_eq_next, Outcome.pure_eq,
      Outcome.next_inj, Bool.and_eq_true, Bool.not_eq_true'] at hs
    obtain ⟨⟨⟩, ⟨⟨hex, hnone⟩, -⟩, ⟨⟩, -, rfl⟩ := hs
    exact ⟨hids.start, honce.start hex⟩
  | raise thread ricReqId =>
    simp only [step, Outcome.bind_eq_next, Outcome.await_eq_next, Outcome.pure_eq,
      Outcome.next_inj, Bool.and_eq_true, Bool.not_eq_true'] at hs
    obtain ⟨⟨⟩, ⟨hex, hnone⟩, rfl⟩ := hs
    rw [Option.isNone_iff_eq_none] at hnone
    exact ⟨hids.raise hnone, honce.raise hex hnone⟩
  | advance =>
    simp only [step, Outcome.bind_eq_next, Outcome.await_eq_next, Outcome.awaitSome_eq_next,
      Bool.not_eq_true'] at hs
    obtain ⟨⟨⟩, hex, c, hcc, ⟨⟩, hinside, hs⟩ := hs
    have hnil : ∀ (j : Nat) (b : AgentSys), s.agents[j]? = some b → b.calls = [] := fun j b hb => by
      refine hids.calls_nil (fun c' hc' hinside' => ?_) hb
      cases hcc.symm.trans hc'
      rw [hinside] at hinside'
      cases hinside'
    split at hs
    · rename_i hnone
      cases hs
      refine ⟨hids.recall hnil (by simp), honce.recall hex fun d hd => ?_⟩
      obtain ⟨c', hc', rfl⟩ := Option.map_eq_some_iff.mp hd
      cases hcc.symm.trans hc'
      exact .inl (hc c hcc (List.getElem?_eq_none_iff.mp hnone))
    · rename_i a ha
      split at hs
      · simp only [Outcome.bind_eq_next, Outcome.pure_eq, Outcome.next_inj] at hs
        obtain ⟨a', hs, rfl⟩ := hs
        refine ⟨hids.enter hnil hcc ha hs, ?_⟩
        have hhanded := AgentSys.handed_eq hs (by simp) (by simp)
        refine honce.same hex ha (fun hexits => ?_) hhanded rfl ?_ rfl rfl rfl
        · cases (AgentSys.exits_cases hs (not_exited hex ha) hexits).1
        · unfold calling
          rw [hcc]
          rfl
      · cases hs
        refine ⟨hids.recall hnil fun c' hc' => ?_, honce.recall hex fun d hd => .inr ?_⟩
        · cases hc'
          exact hids.call c hcc
        · rw [calling, hcc] at hd
          exact hd
  | agent i e =>
    simp only [step, Outcome.bind_eq_next, Outcome.await_eq_next, Outcome.awaitSome_eq_next,
      Outcome.pure_eq, Outcome.next_inj, Bool.not_eq_true'] at hs
    obtain ⟨⟨⟩, hex, a, ha, ⟨⟩, hadm, a', hs, rfl⟩ := hs
    exact ⟨hids.agent ha hadm hc hs, honce.agent hids hex ha hadm hc hs⟩

/-- In every run under the condition the ids are as they should be, and each event is at one
place. -/
theorem runOk (h : ricAgentsMachine.ReachedBy EventCond s) : Ids s ∧ Once s := by
  have h0 : Ids .init ∧ Once .init :=
    ⟨⟨nofun, nofun, nofun⟩, ⟨rfl, List.nodup_nil, nofun, nofun⟩⟩
  exact h.invariant h0 fun _ _ _ _ hp hc hs => runOk_step hp.1 hp.2 hc hs

/-- An event was given if it was sent or handed over. -/
theorem mem_given {d : Nat} : some d ∈ s.given ↔
    (∃ x ∈ s.sent, x.indData = some d) ∨ ∃ a ∈ s.agents, some d ∈ a.handed := by
  unfold given
  rw [List.mem_append, List.mem_map, List.mem_flatMap]

/-- What is freed was sent, and as often. -/
theorem Once.count_freed (h : Once s) (d : Nat) : s.freed.count d = (s.sentFor d).length := by
  have hcount := congrArg (List.count (some d)) h.freed
  rw [List.count_map_of_injective _ _ (Option.some_injective Nat)] at hcount
  rw [hcount, List.count, List.countP_map, sentFor, ← List.countP_eq_length_filter]
  refine List.countP_congr fun x _ => ?_
  simp

/-- An event that was sent was sent once. -/
theorem Once.sent_once (h : Once s) {d : Nat} {x : SentEvent} (hx : x ∈ s.sent)
    (hd : x.indData = some d) : s.sentFor d = [x] := by
  have hmem : x ∈ s.sentFor d := List.mem_filter.mpr ⟨hx, by simpa using hd⟩
  have hle : (s.sentFor d).length ≤ 1 := by
    rw [← h.count_freed, ← List.count_map_of_injective _ _ (Option.some_injective Nat), h.freed]
    exact List.nodup_iff_count_le_one.mp (List.nodup_append.mp h.nodup).1 (some d)
  match hl : s.sentFor d, hle with
  | [], _ =>
    rw [hl] at hmem
    cases hmem
  | [y], _ =>
    rw [hl] at hmem
    rw [List.mem_singleton.mp hmem]

end RicAgents

end FlexRic
