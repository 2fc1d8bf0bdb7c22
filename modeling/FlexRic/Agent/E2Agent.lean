import FlexRic.Ds.Bimap
import FlexRic.E2ap.Ids

/-!
# FlexRic.Agent.E2Agent

The E2 agent of `e2_agent.c` and `msg_handler_agent.c`: its table of
subscriptions, the timer of its E2 setup request, and the queue of aperiodic
events.

Timers come from the operating system: the functions that create one take
the descriptor it hands out.  `timers` are the open timer descriptors, all
registered with `epoll`; `closedTwice` keeps the descriptors `close` was
called on while they were not open.
-/

namespace FlexRic

/-! ## Data -/

/-- `subscription_ans_e`. -/
inductive SubscriptionType where
  | periodic
  | aperiodic
  deriving DecidableEq, Repr

/-- `sm_ag_if_ans_subs_t`: what the service model answers to a subscription;
`other` is any value of `type` outside the enumeration's two. -/
inductive SubscriptionAns where
  | periodic (ms : Int)
  | aperiodic
  | other
  deriving DecidableEq, Repr

/-- `ric_action_type_e`. -/
inductive RicActionType where
  | report
  | insert
  | policy
  deriving DecidableEq, Repr

/-- What the handler reads of a `ric_action_t`. -/
structure RicAction where
  id : UInt8
  type : RicActionType
  deriving DecidableEq, Repr

/-- `ric_subscription_request_t`, without what only the service model reads. -/
structure RicSubscriptionRequest where
  ricId : RicGenId
  action : List RicAction
  deriving DecidableEq, Repr

/-- `ric_subscription_response_t` as the agent fills it: one admitted action. -/
structure RicSubscriptionResponse where
  ricId : RicGenId
  admitted : UInt8
  deriving DecidableEq, Repr

/-- `ind_event_t`; the service model is known by its RAN function id. -/
structure IndEvent where
  ricId : RicGenId
  sm : UInt16
  actionId : UInt8
  type : SubscriptionType
  deriving DecidableEq, Repr

/-- `cmp_ind_event`: "not all the struct is scanned". -/
def cmpIndEvent : Cmp IndEvent := fun m0 m1 => cmpRicGenId m0.ricId m1.ricId

/-- `eq_ind_event`. -/
def eqIndEvent (ricId : RicGenId) (ev : IndEvent) : Bool := eqRicGenId ricId ev.ricId

/-- `eq_ind_event_ric_req_id`. -/
def eqIndEventRicReqId (ricReqId : UInt32) (ev : IndEvent) : Bool := ricReqId == ev.ricId.ricReqId

/-- Events of subscriptions are ordered by request id. -/
theorem lawful_cmpIndEvent : LawfulCmp cmpIndEvent := lawful_cmpRicGenId.comap _

/-- Two events of subscriptions compare as equal exactly when their ids are. -/
@[simp] theorem cmpIndEvent_eq_zero {a b : IndEvent} : cmpIndEvent a b = 0 ↔ a.ricId = b.ricId :=
  cmpRicGenId_eq_zero

/-- `aind_event_t`: an aperiodic event on its way to the event loop.
`indData` is the pointer the RAN passed, if it is not `NULL`. -/
structure AindEvent where
  ricId : RicGenId
  sm : UInt16
  actionId : UInt8
  indData : Option Nat
  deriving DecidableEq, Repr

/-- `ric_connection_t`. -/
structure RicConnection where
  ricAddr : String
  retryCount : Nat
  deriving DecidableEq, Repr

inductive ConnectionState where
  | connected
  | disconnected
  deriving DecidableEq, Repr

/-- The fields of `e2_agent_t` these functions use.  `freedAper` keeps the
calls of `free_subs_aperiodic`, with the service model they went to. -/
structure E2Agent where
  plugin : List UInt16
  timers : List Fd
  closedTwice : List Fd
  indEvent : Bimap Fd IndEvent
  pending : Bimap Fd PendingEvent
  aind : List AindEvent
  transIdSetupReq : UInt32
  connectionState : ConnectionState
  initRicAddr : String
  ricConnections : List RicConnection
  freedAper : List (UInt16 × UInt32)
  deriving DecidableEq

namespace E2Agent

/-! ## Timers -/

/-- `create_timer_ms_asio_agent`; the system never hands out an open
descriptor. -/
def createTimerMs (ag : E2Agent) (initialMs intervalMs : Int) (fd : Fd) : Outcome E2Agent := do
  .assert (decide (-1 < initialMs)) "initial_ms > -1"
  .assert (decide (-1 < intervalMs)) "interval_ms > -1"
  .await (decide (0 < fd) && !ag.timers.contains fd)
  return { ag with timers := fd :: ag.timers }

/-- `close`, whose result is not looked at. -/
def close (ag : E2Agent) (fd : Fd) : E2Agent :=
  if fd ∈ ag.timers then { ag with timers := ag.timers.erase fd }
  else { ag with closedTwice := fd :: ag.closedTwice }

/-- `rm_fd_asio_agent`: out of `epoll`, then closed. -/
def rmFd (ag : E2Agent) (fd : Fd) : Outcome E2Agent := do
  .assert (ag.timers.contains fd) "rc != -1"
  return ag.close fd

/-! ## Subscriptions -/

/-- `sm_plugin_ag`. -/
def smPlugin (ag : E2Agent) (key : UInt16) : Outcome UInt16 := do
  .assert (decide (0 < key)) "Reserved value"
  .assert (ag.plugin.contains key) "RAN function ID not found in the RAN"
  return key

/-- `supported_ric_subscription_request`. -/
def supportedRicSubscriptionRequest (sr : RicSubscriptionRequest) : Outcome RicAction := do
  .assert (sr.action.length == 1) "Only one action supported"
  let act ← .expect sr.action.head? "Only one action supported"
  .assert (act.type == .report) "Only report supported"
  return act

/-- The type, the key and the timer of a new subscription: "0 value used for
aperiodic indication events". -/
def registerTimer (ag : E2Agent) (ans : SubscriptionAns) (fd : Fd) :
    Outcome (SubscriptionType × Fd × E2Agent) :=
  match ans with
  | .periodic ms => do
    .assert (decide (ms < 10001))
      "Subscription for granularity larger than 10 seconds requested? "
    let ag ← ag.createTimerMs ms ms fd
    return (.periodic, fd, ag)
  | .aperiodic => return (.aperiodic, 0, ag)
  | .other => .abort "Unknown subscritpion timer value"

/-- `e2ap_handle_subscription_request_agent`; also returns the entry it
registered. -/
def handleSubscriptionRequest (ag : E2Agent) (sr : RicSubscriptionRequest) (ans : SubscriptionAns)
    (fd : Fd) : Outcome (RicSubscriptionResponse × (Fd × IndEvent) × E2Agent) := do
  let act ← supportedRicSubscriptionRequest sr
  let sm ← ag.smPlugin sr.ricId.ranFuncId
  let (type, fd, ag) ← ag.registerTimer ans fd
  let ev : IndEvent := ⟨sr.ricId, sm, act.id, type⟩
  let indEvent ← Bimap.insert cmpFd cmpIndEvent ag.indEvent fd ev
  return (⟨sr.ricId, act.id⟩, (fd, ev), { ag with indEvent })

/-- `if (not_aperiodic_ind_event(*fd)) rm_fd_asio_agent(&ag->io, *fd)`. -/
def rmIndTimer (ag : E2Agent) (fd : Fd) : Outcome E2Agent :=
  if fd ≠ 0 then ag.rmFd fd else .next ag

/-- The search of `stop_ind_event` in the right tree finds the subscription. -/
def hasIndEvent (ag : E2Agent) (id : RicGenId) : Bool :=
  (OrdAssoc.findIf (eqIndEvent id) ag.indEvent.right).isSome

/-- `stop_ind_event`. -/
def stopIndEvent (ag : E2Agent) (id : RicGenId) (picks : Picks) : Outcome (Bool × E2Agent) :=
  match OrdAssoc.findIf (eqIndEvent id) ag.indEvent.right with
  | none => return (false, ag)
  | some (indEv, _) => do
    let freedAper :=
      if indEv.type = .aperiodic then (indEv.sm, id.ricReqId) :: ag.freedAper else ag.freedAper
    let (fd, indEvent) ←
      Bimap.extractRight cmpFd cmpIndEvent ag.indEvent ⟨id, 0, 0, .periodic⟩ picks
    let ag ← rmIndTimer { ag with indEvent, freedAper } fd
    return (true, ag)

/-- `e2ap_handle_subscription_delete_request_agent`: the answer is the
response with the same id, whether or not the subscription was found. -/
def handleSubscriptionDeleteRequest (ag : E2Agent) (id : RicGenId) (picks : Picks) :
    Outcome (RicGenId × E2Agent) := do
  let (_, ag) ← ag.stopIndEvent id picks
  return (id, ag)

/-- `ind_event`: the subscription whose timer expired. -/
def indEventOf (ag : E2Agent) (fd : Fd) : Option IndEvent :=
  (OrdAssoc.findIf (eqFd fd) ag.indEvent.left).map Prod.snd

/-- The search of `e2_async_event_agent` in the right tree. -/
def findRicReqId (ag : E2Agent) (ricReqId : UInt32) : Option IndEvent :=
  (OrdAssoc.findIf (eqIndEventRicReqId ricReqId) ag.indEvent.right).map Prod.fst

/-! ## The E2 setup request -/

/-- `bi_map_free` and `init_pending_events`. -/
def initPendingEvents (ag : E2Agent) : E2Agent := { ag with pending := .empty }

/-- A timer, entered into `pending`. -/
def armSetupTimer (ag : E2Agent) (initialMs intervalMs : Int) (fd : Fd) : Outcome E2Agent := do
  let ag ← ag.createTimerMs initialMs intervalMs fd
  let pending ← Bimap.insert cmpFd cmpPendingEvent ag.pending fd .setupRequest
  return { ag with pending }

/-- `gen_setup_request`, as far as it changes the agent. -/
def genSetupRequest (ag : E2Agent) : E2Agent :=
  { ag with transIdSetupReq := ag.transIdSetupReq + 1 }

/-- `current_ric->retry_count++`, at the first connection with the address. -/
def countRetry (addr : String) : List RicConnection → List RicConnection
  | [] => []
  | c :: cs =>
    if c.ricAddr = addr then { c with retryCount := c.retryCount + 1 } :: cs
    else c :: countRetry addr cs

/-- `pend_event`. -/
def pendEvent (ag : E2Agent) (fd : Fd) : Bool :=
  !ag.pending.left.isEmpty && (OrdAssoc.findIf (eqFd fd) ag.pending.left).isSome

/-- `handle_pending_event`; `encodes` tells whether the setup request could
be encoded. -/
def handlePendingEvent (ag : E2Agent) (newTimer : Fd) (encodes : Bool) : Outcome E2Agent :=
  if ag.ricConnections.any fun c => c.ricAddr == ag.initRicAddr then do
    let ag := (ag.pending.left.map Prod.fst).foldl close ag
    let ag := ag.initPendingEvents
    let ag := { ag with ricConnections := countRetry ag.initRicAddr ag.ricConnections }
    let ag ← ag.armSetupTimer 1000 0 newTimer
    let ag := ag.genSetupRequest
    return if encodes then ag else (ag.close newTimer).initPendingEvents
  else return ag

/-- `handle_connection_shutdown`: the pending entries go, their timers stay. -/
def handleConnectionShutdown (ag : E2Agent) (fdTimer : Fd) : Outcome E2Agent :=
  armSetupTimer { ag with connectionState := .disconnected, pending := .empty } 3000 3000 fdTimer

/-- `stop_pending_event`. -/
def stopPendingEvent (ag : E2Agent) (event : PendingEvent) (picks : Picks) : Outcome E2Agent := do
  let (fd, pending) ← Bimap.extractRight cmpFd cmpPendingEvent ag.pending event picks
  .assert (decide (0 < fd)) "*fd > 0"
  rmFd { ag with pending } fd

/-- `e2ap_handle_setup_response_agent`. -/
def handleSetupResponse (ag : E2Agent) (picks : Picks) : Outcome E2Agent := do
  let ag ← ag.stopPendingEvent .setupRequest picks
  .assert (decide (0 < ag.transIdSetupReq))
    "Receiving an E2 SETUP-RESPONSE, eventhough not E2 SETUP-REQUEST not sent from this E2 Node"
  return { ag with transIdSetupReq := 0 }

/-! ## What the handlers do -/

variable {ag ag' : E2Agent} {fd : Fd} {picks : Picks}

/-- A new entry in the table: a periodic subscription under its new timer,
an aperiodic one under `0`. -/
structure Registered (ag : E2Agent) (fd key : Fd) (ev : IndEvent) (ag' : E2Agent) : Prop where
  timer : ev.type = .periodic ∧ key = fd ∧ 0 < fd ∧ fd ∉ ag.timers ∧ ag'.timers = fd :: ag.timers ∨
    ev.type = .aperiodic ∧ key = 0 ∧ ag'.timers = ag.timers
  rest : ag' =
    { ag with timers := ag'.timers, indEvent := Bimap.inserted cmpFd cmpIndEvent ag.indEvent key ev }

/-- A new timer has a descriptor of its own, which is watched from then on. -/
theorem createTimerMs_eq_next {initialMs intervalMs : Int}
    (h : ag.createTimerMs initialMs intervalMs fd = .next ag') :
    0 < fd ∧ fd ∉ ag.timers ∧ ag' = { ag with timers := fd :: ag.timers } := by
  simp only [createTimerMs, Outcome.bind_eq_next, Outcome.assert_eq_next, Outcome.await_eq_next,
    Outcome.pure_eq, Outcome.next_inj, Bool.and_eq_true, decide_eq_true_eq, Bool.not_eq_true',
    List.contains_eq_mem, decide_eq_false_iff_not] at h
  obtain ⟨⟨⟩, -, ⟨⟩, -, ⟨⟩, ⟨hpos, hnot⟩, rfl⟩ := h
  exact ⟨hpos, hnot, rfl⟩

/-- A descriptor that is no longer watched was watched before. -/
theorem rmFd_eq_next (h : ag.rmFd fd = .next ag') :
    fd ∈ ag.timers ∧ ag' = { ag with timers := ag.timers.erase fd } := by
  simp only [rmFd, Outcome.bind_eq_next, Outcome.assert_eq_next, Outcome.pure_eq,
    Outcome.next_inj, List.contains_eq_mem, decide_eq_true_eq] at h
  obtain ⟨⟨⟩, hmem, rfl⟩ := h
  exact ⟨hmem, by rw [close, if_pos hmem]⟩

/-- A descriptor that is watched is removed without an abort. -/
theorem rmFd_eq (h : fd ∈ ag.timers) :
    ag.rmFd fd = .next { ag with timers := ag.timers.erase fd } := by
  simp [rmFd, close, h, Outcome.assert]

/-- The descriptor 0 is no timer. -/
theorem rmIndTimer_eq (h : fd ≠ 0 → fd ∈ ag.timers) :
    ag.rmIndTimer fd =
      .next { ag with timers := if fd = 0 then ag.timers else ag.timers.erase fd } := by
  unfold rmIndTimer
  by_cases hz : fd = 0
  · rw [if_neg (not_not.mpr hz), if_pos hz]
  · rw [if_pos hz, if_neg hz, rmFd_eq (h hz)]

/-- **What a subscription request does**: it registers an event, with a timer if it is periodic. -/
theorem handleSubscriptionRequest_eq_next {sr : RicSubscriptionRequest} {ans : SubscriptionAns}
    {resp : RicSubscriptionResponse} {key : Fd} {ev : IndEvent}
    (h : ag.handleSubscriptionRequest sr ans fd = .next (resp, (key, ev), ag')) :
    ag.Registered fd key ev ag' ∧ ev.ricId = sr.ricId ∧ resp = ⟨sr.ricId, ev.actionId⟩ := by
  simp only [handleSubscriptionRequest, Outcome.bind_eq_next, Outcome.pure_eq, Outcome.next_inj,
    Bimap.insert_eq lawful_cmpFd lawful_cmpIndEvent, Prod.mk.injEq] at h
  obtain ⟨act, -, sm, -, ⟨type, k, ag₁⟩, hreg, m, rfl, rfl, ⟨rfl, rfl⟩, rfl⟩ := h
  refine ⟨?_, rfl, rfl⟩
  cases ans with
  | periodic ms =>
    simp only [registerTimer, Outcome.bind_eq_next, Outcome.pure_eq, Outcome.next_inj,
      Prod.mk.injEq] at hreg
    obtain ⟨⟨⟩, -, ag₂, ht, rfl, rfl, rfl⟩ := hreg
    obtain ⟨hpos, hnot, rfl⟩ := createTimerMs_eq_next ht
    exact ⟨.inl ⟨rfl, rfl, hpos, hnot, rfl⟩, rfl⟩
  | aperiodic =>
    cases hreg
    exact ⟨.inr ⟨rfl, rfl, rfl⟩, rfl⟩
  | other => simp [registerTimer] at hreg

/-- The table without the entry the two searches found, the timer gone with
it. -/
structure Stopped (ag : E2Agent) (id : RicGenId) (picks : Picks) (key : Fd) (ag' : E2Agent) :
    Prop where
  extracted : Bimap.extractRight cmpFd cmpIndEvent ag.indEvent ⟨id, 0, 0, .periodic⟩ picks =
    .next (key, ag'.indEvent)
  timer : key ≠ 0 → key ∈ ag.timers
  freed : ∃ e ∈ ag.indEvent.right, e.1.ricId = id ∧ ag'.freedAper =
    if e.1.type = .aperiodic then (e.1.sm, id.ricReqId) :: ag.freedAper else ag.freedAper
  rest : ag' =
    { ag with
      indEvent := ag'.indEvent
      freedAper := ag'.freedAper
      timers := if key = 0 then ag.timers else ag.timers.erase key }

/-- The search looks at the right tree. -/
theorem hasIndEvent_iff {id : RicGenId} :
    ag.hasIndEvent id = true ↔ ∃ e ∈ ag.indEvent.right, e.1.ricId = id := by
  rw [hasIndEvent, OrdAssoc.findIf, List.find?_isSome]
  refine exists_congr fun e => and_congr_right fun _ => ?_
  rw [eqIndEvent, eqRicGenId_iff, eq_comm]

/-- What was stopped was in the table. -/
theorem Stopped.hasIndEvent {id : RicGenId} {key : Fd} (h : ag.Stopped id picks key ag') :
    ag.hasIndEvent id = true := by
  obtain ⟨e, he, hid, -⟩ := h.freed
  exact hasIndEvent_iff.mpr ⟨e, he, hid⟩

/-- **What a deletion does**: nothing, or it takes one entry and its timer away. -/
theorem stopIndEvent_eq_next {id : RicGenId} {found : Bool}
    (h : ag.stopIndEvent id picks = .next (found, ag')) :
    (found = false ∧ ag' = ag ∧ ∀ e ∈ ag.indEvent.right, e.1.ricId ≠ id) ∨
      found = true ∧ ∃ key, ag.Stopped id picks key ag' := by
  unfold stopIndEvent at h
  split at h
  · rename_i hnone
    cases h
    refine .inl ⟨rfl, rfl, fun e he heq => ?_⟩
    have := OrdAssoc.findIf_eq_none.mp hnone e he
    rw [eqIndEvent, eqRicGenId_iff.mpr heq.symm] at this
    contradiction
  · rename_i indEv key₀ hfind
    simp only [Outcome.bind_eq_next, Outcome.pure_eq, Outcome.next_inj, Prod.mk.injEq] at h
    obtain ⟨⟨key, m⟩, hx, ag₁, hrm, rfl, rfl⟩ := h
    have hid : indEv.ricId = id := by
      have hkey : eqIndEvent id indEv = true := OrdAssoc.findIf_key hfind
      exact (eqRicGenId_iff.mp hkey).symm
    have hmem := OrdAssoc.mem_of_findIf hfind
    refine .inr ⟨rfl, key, ?_⟩
    unfold rmIndTimer at hrm
    split at hrm
    · rename_i hkey
      obtain ⟨hopen, rfl⟩ := rmFd_eq_next hrm
      exact ⟨hx, fun _ => hopen, ⟨_, hmem, hid, rfl⟩, by rw [if_neg hkey]⟩
    · rename_i hkey
      cases hrm
      have hkey := not_not.mp hkey
      exact ⟨hx, fun hne => absurd hkey hne, ⟨_, hmem, hid, rfl⟩, by rw [if_pos hkey]⟩

/-- The setup timer is one that is pending. -/
theorem armSetupTimer_eq_next {initialMs intervalMs : Int}
    (h : ag.armSetupTimer initialMs intervalMs fd = .next ag') :
    0 < fd ∧ fd ∉ ag.timers ∧
      ag' =
        { ag with
          timers := fd :: ag.timers
          pending := Bimap.inserted cmpFd cmpPendingEvent ag.pending fd .setupRequest } := by
  simp only [armSetupTimer, Outcome.bind_eq_next, Outcome.pure_eq, Outcome.next_inj,
    Bimap.insert_eq lawful_cmpFd lawful_cmpPendingEvent] at h
  obtain ⟨ag₁, ht, m, rfl, rfl⟩ := h
  obtain ⟨hpos, hnot, rfl⟩ := createTimerMs_eq_next ht
  exact ⟨hpos, hnot, rfl⟩

end E2Agent

end FlexRic
