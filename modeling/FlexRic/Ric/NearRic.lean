import FlexRic.Ds.Bimap
import FlexRic.E2ap.Ids

/-!
# FlexRic.Ric.NearRic

The request side of `near_ric.c` and the answer side of `msg_handler_ric.c`:
how the near-RT RIC numbers its E2 procedures, starts their timers, and
stops a timer when an answer arrives.

Each function takes the state of the RIC and returns it changed.  A timer's
descriptor comes from the operating system: `timer` is what
`create_timer_ms_asio_ric` obtains there.  The functions that start a timer
also return its descriptor, for the bookkeeping of `FlexRic.Ric.System`.
-/

namespace FlexRic

/-- The fields of `near_ric_t` these functions use: the E2 nodes that have a
socket address, the request counter (an `atomic_int`, read as 32 bits), the
largest forwarded id, and the timers of the pending procedures. -/
structure NearRic where
  e2Nodes : List GlobalE2NodeId
  reqId : UInt32
  lastReqId : UInt16
  pending : Bimap Fd PendingEventRic
  deriving DecidableEq

namespace NearRic

/-- `init_near_ric`. -/
def init : NearRic := ⟨[], 0, 0, .empty⟩

/-! ## Sending a request -/

/-- Create a timer and enter it into `pending`.  The system may refuse a
timer, and `cmp_fd` then meets `-1`; it never hands out an open one. -/
def startTimer (ric : NearRic) (timer : Option Fd) (ev : PendingEventRic) :
    Outcome (Fd × NearRic) := do
  let fd ← .expect timer "File descriptors must be larger than zero"
  .assert (decide (0 < fd)) "fd cannot be negative, data corrupted"
  .await (!ric.pending.left.any fun e => e.1 == fd)
  let pending ← Bimap.insert cmpFd cmpPendingEventRic ric.pending fd ev
  return (fd, { ric with pending })

/-- Encode a message with the RIC request id `ricId` and send it to the
node: `e2ap_enc_…_ric` followed by `e2ap_send_bytes_ric`. -/
def sendBytes (ric : NearRic) (id : GlobalE2NodeId) (ricId : RicGenId) : Outcome PUnit := do
  .assert (decide (IdFits ricId)) "er.encoded > -1"
  .assert (ric.e2Nodes.any (eqGlobalE2NodeId id)) "E2 Node not found in the tree"

/-- The tail every request function ends with: "a pending event is created
along with a timer", then the message goes out. -/
def sendRequest (ric : NearRic) (id : GlobalE2NodeId) (ev : PendingEventRic)
    (timer : Option Fd) : Outcome (Fd × NearRic) := do
  let (fd, ric) ← ric.startTimer timer ev
  ric.sendBytes id ev.id
  return (fd, ric)

/-- `fwd_ric_subscription_request`: the xApp's id goes out unchanged, and
the counter is set to it. -/
def fwdRicSubscriptionRequest (ric : NearRic) (id : GlobalE2NodeId) (srId : RicGenId)
    (timer : Option Fd) : Outcome (UInt16 × Fd × NearRic) := do
  let originalRicReqId := srId.ricReqId.toUInt16
  let ric :=
    { ric with
      lastReqId := if originalRicReqId > ric.lastReqId then originalRicReqId else ric.lastReqId
      reqId := originalRicReqId.toUInt32 }
  let (fd, ric) ← ric.sendRequest id ⟨.subscriptionRequest, srId⟩ timer
  return (originalRicReqId, fd, ric)

/-- `fwd_ric_subscription_request_delete`: nothing is sent while the same
deletion is pending. -/
def fwdRicSubscriptionRequestDelete (ric : NearRic) (id : GlobalE2NodeId) (sdrId : RicGenId)
    (timer : Option Fd) : Outcome (Option Fd × NearRic) := do
  let ev : PendingEventRic := ⟨.subscriptionDeleteRequest, sdrId⟩
  match OrdAssoc.findIf (eqPendingEventRic ev) ric.pending.right with
  | some _ => return (none, ric)
  | none =>
    let (fd, ric) ← ric.sendRequest id ev timer
    return (some fd, ric)

/-- `fwd_ric_control_request`: the id is the counter's, stored into the
message. -/
def fwdRicControlRequest (ric : NearRic) (id : GlobalE2NodeId) (crId : RicGenId)
    (timer : Option Fd) : Outcome (RicGenId × Fd × NearRic) := do
  let ricReqId := ric.reqId.toUInt16
  let ric := { ric with reqId := ric.reqId + 1 }
  let crId := { crId with ricReqId := storeLow16 crId.ricReqId ricReqId }
  let (fd, ric) ← ric.sendRequest id ⟨.controlRequest, crId⟩ timer
  return (crId, fd, ric)

/-- `report_service_near_ric`, with the id of `generate_subscription_request`. -/
def reportServiceNearRic (ric : NearRic) (id : GlobalE2NodeId) (ranFuncId : UInt16)
    (timer : Option Fd) : Outcome (RicGenId × Fd × NearRic) := do
  .assert (ranFuncId != 0) "Reserved SM ID value"
  .assert (decide (ranFuncId < 150)) "Not still reached upper limit"
  let ricId : RicGenId := ⟨ric.reqId, 0, ranFuncId⟩
  let ric := { ric with reqId := ric.reqId + 1 }
  let (fd, ric) ← ric.sendRequest id ⟨.subscriptionRequest, ricId⟩ timer
  return (ricId, fd, ric)

/-- `rm_report_service_near_ric`: the caller names the request to delete,
and no pending deletion is looked for. -/
def rmReportServiceNearRic (ric : NearRic) (id : GlobalE2NodeId) (ranFuncId actId : UInt16)
    (timer : Option Fd) : Outcome (RicGenId × Fd × NearRic) := do
  .assert (decide (0 < actId)) "act_id > 0"
  let sdId : RicGenId := ⟨actId.toUInt32, 0, ranFuncId⟩
  let (fd, ric) ← ric.sendRequest id ⟨.subscriptionDeleteRequest, sdId⟩ timer
  return (sdId, fd, ric)

/-- `control_service_near_ric`, with the id of `generate_control_request`. -/
def controlServiceNearRic (ric : NearRic) (id : GlobalE2NodeId) (ranFuncId : UInt16)
    (timer : Option Fd) : Outcome (RicGenId × Fd × NearRic) := do
  .assert (decide (0 < ranFuncId)) "ran_func_id > 0"
  .assert (ranFuncId == 3 || ranFuncId == 145 || ranFuncId == 146)
    "ran_func_id == 3 || ran_func_id == 145 || ran_func_id == 146"
  let ricId : RicGenId := ⟨ric.reqId, 0, ranFuncId⟩
  let ric := { ric with reqId := ric.reqId + 1 }
  let (fd, ric) ← ric.sendRequest id ⟨.controlRequest, ricId⟩ timer
  return (ricId, fd, ric)

/-! ## Receiving an answer -/

/-- `stop_pending_event`. -/
def stopPendingEvent (ric : NearRic) (ev : PendingEventRic) (picks : Picks) :
    Outcome (Fd × NearRic) := do
  let (fd, pending) ← Bimap.extractRight cmpFd cmpPendingEventRic ric.pending ev picks
  .assert (decide (0 < fd)) "*fd > 0"
  return (fd, { ric with pending })

/-- What `e2ap_handle_subscription_response_ric` reads of a
`ric_subscription_response_t`: the admitted actions and how many were not. -/
structure Admission where
  admitted : List UInt8
  lenNa : Nat
  deriving DecidableEq, Repr

/-- The assertions of `e2ap_handle_subscription_response_ric`. -/
def checkAdmission (resp : Admission) : Outcome PUnit := do
  .assert (resp.lenNa == 0) "No other case implemented"
  .assert (resp.admitted.length == 1) "No other case implemented"
  .assert (resp.admitted.head? == some 0) "No other case implemented"

/-- The handlers of the three answers up to `notify_msg_iapp_api`: they stop
the timer of the procedure the answer names; the subscription response is
checked as well. -/
def handleAnswer (ric : NearRic) (ev : PendingEvent) (id : RicGenId) (resp : Admission)
    (picks : Picks) : Outcome (Fd × NearRic) := do
  let (fd, ric) ← ric.stopPendingEvent ⟨ev, id⟩ picks
  if ev = .subscriptionRequest then checkAdmission resp
  return (fd, ric)

/-- `pend_event`: whose timer is it that expired? -/
def pendEvent (ric : NearRic) (fd : Fd) : Outcome PendingEventRic := do
  let e ← .expect (OrdAssoc.findIf (eqFd fd) ric.pending.left) "it != end_it"
  return e.2

/-! ## What the functions do -/

variable {ric ric' : NearRic} {id : GlobalE2NodeId} {timer : Option Fd} {fd : Fd}
  {ev : PendingEventRic} {picks : Picks}

/-- One entry more in `pending`, under a descriptor that was not open, and
the request went out. -/
structure Started (ric : NearRic) (fd : Fd) (ev : PendingEventRic) (ric' : NearRic) : Prop where
  pos : 0 < fd
  notOpen : ∀ e ∈ ric.pending.left, e.1 ≠ fd
  pending : ric'.pending = Bimap.inserted cmpFd cmpPendingEventRic ric.pending fd ev
  e2Nodes : ric'.e2Nodes = ric.e2Nodes
  fits : IdFits ev.id

/-- **A request that is sent** starts a timer, and leaves the counter alone. -/
theorem sendRequest_eq_next (h : sendRequest ric id ev timer = .next (fd, ric')) :
    Started ric fd ev ric' ∧ ric'.reqId = ric.reqId := by
  simp only [sendRequest, startTimer, sendBytes, Outcome.bind_eq_next, Outcome.expect_eq_next,
    Outcome.assert_eq_next, Outcome.await_eq_next,
    Bimap.insert_eq lawful_cmpFd lawful_cmpPendingEventRic, Outcome.pure_eq, Outcome.next_inj,
    decide_eq_true_eq] at h
  obtain ⟨⟨fd, ric₁⟩, ⟨fd, -, ⟨⟩, hpos, ⟨⟩, hopen, pending, hp, he⟩, ⟨⟩, ⟨⟨⟩, hfits, -⟩, heq⟩ := h
  cases he
  cases heq
  subst hp
  refine ⟨⟨hpos, fun e he heq => ?_, rfl, rfl, hfits⟩, rfl⟩
  have hany : ric.pending.left.any (fun e => e.1 == fd) = true :=
    List.any_eq_true.mpr ⟨e, he, by simp [heq]⟩
  simp [hany] at hopen

/-- A forwarded subscription sets the counter back to the xApp's id. -/
theorem fwdRicSubscriptionRequest_eq_next {srId : RicGenId} {newId : UInt16}
    (h : fwdRicSubscriptionRequest ric id srId timer = .next (newId, fd, ric')) :
    Started ric fd ⟨.subscriptionRequest, srId⟩ ric' ∧ newId.toUInt32 = srId.ricReqId ∧
      ric'.reqId = srId.ricReqId := by
  simp only [fwdRicSubscriptionRequest, Outcome.bind_eq_next, Outcome.pure_eq,
    Outcome.next_inj] at h
  obtain ⟨⟨fd, ric₁⟩, hs, heq⟩ := h
  cases heq
  obtain ⟨hst, hr⟩ := sendRequest_eq_next hs
  exact ⟨⟨hst.pos, hst.notOpen, hst.pending, hst.e2Nodes, hst.fits⟩,
    toUInt32_toUInt16 hst.fits, hr.trans (toUInt32_toUInt16 hst.fits)⟩

/-- A forwarded deletion keeps the counter, and does nothing if one is pending. -/
theorem fwdRicSubscriptionRequestDelete_eq_next {sdrId : RicGenId} {fd? : Option Fd}
    (h : fwdRicSubscriptionRequestDelete ric id sdrId timer = .next (fd?, ric')) :
    (fd? = none ∧ ric' = ric ∧ ∃ e ∈ ric.pending.right, e.1 = ⟨.subscriptionDeleteRequest, sdrId⟩) ∨
      ∃ fd, fd? = some fd ∧ Started ric fd ⟨.subscriptionDeleteRequest, sdrId⟩ ric' ∧
        ric'.reqId = ric.reqId ∧
        ∀ e ∈ ric.pending.right, e.1 ≠ ⟨.subscriptionDeleteRequest, sdrId⟩ := by
  simp only [fwdRicSubscriptionRequestDelete] at h
  split at h
  · rename_i e he
    have hkey := OrdAssoc.findIf_key he
    cases h
    exact .inl ⟨rfl, rfl, e, OrdAssoc.mem_of_findIf he, (eqPendingEventRic_iff.mp hkey).symm⟩
  · rename_i hnone
    simp only [Outcome.bind_eq_next, Outcome.pure_eq, Outcome.next_inj] at h
    obtain ⟨⟨fd, ric₁⟩, hs, heq⟩ := h
    cases heq
    obtain ⟨hst, hr⟩ := sendRequest_eq_next hs
    refine .inr ⟨fd, rfl, hst, hr, fun e he heq => ?_⟩
    have := OrdAssoc.findIf_eq_none.mp hnone e he
    rw [heq, eqPendingEventRic_iff.mpr rfl] at this
    contradiction

/-- A forwarded control request takes its id from the counter. -/
theorem fwdRicControlRequest_eq_next {crId newId : RicGenId}
    (h : fwdRicControlRequest ric id crId timer = .next (newId, fd, ric')) :
    Started ric fd ⟨.controlRequest, newId⟩ ric' ∧
      newId = { crId with ricReqId := ric.reqId.toUInt16.toUInt32 } ∧
      ric'.reqId = ric.reqId + 1 := by
  simp only [fwdRicControlRequest, Outcome.bind_eq_next, Outcome.pure_eq, Outcome.next_inj] at h
  obtain ⟨⟨fd, ric₁⟩, hs, heq⟩ := h
  cases heq
  obtain ⟨hst, hr⟩ := sendRequest_eq_next hs
  refine ⟨⟨hst.pos, hst.notOpen, hst.pending, hst.e2Nodes, hst.fits⟩, ?_, hr⟩
  rw [storeLow16_of_lt hst.fits]

/-- The RIC's own subscription takes its id from the counter. -/
theorem reportServiceNearRic_eq_next {ranFuncId : UInt16} {newId : RicGenId}
    (h : reportServiceNearRic ric id ranFuncId timer = .next (newId, fd, ric')) :
    Started ric fd ⟨.subscriptionRequest, newId⟩ ric' ∧ newId = ⟨ric.reqId, 0, ranFuncId⟩ ∧
      ric'.reqId = ric.reqId + 1 := by
  simp only [reportServiceNearRic, Outcome.bind_eq_next, Outcome.pure_eq, Outcome.next_inj] at h
  obtain ⟨⟨⟩, -, ⟨⟩, -, ⟨fd, ric₁⟩, hs, heq⟩ := h
  cases heq
  obtain ⟨hst, hr⟩ := sendRequest_eq_next hs
  exact ⟨⟨hst.pos, hst.notOpen, hst.pending, hst.e2Nodes, hst.fits⟩, rfl, hr⟩

/-- The deletion of the RIC's own subscription goes under the id it is given. -/
theorem rmReportServiceNearRic_eq_next {ranFuncId actId : UInt16} {sdId : RicGenId}
    (h : rmReportServiceNearRic ric id ranFuncId actId timer = .next (sdId, fd, ric')) :
    Started ric fd ⟨.subscriptionDeleteRequest, sdId⟩ ric' ∧
      sdId = ⟨actId.toUInt32, 0, ranFuncId⟩ ∧ ric'.reqId = ric.reqId := by
  simp only [rmReportServiceNearRic, Outcome.bind_eq_next, Outcome.pure_eq, Outcome.next_inj] at h
  obtain ⟨⟨⟩, -, ⟨fd, ric₁⟩, hs, heq⟩ := h
  cases heq
  obtain ⟨hst, hr⟩ := sendRequest_eq_next hs
  exact ⟨hst, rfl, hr⟩

/-- The RIC's own control request takes its id from the counter. -/
theorem controlServiceNearRic_eq_next {ranFuncId : UInt16} {newId : RicGenId}
    (h : controlServiceNearRic ric id ranFuncId timer = .next (newId, fd, ric')) :
    Started ric fd ⟨.controlRequest, newId⟩ ric' ∧ newId = ⟨ric.reqId, 0, ranFuncId⟩ ∧
      ric'.reqId = ric.reqId + 1 := by
  simp only [controlServiceNearRic, Outcome.bind_eq_next, Outcome.pure_eq, Outcome.next_inj] at h
  obtain ⟨⟨⟩, -, ⟨⟩, -, ⟨fd, ric₁⟩, hs, heq⟩ := h
  cases heq
  obtain ⟨hst, hr⟩ := sendRequest_eq_next hs
  exact ⟨⟨hst.pos, hst.notOpen, hst.pending, hst.e2Nodes, hst.fits⟩, rfl, hr⟩

/-- What is left of `pending` after an answer, and what stays as it was. -/
theorem handleAnswer_eq_next {ev : PendingEvent} {ricId : RicGenId} {resp : Admission}
    (h : handleAnswer ric ev ricId resp picks = .next (fd, ric')) :
    Bimap.extractRight cmpFd cmpPendingEventRic ric.pending ⟨ev, ricId⟩ picks =
        .next (fd, ric'.pending) ∧
      ric'.e2Nodes = ric.e2Nodes ∧ ric'.reqId = ric.reqId := by
  simp only [handleAnswer, stopPendingEvent, Outcome.bind_eq_next, Outcome.pure_eq,
    Outcome.next_inj] at h
  obtain ⟨⟨fd, ric₁⟩, ⟨⟨fd₂, pending⟩, hx, ⟨⟩, -, heq⟩, h⟩ := h
  obtain ⟨rfl, rfl⟩ := Prod.mk.injEq .. ▸ heq
  split at h
  · simp only [Outcome.bind_eq_next, Outcome.next_inj, Prod.mk.injEq] at h
    obtain ⟨-, -, rfl, rfl⟩ := h
    exact ⟨hx, rfl, rfl⟩
  · cases h
    exact ⟨hx, rfl, rfl⟩

end NearRic

end FlexRic
