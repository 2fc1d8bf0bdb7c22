import FlexRic.IApp.Xapps

/-!
# FlexRic.IApp.XappIdentity

Whether the iApp refuses the requests of those who are no xApps of its own.

`valid_xapp_id` compares an id with the next one to be handed out, and only
the subscription handler turns a request down because of it.  So a request
under the id of nobody is refused exactly when it is a subscription request
under an id the counter has not come to (`xapp_identity`); the ids in
between make the handlers fail an assertion, or act.
-/

namespace FlexRic

/-- A request of an xApp: `e42_ric_subscription_request_t`,
`e42_ric_subscription_delete_request_t` or `e42_ric_control_request_t`. -/
inductive E42Message where
  | subscription (m : E42Request)
  | subscriptionDelete (xappId : UInt16) (ricId : RicGenId)
  | control (m : E42Request)
  deriving DecidableEq

namespace E42Message

/-- The id the request comes under. -/
def xappId : E42Message → UInt16
  | subscription m => m.xappId
  | subscriptionDelete xappId _ => xappId
  | control m => m.xappId

def isSubscription : E42Message → Bool
  | subscription _ => true
  | _ => false

/-- The iApp's thread receives the request; `timer` is what the system hands
out for a timer. -/
def event (timer : Option Fd) : E42Message → Sys.Event
  | subscription m => .e42Subscribe m timer
  | subscriptionDelete xappId ricId => .e42Delete xappId ricId
  | control m => .e42Control m timer

end E42Message

namespace XappSys

variable {relock : Relock} {s : XappSys} {msg : E42Message} {m : E42Request}

/-- The request is turned down: nothing is sent, and nothing changes. -/
def Rejects (relock : Relock) (s : XappSys) (msg : E42Message) : Prop :=
  ∀ timer, s.step relock (msg.event timer) = .next s

/-- The id has an address with port 0. -/
def Portless (s : XappSys) (xappId : UInt16) : Prop :=
  (s.sys.iapp.xapps.findMapXappsSad xappId).toOption.any (·.sinPort == 0) = true

/-- The request comes from an xApp that is there, or the subscription handler
sees that it does not. -/
def Seen (s : XappSys) (msg : E42Message) : Prop :=
  s.Connected msg.xappId ∨ (msg.isSubscription = true ∧
    (s.sys.iapp.xappId < msg.xappId.toUInt32 ∨ s.Portless msg.xappId))

instance (s : XappSys) (msg : E42Message) : Decidable (Seen s msg) :=
  inferInstanceAs (Decidable (_ ∨ (_ ∧ (_ ∨ (_ = _)))))

/-- Without a timer nothing can be sent. -/
theorem fwdSubscription_none_aborts {ricSys : RicSys} {node : GlobalE2NodeId} {id : RicGenId}
    {origin : Option XappRicId} : (ricSys.fwdSubscription node id origin none).Aborts := by
  simp [RicSys.fwdSubscription, NearRic.fwdRicSubscriptionRequest, NearRic.sendRequest,
    NearRic.startTimer, Outcome.bind_aborts]

/-- The two tests of the subscription handler that turn a request down. -/
theorem rejects_subscription (hidle : s.sys.pc = .idle)
    (h : s.sys.iapp.xappId < m.xappId.toUInt32 ∨ s.Portless m.xappId) :
    Rejects relock s (.subscription m) := by
  intro timer
  refine step_eq_next.mpr ⟨s.sys, ?_, rfl⟩
  simp only [E42Message.event, Sys.step, Sys.e42Subscribe, hidle, beq_self_eq_true, Outcome.await,
    if_true, Outcome.next_bind]
  split
  · rfl
  · rename_i hvalid
    have hle : m.xappId.toUInt32 ≤ s.sys.iapp.xappId := by simpa [Sys.validXappId] using hvalid
    have hport := h.resolve_left (UInt32.not_lt.mpr hle)
    obtain ⟨info, hinfo, hzero⟩ := (Option.any_eq_true _ _).mp hport
    rw [Outcome.toOption_eq_some.mp hinfo, Outcome.next_bind, if_pos hzero]
    rfl

theorem subscription_aborts (hidle : s.sys.pc = .idle)
    (hvalid : ¬ s.sys.iapp.xappId < m.xappId.toUInt32) (hport : ¬ s.Portless m.xappId) :
    (s.sys.e42Subscribe m none).Aborts := by
  have hle : s.sys.validXappId m.xappId = true := decide_eq_true (UInt32.not_lt.mp hvalid)
  simp only [Sys.e42Subscribe, hidle, beq_self_eq_true, Outcome.await, if_true, Outcome.next_bind,
    hle, Bool.not_true, Bool.false_eq_true, if_false]
  cases hinfo : s.sys.iapp.xapps.findMapXappsSad m.xappId with
  | abort msg => exact Outcome.abort_aborts
  | blocked => simp [MapXapps.findMapXappsSad, Outcome.expect] at hinfo; split at hinfo <;> cases hinfo
  | next info =>
    rw [Outcome.next_bind, if_neg fun hzero => hport (by simp [Portless, hinfo, Outcome.toOption,
      hzero])]
    exact Outcome.bind_aborts.mpr (.inl fwdSubscription_none_aborts)

theorem not_rejects_subscription (hidle : s.sys.pc = .idle)
    (hvalid : ¬ s.sys.iapp.xappId < m.xappId.toUInt32) (hport : ¬ s.Portless m.xappId) :
    ¬ Rejects relock s (.subscription m) := by
  intro h
  have habort := subscription_aborts hidle hvalid hport
  exact Outcome.not_aborts_of_next (h none) (Outcome.bind_aborts.mpr (.inl habort))

/-- A deletion is looked up at once, whoever asks for it. -/
theorem not_rejects_delete (hidle : s.sys.pc = .idle) {xappId : UInt16} {ricId : RicGenId} :
    ¬ Rejects relock s (.subscriptionDelete xappId ricId) := by
  intro h
  obtain ⟨sys, hsys, heq⟩ := step_eq_next.mp (h none)
  cases Sys.step_cases hsys with
  | deleteFound xappId ricId n =>
    have hpc := congrArg (fun s => s.sys.pc) heq
    rw [hidle] at hpc
    cases hpc

/-- A control request is sent on, or fails an assertion. -/
theorem not_rejects_control (hidle : s.sys.pc = .idle) : ¬ Rejects relock s (.control m) := by
  intro h
  obtain ⟨sys, hsys, heq⟩ := step_eq_next.mp (h none)
  cases Sys.step_cases hsys with
  | controlForwarded m timer req ricSys idle forwarded =>
    have hpc := congrArg (fun s => s.sys.pc) heq
    rw [hidle] at hpc
    cases hpc

/-- **Who is turned down.** -/
theorem rejects_iff (hidle : s.sys.pc = .idle) :
    Rejects relock s msg ↔ msg.isSubscription = true ∧
      (s.sys.iapp.xappId < msg.xappId.toUInt32 ∨ s.Portless msg.xappId) := by
  cases msg with
  | subscription m =>
    constructor
    · intro h
      by_contra hno
      obtain ⟨hvalid, hport⟩ := not_or.mp fun hor => hno ⟨rfl, hor⟩
      exact not_rejects_subscription hidle hvalid hport h
    · exact fun h => rejects_subscription hidle h.2
  | subscriptionDelete xappId ricId =>
    exact ⟨fun h => absurd h (not_rejects_delete hidle), fun h => absurd h.1 Bool.false_ne_true⟩
  | control m =>
    exact ⟨fun h => absurd h (not_rejects_control hidle), fun h => absurd h.1 Bool.false_ne_true⟩

/-- **Identity of the xApps.** In every state the iApp can get into, it acts
on a request only for an xApp that is there, and turns down every other one,
if and only if the sender is there, or the request is a subscription request
under an id beyond the next one or with port 0.  The ids that get past
the test without having been handed out are the next one and those of `0` to
`6` that the counter has not come back to. -/
theorem xapp_identity (relock : Relock) (s : XappSys) (h : (machine relock).Reachable s)
    (hidle : s.sys.pc = .idle) (msg : E42Message) :
    ((¬ s.Connected msg.xappId → Rejects relock s msg) ↔ Seen s msg) ∧
      ((s.sys.validXappId msg.xappId = true ∧ ¬ s.Assigned msg.xappId) ↔
        msg.xappId.toUInt32 = s.sys.iapp.xappId ∨
          (msg.xappId < 7 ∧ s.sys.iapp.xappId.toNat ≤ 65536 + msg.xappId.toNat)) := by
  refine ⟨?_, valid_not_assigned h msg.xappId⟩
  rw [rejects_iff hidle, Seen]
  exact Decidable.imp_iff_not_or.trans (or_congr Decidable.not_not Iff.rfl)

/-- A control request under an id that was never handed out. -/
def strangersControl : E42Request := ⟨3, .gnb 1, ⟨1, 0, 3⟩⟩

/-- A control request under the id of nobody goes out to the E2 node. -/
theorem unassigned_control_forwarded :
    ¬ ∀ relock s, (machine relock).Reachable s → s.sys.pc = .idle → ∀ msg : E42Message,
      ¬ s.Connected msg.xappId → Rejects relock s msg := by
  intro hclaim
  obtain ⟨s, hr, hs⟩ := Machine.Reachable.exists_of_run (M := machine .deadlock) Sys.setUp
    (fun s => s.sys.pc == .idle && !decide (s.Connected 3) &&
      (s.step .deadlock (.e42Control strangersControl (some 5))).toOption.any
        fun s' => s'.sys.pc != .idle && s'.sys.ricSys.procs.length == 1)
    (by decide)
  simp only [Bool.and_eq_true, beq_iff_eq, Bool.not_eq_true', decide_eq_false_iff_not] at hs
  obtain ⟨⟨hidle, hconn⟩, hsent⟩ := hs
  have hstep : s.step .deadlock (.e42Control strangersControl (some 5)) = .next s :=
    hclaim .deadlock s hr hidle (.control strangersControl) hconn (some 5)
  simp [hstep, Outcome.toOption, hidle] at hsent

/-- With two xApps set up, a subscription request under an id far beyond
theirs is turned down. -/
theorem xapp_identity_beyond :
    ∃ s : XappSys, s.Connected 7 ∧ s.Connected 8 ∧
      ∀ node ricId, Rejects .deadlock s (.subscription ⟨500, node, ricId⟩) := by
  obtain ⟨s, hr, hs⟩ := Machine.Reachable.exists_of_run (M := machine .deadlock) Sys.setUp
    (fun s => s.sys.pc == .idle && decide (s.Connected 7) && decide (s.Connected 8) &&
      !decide (s.Connected 500) && decide (s.sys.iapp.xappId < 500)) (by decide)
  simp only [Bool.and_eq_true, beq_iff_eq, decide_eq_true_eq, Bool.not_eq_true',
    decide_eq_false_iff_not] at hs
  obtain ⟨⟨⟨⟨hidle, h7⟩, h8⟩, h500⟩, hlt⟩ := hs
  exact ⟨s, h7, h8, fun node ricId =>
    (xapp_identity .deadlock s hr hidle (.subscription ⟨500, node, ricId⟩)).1.mpr
      (.inr ⟨rfl, .inl hlt⟩) h500⟩

end XappSys

end FlexRic
