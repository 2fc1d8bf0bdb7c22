import FlexRic.IApp.Steps

/-!
# FlexRic.IApp.SubscribeAtomic

The subscription handler of the iApp from beginning to end: does it do all
of what it does or nothing?

It sends the request to the E2 node, with a timer, before it finds out
whether the new id is usable and whether the registry has room; on the two
returns behind that the request stays sent and pending.  So it is atomic
exactly when a request that gets as far as being sent has an id other than
`0` and room in the registry (`subscribe_atomic`).
-/

namespace FlexRic

namespace Sys

/-- `e2ap_handle_e42_ric_subscription_request_iapp` without another thread in
between; whether it came to its end. -/
def handleSubscriptionRequest (s : Sys) (m : E42Request) (timer : Option Fd) (reallocOk : Bool) :
    Outcome (Bool × Sys) := do
  let s₁ ← s.e42Subscribe m timer
  if s₁.pc == .idle then return (false, s₁)
  else
    let s₂ ← s₁.iappRegister reallocOk
    if s₂.pc == .idle then return (false, s₂)
    else
      let s₃ ← s₂.iappInsert
      return (true, s₃)

variable {s s' : Sys} {m : E42Request} {timer : Option Fd} {reallocOk : Bool} {fd : Fd}

/-- The entry of the registry for the request. -/
def registryEntry (m : E42Request) : SubscriptionEntry :=
  ⟨m.xappId.toUInt32, m.ricId.ranFuncId, m.ricId.ricReqId.toUInt16, true⟩

/-- The pending event of the request. -/
def pendingEvent (m : E42Request) : PendingEventRic := ⟨.subscriptionRequest, m.ricId⟩

/-- Nothing was sent, and the three tables are as before. -/
structure Untouched (s s' : Sys) : Prop where
  sent : s'.hist.created = s.hist.created
  procs : s'.ricSys.procs = s.ricSys.procs
  pending : s'.ricSys.ric.pending = s.ricSys.ric.pending
  registry : s'.iapp.registry = s.iapp.registry
  map : s'.iapp.map = s.iapp.map

/-- The three tables contain the new subscription. -/
structure Contains (s' : Sys) (m : E42Request) : Prop where
  pending : ∃ fd, (fd, pendingEvent m) ∈ s'.ricSys.ric.pending.left ∧
    (pendingEvent m, fd) ∈ s'.ricSys.ric.pending.right
  registry : registryEntry m ∈ s'.iapp.registry.entries
  map : (⟨m.ricId, m.id, .subscription⟩, ⟨m.ricId, m.xappId⟩) ∈ s'.iapp.map.left ∧
    (⟨m.ricId, m.xappId⟩, ⟨m.ricId, m.id, .subscription⟩) ∈ s'.iapp.map.right

/-- If the handler returns, it has done all or nothing. -/
def Atomic (s : Sys) (m : E42Request) (timer : Option Fd) (reallocOk : Bool) : Prop :=
  ∀ accepted s', s.handleSubscriptionRequest m timer reallocOk = .next (accepted, s') →
    if accepted then Contains s' m else Untouched s s'

/-- The request passes the checks before it is sent, and can be sent: there
is a timer for it, its id fits into the message, and the node has an address. -/
structure Sendable (s : Sys) (m : E42Request) (timer : Option Fd) : Prop where
  valid : s.validXappId m.xappId = true
  address : ∃ info, s.iapp.xapps.findMapXappsSad m.xappId = .next info ∧ info.sinPort ≠ 0
  timer : ∃ fd, timer = some fd ∧ 0 < fd ∧ ∀ e ∈ s.ricSys.ric.pending.left, e.1 ≠ fd
  fits : IdFits m.ricId
  node : s.ricSys.ric.e2Nodes.any (eqGlobalE2NodeId m.id) = true

/-- The registry has an entry for the xApp and the RAN function, or place
for one more, or can be enlarged. -/
def Room (s : Sys) (m : E42Request) (reallocOk : Bool) : Prop :=
  (m.xappId.toUInt32, m.ricId.ranFuncId) ∈ s.iapp.registry.entries.map SubscriptionRegistry.key ∨
    s.iapp.registry.entries.length < s.iapp.registry.capacity ∨ reallocOk = true

instance (s : Sys) (m : E42Request) (reallocOk : Bool) : Decidable (Room s m reallocOk) :=
  inferInstanceAs (Decidable (_ ∨ _))

/-! ## The registry -/

theorem updateFirst_mem {xappId : UInt32} {ranFuncId ricReqId : UInt16}
    {t t' : List SubscriptionEntry}
    (h : SubscriptionRegistry.updateFirst xappId ranFuncId ricReqId t = some t') :
    ⟨xappId, ranFuncId, ricReqId, true⟩ ∈ t' := by
  induction t generalizing t' with
  | nil => cases h
  | cons e t ih =>
    simp only [SubscriptionRegistry.updateFirst] at h
    split at h
    · rename_i hkey
      simp only [Bool.and_eq_true, beq_iff_eq] at hkey
      cases h
      rw [← hkey.1, ← hkey.2]
      exact List.mem_cons_self
    · obtain ⟨u, hu, rfl⟩ := Option.map_eq_some_iff.mp h
      exact List.mem_cons_of_mem _ (ih hu)

/-- A registration that succeeds leaves an active entry behind. -/
theorem register_mem {r r' : SubscriptionRegistry} {xappId : UInt32} {ranFuncId ricReqId : UInt16}
    (h : r.register xappId ranFuncId ricReqId reallocOk = (true, r')) :
    ⟨xappId, ranFuncId, ricReqId, true⟩ ∈ r'.entries := by
  simp only [SubscriptionRegistry.register] at h
  split at h
  · rename_i hupd
    cases h
    exact updateFirst_mem hupd
  · split at h
    · split at h
      · cases h
        exact List.mem_append_right _ List.mem_cons_self
      · cases h
    · cases h
      exact List.mem_append_right _ List.mem_cons_self

/-- When a registration succeeds. -/
theorem register_fst {ricReqId : UInt16} :
    (s.iapp.registry.register m.xappId.toUInt32 m.ricId.ranFuncId ricReqId reallocOk).1 = true ↔
      Room s m reallocOk := by
  rw [Room, SubscriptionRegistry.register]
  cases hupd : SubscriptionRegistry.updateFirst m.xappId.toUInt32 m.ricId.ranFuncId ricReqId
      s.iapp.registry.entries with
  | some t => exact ⟨fun _ => .inl (SubscriptionRegistry.updateFirst_eq_some hupd).2.1, fun _ => rfl⟩
  | none =>
    have hnew := SubscriptionRegistry.updateFirst_eq_none hupd
    by_cases hfull : s.iapp.registry.entries.length ≥ s.iapp.registry.capacity
    · cases reallocOk <;> simp [hfull, hnew]
    · simp [hfull, Nat.lt_of_not_ge hfull]

/-! ## Sending -/

/-- The request goes out exactly when it can be sent. -/
theorem fwdSubscription_next_iff {ricSys : RicSys} {node : GlobalE2NodeId} {id : RicGenId}
    (origin : Option XappRicId) :
    (∃ r, ricSys.fwdSubscription node id origin timer = .next r) ↔
      (∃ fd, timer = some fd ∧ 0 < fd ∧ ∀ e ∈ ricSys.ric.pending.left, e.1 ≠ fd) ∧
        IdFits id ∧ ricSys.ric.e2Nodes.any (eqGlobalE2NodeId node) = true := by
  cases timer with
  | none =>
    simp [RicSys.fwdSubscription, NearRic.fwdRicSubscriptionRequest, NearRic.sendRequest,
      NearRic.startTimer]
  | some fd =>
    simp [RicSys.fwdSubscription, NearRic.fwdRicSubscriptionRequest, NearRic.sendRequest,
      NearRic.startTimer, NearRic.sendBytes, Bimap.insert_eq lawful_cmpFd lawful_cmpPendingEventRic]

/-- What the first part of the handler does. -/
theorem e42Subscribe_eq_next (h : s.e42Subscribe m timer = .next s') :
    (¬ Sendable s m timer ∧ s' = s) ∨ Sendable s m timer ∧ ∃ newId req ricSys,
      s.ricSys.fwdSubscription m.id m.ricId (some ⟨m.ricId, m.xappId⟩) timer =
        .next (newId, req, ricSys) ∧
      s' = { s with
        ricSys
        pc := if newId = 0 then .idle else .subForwarded m newId req
        hist.created := s.hist.created ++ [req]
        hist.liveSubs := s.hist.liveSubs ++ [req] } := by
  simp only [e42Subscribe, Outcome.bind_eq_next, Outcome.await_eq_next, beq_iff_eq] at h
  obtain ⟨⟨⟩, -, h⟩ := h
  split at h
  · rename_i hinvalid
    cases h
    exact .inl ⟨fun hsend => by simp [hsend.valid] at hinvalid, rfl⟩
  · rename_i hvalid
    simp only [Outcome.bind_eq_next] at h
    obtain ⟨info, hinfo, h⟩ := h
    split at h
    · rename_i hport
      cases h
      refine .inl ⟨fun hsend => ?_, rfl⟩
      obtain ⟨info', hinfo', hport'⟩ := hsend.address
      cases hinfo.symm.trans hinfo'
      exact hport' (by simpa using hport)
    · rename_i hport
      simp only [Outcome.bind_eq_next, Outcome.pure_eq, Outcome.next_inj] at h
      obtain ⟨⟨newId, req, ricSys⟩, hf, rfl⟩ := h
      obtain ⟨htimer, hfits, hnode⟩ := (fwdSubscription_next_iff _).mp ⟨_, hf⟩
      exact .inr ⟨⟨by simpa using hvalid, ⟨info, hinfo, by simpa using hport⟩, htimer, hfits, hnode⟩,
        newId, req, ricSys, hf, rfl⟩

theorem e42Subscribe_of_sendable (hidle : s.pc = .idle) (h : Sendable s m timer) :
    ∃ s₁, s.e42Subscribe m timer = .next s₁ := by
  obtain ⟨info, hinfo, hport⟩ := h.address
  obtain ⟨⟨newId, req, ricSys⟩, hf⟩ := (fwdSubscription_next_iff (some ⟨m.ricId, m.xappId⟩)).mpr
    ⟨h.timer, h.fits, h.node⟩
  simp [e42Subscribe, hidle, Outcome.await, h.valid, hinfo, hport, hf]

/-! ## The handler as a whole -/

/-- How the handler returns. -/
inductive Returns (s : Sys) (m : E42Request) (timer : Option Fd) (reallocOk : Bool) :
    Bool → Sys → Prop
  | refused (sendable : ¬ Sendable s m timer) : Returns s m timer reallocOk false s
  | cut (s' : Sys) (sendable : Sendable s m timer) (req : Req)
      (sent : s'.hist.created = s.hist.created ++ [req])
      (why : m.ricId.ricReqId = 0 ∨ ¬ Room s m reallocOk) : Returns s m timer reallocOk false s'
  | done (s' : Sys) (sendable : Sendable s m timer) (id : m.ricId.ricReqId ≠ 0)
      (room : Room s m reallocOk) (contains : Contains s' m) : Returns s m timer reallocOk true s'

theorem handle_returns (hidle : s.pc = .idle) {accepted : Bool}
    (h : s.handleSubscriptionRequest m timer reallocOk = .next (accepted, s')) :
    Returns s m timer reallocOk accepted s' := by
  rw [handleSubscriptionRequest, Outcome.bind_eq_next] at h
  obtain ⟨s₁, h₁, h⟩ := h
  obtain ⟨hno, rfl⟩ | ⟨hsend, newId, req, ricSys, hf, hs₁⟩ := e42Subscribe_eq_next h₁
  · simp only [hidle, beq_self_eq_true, if_true, Outcome.pure_eq, Outcome.next_inj] at h
    cases h
    exact .refused hno
  · obtain ⟨rfl, hid, fd, ric, hst, rfl⟩ := RicSys.fwdSubscription_eq_next hf
    by_cases hzero : newId = 0
    · rw [if_pos hzero] at hs₁
      subst hs₁
      simp only [beq_self_eq_true, if_true, Outcome.pure_eq, Outcome.next_inj] at h
      cases h
      refine .cut _ hsend _ rfl (.inl ?_)
      rw [← hid, hzero]
      rfl
    · rw [if_neg hzero] at hs₁
      subst hs₁
      cases hreg : s.iapp.registry.register m.xappId.toUInt32 m.ricId.ranFuncId newId reallocOk with
      | mk ok registry =>
        have hroom : ok = true ↔ Room s m reallocOk := by
          rw [← register_fst, hreg]
        simp only [iappRegister, hreg, beq_iff_eq, reduceCtorEq, if_false, Outcome.next_bind] at h
        cases ok with
        | false =>
          simp only [Bool.false_eq_true, if_false, if_true, Outcome.pure_eq, Outcome.next_inj,
            Prod.mk.injEq] at h
          obtain ⟨rfl, rfl⟩ := h
          exact .cut _ hsend _ rfl (.inr fun hr => Bool.false_ne_true (hroom.mpr hr))
        | true =>
          simp only [iappInsert, MapRicId.insert_eq, if_true, reduceCtorEq, if_false,
            Outcome.next_bind, Outcome.pure_eq, Outcome.next_inj, Prod.mk.injEq] at h
          obtain ⟨rfl, rfl⟩ := h
          refine .done _ hsend (fun hid₀ => hzero ?_) (hroom.mp rfl) ⟨⟨fd, ?_⟩, ?_, ?_⟩
          · rw [← UInt16.toUInt32_inj, hid, hid₀]
            rfl
          · have hpending := hst.pending
            simp only [RicSys.opened, hpending, Bimap.mem_inserted_left, Bimap.mem_inserted_right]
            exact ⟨.inl rfl, .inl rfl⟩
          · have hmem := register_mem hreg
            rwa [show newId = m.ricId.ricReqId.toUInt16 by rw [← hid, UInt16.toUInt16_toUInt32]] at hmem
          · simp only [hid, Bimap.mem_inserted_left, Bimap.mem_inserted_right, true_or, and_self]

theorem handle_of_sendable (reallocOk : Bool) (hidle : s.pc = .idle) (h : Sendable s m timer) :
    ∃ r, s.handleSubscriptionRequest m timer reallocOk = .next r := by
  obtain ⟨s₁, h₁⟩ := e42Subscribe_of_sendable hidle h
  rw [handleSubscriptionRequest, h₁, Outcome.next_bind]
  split
  · exact ⟨_, rfl⟩
  · rename_i hpc
    obtain ⟨hno, -⟩ | ⟨-, newId, req, ricSys, -, rfl⟩ := e42Subscribe_eq_next h₁
    · exact absurd h hno
    · by_cases hzero : newId = 0
      · simp [hzero] at hpc
      · cases hreg : s.iapp.registry.register m.xappId.toUInt32 m.ricId.ranFuncId newId reallocOk with
        | mk ok registry => cases ok <;> simp [iappRegister, iappInsert, hzero, hreg, MapRicId.insert_eq]

/-- **Atomicity of the subscription request.** In every state of the iApp,
the handler does all or nothing whenever it returns if and only if, should
the request be sent at all, its id is not `0` and the registry takes it. -/
theorem subscribe_atomic (s : Sys) (hidle : s.pc = .idle) (m : E42Request) (timer : Option Fd)
    (reallocOk : Bool) :
    Atomic s m timer reallocOk ↔
      (Sendable s m timer → m.ricId.ricReqId ≠ 0 ∧ Room s m reallocOk) := by
  constructor
  · intro h hsend
    obtain ⟨⟨accepted, s'⟩, hrun⟩ := handle_of_sendable reallocOk hidle hsend
    have hall := h accepted s' hrun
    cases handle_returns hidle hrun with
    | refused hno => exact absurd hsend hno
    | cut s' _ req sent why =>
      -- the request is on record although the handler has given up
      have hsame : s'.hist.created = s.hist.created := hall.sent
      rw [sent] at hsame
      simp at hsame
    | done s' _ id room _ => exact ⟨id, room⟩
  · intro h accepted s' hrun
    cases handle_returns hidle hrun with
    | refused hno => exact ⟨rfl, rfl, rfl, rfl, rfl⟩
    | cut s' hsend req sent why =>
      obtain ⟨hid, hroom⟩ := h hsend
      exact absurd why (not_or.mpr ⟨hid, not_not.mpr hroom⟩)
    | done s' _ _ _ contains => exact contains

/-- A subscription request of the xApp 7 under the id `0`. -/
def zeroIdRequest : E42Request := ⟨7, .gnb 1, ⟨0, 0, 142⟩⟩

/-- A request under the id `0` goes out, its timer runs, and the handler
returns with an error. -/
theorem zero_id_not_atomic :
    ¬ ∀ s : Sys, s.pc = .idle → ∀ m timer reallocOk, Atomic s m timer reallocOk := by
  intro hclaim
  obtain ⟨s, -, hs⟩ := Machine.Reachable.exists_of_run (M := iappMachine .deadlock) setUp
    (fun s => s.pc == .idle && (s.handleSubscriptionRequest zeroIdRequest (some 5) true).toOption.any
      fun r => !r.1 && r.2.ricSys.ric.pending.left.length != s.ricSys.ric.pending.left.length)
    (by decide)
  simp only [Bool.and_eq_true, beq_iff_eq, Option.any_eq_true, Bool.not_eq_true', bne_iff_ne] at hs
  obtain ⟨hidle, ⟨accepted, s'⟩, hrun, hfalse, hlen⟩ := hs
  obtain rfl : accepted = false := hfalse
  have hall := hclaim s hidle zeroIdRequest (some 5) true false s' (Outcome.toOption_eq_some.mp hrun)
  exact hlen (congrArg (fun m => m.left.length) hall.pending)

/-- The first subscription of the xApp 7 is entered into all three tables. -/
theorem subscribe_atomic_first :
    ∃ s s' : Sys, s.handleSubscriptionRequest ⟨7, .gnb 1, ⟨1, 0, 142⟩⟩ (some 5) true =
      .next (true, s') ∧ Contains s' ⟨7, .gnb 1, ⟨1, 0, 142⟩⟩ := by
  obtain ⟨s, -, hs⟩ := Machine.Reachable.exists_of_run (M := iappMachine .deadlock) setUp
    (fun s => s.pc == .idle &&
      (s.handleSubscriptionRequest ⟨7, .gnb 1, ⟨1, 0, 142⟩⟩ (some 5) true).toOption.any (·.1))
    (by decide)
  simp only [Bool.and_eq_true, beq_iff_eq, Option.any_eq_true] at hs
  obtain ⟨hidle, ⟨accepted, s'⟩, hrun, haccepted⟩ := hs
  obtain rfl : accepted = true := haccepted
  have hrun := Outcome.toOption_eq_some.mp hrun
  have hatomic := (subscribe_atomic s hidle ⟨7, .gnb 1, ⟨1, 0, 142⟩⟩ (some 5) true).mpr fun _ =>
    ⟨by decide, .inr (.inr rfl)⟩
  exact ⟨s, s', hrun, hatomic true s' hrun⟩

end Sys

end FlexRic
