import FlexRic.IApp.Invariants
import FlexRic.Lib.Mutex

/-!
# FlexRic.IApp.ForwardLock

The two mutexes an indication takes on its way to the xApps: that of the
subscription registry, for the whole of `e2ap_handle_ric_indication_iapp`,
and in it `forward_mutex`, for each call of `forward_indication_to_xapp`.

Any number of workers handle indications at the same time; the k-th one is
the thread `k`.  The registry and the table of the xApps are arbitrary at the
start, and the iApp's thread adds to both.

`forward_indication_to_xapp` has two returns that leave `forward_mutex`
locked: for an xApp stored with port 0, and when the message is encoded to
nothing.  As long as neither is taken, whoever is done holds nothing and
whoever waits waits for somebody who moves on (`locks_released`); after
either, nobody else ever gets an indication through
(`forward_mutex_leaked`).
-/

namespace FlexRic

/-- Where a worker is in `e2ap_handle_ric_indication_iapp`. -/
inductive HandlerPc where
  | idle
  /-- in the loop over the entries, with the recipients to come -/
  | checking (todo : List UInt32)
  /-- in `forward_indication_to_xapp` -/
  | forwarding (xappId : UInt32) (todo : List UInt32)
  deriving DecidableEq

namespace HandlerPc

/-- In the handler. -/
def busy : HandlerPc → Bool
  | idle => false
  | checking _ => true
  | forwarding _ _ => true

/-- In `forward_indication_to_xapp`. -/
def inForward : HandlerPc → Bool
  | idle => false
  | checking _ => false
  | forwarding _ _ => true

/-- How many steps are left at most. -/
def remaining : HandlerPc → Nat
  | idle => 0
  | checking todo => 2 * todo.length + 1
  | forwarding _ todo => 2 * todo.length + 2

end HandlerPc

structure ForwardSys where
  xapps : MapXapps
  registry : SubscriptionRegistry
  /-- `subscription_registry.mutex` -/
  registryMutex : Mutex
  /-- recursive -/
  forwardMutex : Mutex
  workers : Nat → HandlerPc

namespace ForwardSys

def init (xapps : MapXapps) (registry : SubscriptionRegistry) : ForwardSys :=
  ⟨xapps, registry, .free, .free, fun _ => .idle⟩

inductive ForwardEvent where
  /-- the `k`-th worker enters the handler -/
  | arrive (k : Nat) (ranFuncId : UInt16)
  /-- it enters `forward_indication_to_xapp` -/
  | lockForward (k : Nat)
  /-- it sends the message and returns; `encoded` is the number of bytes of
  the encoded message, if it can be encoded -/
  | forward (k : Nat) (encoded : Option Nat)
  /-- it leaves the handler -/
  | finish (k : Nat)
  /-- the iApp's thread enters the address of an xApp -/
  | setup (xappId : UInt16) (info : SctpInfo)
  /-- the iApp's thread calls `register_subscription` -/
  | register (xappId : UInt32) (ranFuncId ricReqId : UInt16) (reallocOk : Bool)
  deriving DecidableEq

/-- The `k`-th worker is at `pc`. -/
def goto (s : ForwardSys) (k : Nat) (pc : HandlerPc) : ForwardSys :=
  { s with workers := Function.update s.workers k pc }

/-- The rest of `forward_indication_to_xapp` after taking the lock. -/
def forward (s : ForwardSys) (k : Nat) (xappId : UInt32) (todo : List UInt32)
    (encoded : Option Nat) : Outcome ForwardSys := do
  let info ← s.xapps.findMapXappsSad xappId.toUInt16
  if info.sinPort == 0 then return s.goto k (.checking todo)
  else
    let len ← .expect encoded "success"
    if len == 0 then return s.goto k (.checking todo)
    else return { s.goto k (.checking todo) with forwardMutex := s.forwardMutex.unlock k }

def step (s : ForwardSys) : ForwardEvent → Outcome ForwardSys
  | .arrive k ranFuncId =>
    match s.workers k with
    | .idle => do
      let registryMutex ← s.registryMutex.lock k
      return { s.goto k (.checking (s.registry.recipients ranFuncId)) with registryMutex }
    | _ => .blocked
  | .lockForward k =>
    match s.workers k with
    | .checking (xappId :: todo) => do
      let forwardMutex ← s.forwardMutex.lockRecursive k
      return { s.goto k (.forwarding xappId todo) with forwardMutex }
    | _ => .blocked
  | .forward k encoded =>
    match s.workers k with
    | .forwarding xappId todo => s.forward k xappId todo encoded
    | _ => .blocked
  | .finish k =>
    match s.workers k with
    | .checking [] =>
      .next { s.goto k .idle with registryMutex := s.registryMutex.unlock k }
    | _ => .blocked
  | .setup xappId info => do
    let xapps ← s.xapps.addMapXappsSad xappId info
    return { s with xapps }
  | .register xappId ranFuncId ricReqId reallocOk => do
    .await (s.registryMutex == .free)
    return { s with registry := (s.registry.register xappId ranFuncId ricReqId reallocOk).2 }

def machine (xapps : MapXapps) (registry : SubscriptionRegistry) : Machine ForwardSys ForwardEvent :=
  ⟨init xapps registry, step⟩

variable {s s' : ForwardSys} {e : ForwardEvent} {k j : Nat} {pc : HandlerPc} {encoded : Option Nat}
  {xapps : MapXapps} {registry : SubscriptionRegistry} {xappId : UInt32} {todo : List UInt32}

/-- The xApp is stored with port 0. -/
def portless (s : ForwardSys) (xappId : UInt32) : Bool :=
  (s.xapps.findMapXappsSad xappId.toUInt16).toOption.any (·.sinPort == 0)

/-- The call of `forward_indication_to_xapp` takes none of its early returns. -/
def Cond (s : ForwardSys) : ForwardEvent → Prop
  | .forward k encoded =>
    match s.workers k with
    | .forwarding xappId _ => s.portless xappId = false ∧ encoded ≠ some 0
    | _ => True
  | _ => True

instance (s : ForwardSys) (e : ForwardEvent) : Decidable (Cond s e) := by
  unfold Cond
  split
  · split <;> infer_instance
  · infer_instance

/-! ## Who holds what -/

/-- Each mutex is held by whoever is in the section it protects. -/
structure Locked (s : ForwardSys) : Prop where
  registry : s.registryMutex.Guards fun k => (s.workers k).busy
  forward : s.forwardMutex.Guards fun k => (s.workers k).inForward

theorem Locked.init : Locked (init xapps registry) := ⟨Mutex.guards_free, Mutex.guards_free⟩

/-- Where the workers are after one of them has moved. -/
theorem comp_goto (f : HandlerPc → Bool) (s : ForwardSys) (k : Nat) (pc : HandlerPc) :
    (fun j => f ((s.goto k pc).workers j)) =
      Function.update (fun j => f (s.workers j)) k (f pc) := by
  funext j
  exact Function.apply_update (fun _ => f) s.workers k pc j

/-- What a call of `forward_indication_to_xapp` that returns has done. -/
theorem forward_eq_next (h : s.forward k xappId todo encoded = .next s') :
    s' = { s.goto k (.checking todo) with
      forwardMutex :=
        if s.portless xappId = false ∧ encoded ≠ some 0 then s.forwardMutex.unlock k
        else s.forwardMutex } := by
  simp only [forward, Outcome.bind_eq_next] at h
  obtain ⟨info, hinfo, h⟩ := h
  have hportless : s.portless xappId = (info.sinPort == 0) := by
    rw [portless, Outcome.toOption_eq_some.mpr hinfo, Option.any_some]
  split at h
  · rename_i hport
    cases h
    simp only [hportless, hport, Bool.true_eq_false, false_and, if_false]
    rfl
  · rename_i hport
    simp only [Outcome.bind_eq_next, Outcome.expect_eq_next] at h
    obtain ⟨len, rfl, h⟩ := h
    split at h
    · rename_i hlen
      cases h
      simp only [beq_iff_eq.mp hlen, ne_eq, not_true_eq_false, and_false, if_false]
      rfl
    · rename_i hlen
      cases h
      rw [if_pos ⟨by simpa [hportless] using hport, by simpa using hlen⟩]

/-- A call of `forward_indication_to_xapp` never waits. -/
theorem forward_not_blocked : s.forward k xappId todo encoded ≠ .blocked := by
  unfold forward MapXapps.findMapXappsSad
  cases OrdAssoc.findIf (xappId.toUInt16 == ·) s.xapps.left with
  | none => simp [Outcome.expect]
  | some e =>
    cases encoded with
    | none =>
      simp only [Outcome.expect, Outcome.next_bind, Outcome.pure_eq]
      split <;> simp
    | some len =>
      simp only [Outcome.expect, Outcome.next_bind, Outcome.pure_eq]
      split
      · simp
      · split <;> simp

/-! ### What each step of a worker does -/

theorem arrive_eq_next {ranFuncId : UInt16} (hs : s.step (.arrive k ranFuncId) = .next s') :
    s.workers k = .idle ∧ ∃ m, s.registryMutex.lock k = .next m ∧
      s' = { s.goto k (.checking (s.registry.recipients ranFuncId)) with registryMutex := m } := by
  simp only [ForwardSys.step] at hs
  split at hs
  · rename_i hpc
    simp only [Outcome.bind_eq_next, Outcome.pure_eq, Outcome.next_inj] at hs
    obtain ⟨m, hm, rfl⟩ := hs
    exact ⟨hpc, m, hm, rfl⟩
  · cases hs

theorem lockForward_eq_next (hs : s.step (.lockForward k) = .next s') :
    ∃ xappId todo m, s.workers k = .checking (xappId :: todo) ∧
      s.forwardMutex.lockRecursive k = .next m ∧
      s' = { s.goto k (.forwarding xappId todo) with forwardMutex := m } := by
  simp only [ForwardSys.step] at hs
  split at hs
  · rename_i xappId todo hpc
    simp only [Outcome.bind_eq_next, Outcome.pure_eq, Outcome.next_inj] at hs
    obtain ⟨m, hm, rfl⟩ := hs
    exact ⟨xappId, todo, m, hpc, hm, rfl⟩
  · cases hs

/-- The mutex is unlocked unless the call returns early. -/
theorem forward_step_eq_next (hs : s.step (.forward k encoded) = .next s') :
    ∃ xappId todo, s.workers k = .forwarding xappId todo ∧
      s' = { s.goto k (.checking todo) with
        forwardMutex :=
          if Cond s (.forward k encoded) then s.forwardMutex.unlock k else s.forwardMutex } := by
  simp only [ForwardSys.step] at hs
  split at hs
  · rename_i xappId todo hpc
    refine ⟨xappId, todo, hpc, ?_⟩
    rw [forward_eq_next hs]
    simp only [Cond, hpc]
  · cases hs

theorem finish_eq_next (hs : s.step (.finish k) = .next s') :
    s.workers k = .checking [] ∧
      s' = { s.goto k .idle with registryMutex := s.registryMutex.unlock k } := by
  simp only [ForwardSys.step] at hs
  split at hs
  · rename_i hpc
    cases hs
    exact ⟨hpc, rfl⟩
  · cases hs

/-- The iApp's thread touches no worker and no mutex. -/
theorem setup_eq_next {xappId : UInt16} {info : SctpInfo}
    (hs : s.step (.setup xappId info) = .next s') : ∃ xapps, s' = { s with xapps } := by
  simp only [ForwardSys.step, Outcome.bind_eq_next, Outcome.pure_eq, Outcome.next_inj] at hs
  obtain ⟨xapps, -, rfl⟩ := hs
  exact ⟨xapps, rfl⟩

theorem register_eq_next {ranFuncId ricReqId : UInt16} {reallocOk : Bool}
    (hs : s.step (.register xappId ranFuncId ricReqId reallocOk) = .next s') :
    ∃ registry, s' = { s with registry } := by
  simp only [ForwardSys.step, Outcome.bind_eq_next, Outcome.pure_eq, Outcome.next_inj] at hs
  obtain ⟨-, -, rfl⟩ := hs
  exact ⟨_, rfl⟩

/-! ### Who is where after a step -/

/-- A worker that goes into or out of a section does what it must with the
mutex of the section. -/
theorem locked_goto {m n : Mutex}
    (hm : m.Guards (Function.update (fun j => (s.workers j).busy) k pc.busy))
    (hn : n.Guards (Function.update (fun j => (s.workers j).inForward) k pc.inForward)) :
    Locked { s.goto k pc with registryMutex := m, forwardMutex := n } := by
  rw [← comp_goto] at hm hn
  exact ⟨hm, hn⟩

theorem Locked.step (h : Locked s) (hc : Cond s e) (hs : s.step e = .next s') : Locked s' := by
  cases e with
  | arrive k ranFuncId =>
    obtain ⟨hpc, m, hm, rfl⟩ := arrive_eq_next hs
    exact locked_goto (h.registry.lock hm) (h.forward.update_self (by rw [hpc]; rfl))
  | lockForward k =>
    obtain ⟨xappId, todo, m, hpc, hm, rfl⟩ := lockForward_eq_next hs
    exact locked_goto (h.registry.update_self (by rw [hpc]; rfl))
      (h.forward.lockRecursive (by rw [hpc]; rfl) hm)
  | forward k encoded =>
    obtain ⟨xappId, todo, hpc, rfl⟩ := forward_step_eq_next hs
    -- neither of the early returns is taken
    rw [if_pos hc]
    exact locked_goto (h.registry.update_self (by rw [hpc]; rfl))
      (h.forward.unlock (by rw [hpc]; rfl))
  | finish k =>
    obtain ⟨hpc, rfl⟩ := finish_eq_next hs
    exact locked_goto (h.registry.unlock (by rw [hpc]; rfl))
      (h.forward.update_self (by rw [hpc]; rfl))
  | setup xappId info =>
    obtain ⟨xapps, rfl⟩ := setup_eq_next hs
    exact ⟨h.registry, h.forward⟩
  | register xappId ranFuncId ricReqId reallocOk =>
    obtain ⟨registry, rfl⟩ := register_eq_next hs
    exact ⟨h.registry, h.forward⟩

theorem locked (h : (machine xapps registry).ReachedBy Cond s) : Locked s :=
  h.invariant .init fun _ _ _ _ hl hc hs => hl.step hc hs

/-! ## Nobody waits for good -/

/-- The next step of a worker that is in the handler. -/
def ownEvent (k : Nat) (encoded : Option Nat) : HandlerPc → Option ForwardEvent
  | .idle => none
  | .checking [] => some (.finish k)
  | .checking (_ :: _) => some (.lockForward k)
  | .forwarding _ _ => some (.forward k encoded)

/-- A worker in the handler can take its next step. -/
theorem Locked.own_not_blocked (h : Locked s) (he : ownEvent k encoded (s.workers k) = some e) :
    s.step e ≠ .blocked := by
  cases hpc : s.workers k with
  | idle =>
    rw [hpc] at he
    cases he
  | checking todo =>
    rw [hpc] at he
    cases todo with
    | nil =>
      cases he
      simp [ForwardSys.step, hpc]
    | cons xappId todo =>
      cases he
      -- whoever held `forward_mutex` would be in the handler as well
      have hfree : s.forwardMutex = .free := by
        refine h.forward.free_of_outside fun j => ?_
        cases hj : (s.workers j).inForward with
        | false => rfl
        | true =>
          have hbusy : (s.workers j).busy = true := by
            cases hw : s.workers j <;> rw [hw] at hj <;> first | rfl | cases hj
          rw [h.registry.unique hbusy (by rw [hpc]; rfl), hpc] at hj
          cases hj
      simp [ForwardSys.step, hpc, hfree, Mutex.lockRecursive]
  | forwarding xappId todo =>
    rw [hpc] at he
    cases he
    simp only [ForwardSys.step, hpc]
    exact forward_not_blocked

/-- Each of its steps brings it closer to the end, and nobody else moves. -/
theorem own_step (he : ownEvent k encoded (s.workers k) = some e) (hs : s.step e = .next s') :
    (s'.workers k).remaining < (s.workers k).remaining ∧ ∀ j, j ≠ k → s'.workers j = s.workers j := by
  have hgoto : ∃ pc, s'.workers = Function.update s.workers k pc ∧
      pc.remaining < (s.workers k).remaining := by
    cases hpc : s.workers k with
    | idle =>
      rw [hpc] at he
      cases he
    | checking todo =>
      rw [hpc] at he
      cases todo with
      | nil =>
        cases he
        obtain ⟨-, rfl⟩ := finish_eq_next hs
        exact ⟨.idle, rfl, by simp [HandlerPc.remaining]⟩
      | cons xappId todo =>
        cases he
        obtain ⟨_, _, m, hpc', -, rfl⟩ := lockForward_eq_next hs
        cases hpc.symm.trans hpc'
        exact ⟨.forwarding xappId todo, rfl, by simp [HandlerPc.remaining]; omega⟩
    | forwarding xappId todo =>
      rw [hpc] at he
      cases he
      obtain ⟨_, _, hpc', rfl⟩ := forward_step_eq_next hs
      cases hpc.symm.trans hpc'
      exact ⟨.checking todo, rfl, by simp [HandlerPc.remaining]⟩
  obtain ⟨pc, hw, hlt⟩ := hgoto
  rw [hw]
  exact ⟨by rwa [Function.update_self], fun j hj => Function.update_of_ne hj _ _⟩

/-- A worker that wants to enter waits exactly while somebody is in the
handler. -/
theorem Locked.arrive_blocked (h : Locked s) (hidle : s.workers k = .idle) (ranFuncId : UInt16) :
    s.step (.arrive k ranFuncId) = .blocked ↔ ∃ j, (s.workers j).busy = true := by
  rw [← h.registry.lock_blocked (t := k)]
  simp only [ForwardSys.step, hidle]
  cases s.registryMutex.lock k <;> simp

/-! ## An early return -/

/-- The thread `k` has locked `forward_mutex` once more than it will unlock it. -/
def Leaked (s : ForwardSys) (k : Nat) : Prop :=
  ∃ d, s.forwardMutex = .held k d ∧ (s.workers k).inForward.toNat ≤ d

theorem inForward_goto (s : ForwardSys) (j k : Nat) (pc : HandlerPc) :
    ((s.goto j pc).workers k).inForward = if k = j then pc.inForward else (s.workers k).inForward := by
  simp only [goto, Function.update_apply]
  split <;> rfl

/-- A worker that is not in `forward_indication_to_xapp` after the step has
nothing left to unlock there. -/
theorem leaked_goto {m n : Mutex} {d : Nat} (hn : n = .held k d)
    (hd : k ≠ j → (s.workers k).inForward.toNat ≤ d) (hpc : pc.inForward = false) :
    Leaked { s.goto j pc with registryMutex := m, forwardMutex := n } k := by
  refine ⟨d, hn, ?_⟩
  change ((s.goto j pc).workers k).inForward.toNat ≤ d
  rw [inForward_goto]
  split
  · rw [hpc]
    exact Nat.zero_le d
  · rename_i hkj
    exact hd hkj

theorem Leaked.step (h : Leaked s k) (hs : s.step e = .next s') : Leaked s' k := by
  obtain ⟨d, hm, hd⟩ := h
  cases e with
  | arrive j ranFuncId =>
    obtain ⟨-, m, -, rfl⟩ := arrive_eq_next hs
    exact leaked_goto hm (fun _ => hd) rfl
  | lockForward j =>
    obtain ⟨xappId, todo, m, -, hlock, rfl⟩ := lockForward_eq_next hs
    -- only the owner gets it once more
    rw [hm, Mutex.lockRecursive] at hlock
    split at hlock
    · rename_i hkj
      cases hlock
      exact ⟨d + 1, by rw [hkj], Nat.le_trans (Bool.toNat_le _) (Nat.le_add_left 1 d)⟩
    · cases hlock
  | forward j encoded =>
    obtain ⟨xappId, todo, hpc, rfl⟩ := forward_step_eq_next hs
    by_cases hkj : k = j
    · subst hkj
      rw [hpc] at hd
      -- the owner unlocks once what it has locked at least twice
      obtain ⟨d, rfl⟩ : ∃ d', d = d' + 1 := Nat.exists_eq_add_of_le' hd
      split
      · exact leaked_goto (d := d) (by simp [hm, Mutex.unlock]) (fun hkk => absurd rfl hkk) rfl
      · exact leaked_goto hm (fun hkk => absurd rfl hkk) rfl
    · exact leaked_goto (by simp [hm, Mutex.unlock, hkj]) (fun _ => hd) rfl
  | finish j =>
    obtain ⟨-, rfl⟩ := finish_eq_next hs
    exact leaked_goto hm (fun _ => hd) rfl
  | setup xappId info =>
    obtain ⟨xapps, rfl⟩ := setup_eq_next hs
    exact ⟨d, hm, hd⟩
  | register xappId ranFuncId ricReqId reallocOk =>
    obtain ⟨registry, rfl⟩ := register_eq_next hs
    exact ⟨d, hm, hd⟩

/-- No other worker gets into `forward_indication_to_xapp`, now or later. -/
def ShutOut (s : ForwardSys) (k : Nat) : Prop :=
  ∀ s', (⟨s, step⟩ : Machine ForwardSys ForwardEvent).Reachable s' → ∀ j, j ≠ k →
    ∀ s'', s'.step (.lockForward j) ≠ .next s''

theorem Leaked.shutOut (h : Leaked s k) : ShutOut s k := by
  intro s' hr j hjk s'' hs
  obtain ⟨d, hm, -⟩ :=
    hr.invariant (P := fun s => Leaked s k) h fun _ _ _ _ hl hs => Leaked.step hl hs
  obtain ⟨-, -, m, -, hlock, -⟩ := lockForward_eq_next hs
  simp [hm, Mutex.lockRecursive, Ne.symm hjk] at hlock

/-- **An early return.** The worker takes the mutex with it, and no other one
ever gets an indication through. -/
theorem forward_mutex_leaked (h : Locked s) (hc : ¬ Cond s (.forward k encoded))
    (hs : s.step (.forward k encoded) = .next s') :
    s'.forwardMutex = .held k 0 ∧ (s'.workers k).inForward = false ∧ ShutOut s' k := by
  obtain ⟨xappId, todo, hpc, rfl⟩ := forward_step_eq_next hs
  have hheld : s.forwardMutex = .held k 0 := h.forward.eq_held (by rw [hpc]; rfl)
  rw [if_neg hc]
  have hout : ((s.goto k (.checking todo)).workers k).inForward = false := by
    rw [inForward_goto, if_pos rfl]
    rfl
  exact ⟨hheld, hout, Leaked.shutOut ⟨0, hheld, by rw [hout]; exact Nat.le_refl 0⟩⟩

/-- A call without an early return releases the mutex. -/
theorem Locked.forward_released (h : Locked s) (hc : Cond s (.forward k encoded))
    (hs : s.step (.forward k encoded) = .next s') : s'.forwardMutex = .free := by
  obtain ⟨xappId, todo, hpc, rfl⟩ := forward_step_eq_next hs
  have hheld : s.forwardMutex = .held k 0 := h.forward.eq_held (by rw [hpc]; rfl)
  simp [if_pos hc, hheld, Mutex.unlock]

/-! ## The indication path -/

/-- The thread holds neither mutex. -/
def Released (s : ForwardSys) (k : Nat) : Prop :=
  ∀ d, s.registryMutex ≠ .held k d ∧ s.forwardMutex ≠ .held k d

theorem Locked.released (h : Locked s) (hidle : s.workers k = .idle) : Released s k := by
  intro d
  constructor
  · intro hm
    have hbusy : (s.workers k).busy = true := ((h.registry k d).mp hm).2
    rw [hidle] at hbusy
    cases hbusy
  · intro hm
    have hin : (s.workers k).inForward = true := ((h.forward k d).mp hm).2
    rw [hidle] at hin
    cases hin

/-- **Locks on the indication path.** In every run in which no call takes an
early return, whatever the registry and the xApps: a worker that is done
holds nothing; one that is in the handler can take its next step, and comes
closer to the end with it; one that wants in waits only while somebody is in
the handler.  A call that returns has released `forward_mutex` if and only if
it has taken no early return, and after one that has, no other worker ever
gets an indication through. -/
theorem locks_released (xapps : MapXapps) (registry : SubscriptionRegistry) (s : ForwardSys)
    (h : (machine xapps registry).ReachedBy Cond s) (k : Nat) :
    (s.workers k = .idle → Released s k ∧ ∀ ranFuncId,
      (s.step (.arrive k ranFuncId) = .blocked ↔ ∃ j, (s.workers j).busy = true)) ∧
    (∀ encoded e, ownEvent k encoded (s.workers k) = some e → s.step e ≠ .blocked ∧
      ∀ s', s.step e = .next s' → (s'.workers k).remaining < (s.workers k).remaining ∧
        ∀ j, j ≠ k → s'.workers j = s.workers j) ∧
    (∀ encoded s', s.step (.forward k encoded) = .next s' →
      (s'.forwardMutex = .free ↔ Cond s (.forward k encoded)) ∧
      (¬ Cond s (.forward k encoded) → ShutOut s' k)) := by
  have hl := locked h
  refine ⟨fun hidle => ⟨hl.released hidle, hl.arrive_blocked hidle⟩, fun encoded e he =>
    ⟨hl.own_not_blocked he, fun s' hs => own_step he hs⟩, fun encoded s' hs =>
      ⟨⟨?_, fun hc => hl.forward_released hc hs⟩, ?_⟩⟩
  · intro hfree
    by_contra hc
    have hheld := (forward_mutex_leaked hl hc hs).1
    rw [hfree] at hheld
    cases hheld
  · exact fun hc => (forward_mutex_leaked hl hc hs).2.2

/-- The xApp `xappId` at a port subscribes to the RAN function 142, and the
worker 0 handles an indication. -/
def handled (sinPort : UInt16) : List ForwardEvent :=
  [.setup 7 ⟨sinPort, 1, 2⟩, .register 7 142 1 true, .arrive 0 142, .lockForward 0,
    .forward 0 (some 64), .finish 0]

/-- After an indication for an xApp with port 0 the worker that has handled
it holds `forward_mutex`, and the worker that handles the next one waits. -/
theorem portless_leaks :
    (¬ ∀ s, (machine .empty .init).Reachable s → ∀ k, s.workers k = .idle → Released s k) ∧
      ¬ ∀ s, (machine .empty .init).Reachable s → ∀ k encoded e,
        ownEvent k encoded (s.workers k) = some e → s.step e ≠ .blocked := by
  constructor
  · intro hclaim
    obtain ⟨s, hr, hs⟩ := Machine.Reachable.exists_of_run (M := machine .empty .init) (handled 0)
      (fun s => s.workers 0 == .idle && s.forwardMutex == .held 0 0) (by decide)
    simp only [Bool.and_eq_true, beq_iff_eq] at hs
    exact (hclaim s hr 0 hs.1 0).2 hs.2
  · intro hclaim
    obtain ⟨s, hr, hs⟩ := Machine.Reachable.exists_of_run (M := machine .empty .init)
      (handled 0 ++ [.arrive 1 142])
      (fun s => s.workers 1 == .checking [7] && s.forwardMutex == .held 0 0) (by decide)
    simp only [Bool.and_eq_true, beq_iff_eq] at hs
    refine hclaim s hr 1 none (.lockForward 1) (by rw [hs.1]; rfl) ?_
    simp [ForwardSys.step, hs.1, hs.2, Mutex.lockRecursive]

/-- An xApp with a port gets two indications: the worker that has sent the
first one holds nothing, and the one with the second moves on. -/
theorem locks_released_once :
    ∃ s, (machine .empty .init).ReachedBy Cond s ∧ (s.workers 0 = .idle ∧ Released s 0) ∧
      s.workers 1 = .forwarding 7 [] ∧ s.step (.forward 1 (some 64)) ≠ .blocked := by
  obtain ⟨s, hr, hs⟩ := Machine.ReachedBy.exists_of_run (M := machine .empty .init) (C := Cond)
    (handled 36001 ++ [.arrive 1 142, .lockForward 1])
    (fun s => s.workers 0 == .idle && s.workers 1 == .forwarding 7 []) (by decide)
  simp only [Bool.and_eq_true, beq_iff_eq] at hs
  obtain ⟨hidle, hforwarding⟩ := hs
  have hfirst := (locks_released .empty .init s hr 0).1 hidle
  have hsecond := (locks_released .empty .init s hr 1).2.1 (some 64) (.forward 1 (some 64))
    (by rw [hforwarding]; rfl)
  exact ⟨s, hr, ⟨hidle, hfirst.1⟩, hforwarding, hsecond.1⟩

/-- In the running iApp no recipient has port 0, so only a message that is
encoded to nothing can make a worker return early. -/
theorem recipient_not_portless {relock : Relock} {t : Sys} (h : (iappMachine relock).Reachable t)
    {ranFuncId : UInt16} (hx : xappId ∈ t.iapp.registry.recipients ranFuncId) :
    portless (init t.iapp.xapps t.iapp.registry) xappId = false := by
  obtain ⟨info, hinfo, hport⟩ := (Sys.ok h).recipients xappId hx
  simp [portless, init, hinfo, Outcome.toOption, hport]

end ForwardSys

end FlexRic
