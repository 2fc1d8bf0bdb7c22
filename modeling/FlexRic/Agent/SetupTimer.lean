import FlexRic.Agent.Invariants

/-!
# FlexRic.Agent.SetupTimer

The E2 setup handshake of the agent: the timer of the setup request against
its expirations, the shutdowns of the connection and the setup responses.

* `SetupExact`: the open setup timers are those in `pending`, at most one,
  and no descriptor was closed while it was not open;
* `SetupCond`: no setup timer expires, a response finds its timer and its
  request, a shutdown finds no timer;
* `setup_timer`: on exactly these steps each of the three handlers does what
  it is there for.

An expiration closes the timer before `handle_pending_event`, which closes
it again; a shutdown forgets a pending timer that is still open; a response
without a pending timer fails the assertion of the bimap.
-/

namespace FlexRic

namespace AgentSys

variable {cfg : AgentConfig} {s s' : AgentSys} {e : AgentEvent} {fd : Fd}

/-- The setup timers are accounted for. -/
structure SetupExact (s : AgentSys) : Prop where
  timers : s.setupTimers = s.ag.pending.left.map Prod.fst
  one : s.ag.pending.left.length ≤ 1
  closedOnce : s.ag.closedTwice = []

/-- The steps that keep them accounted for. -/
def SetupCond (s : AgentSys) : AgentEvent → Prop
  | .timer fd _ _ _ => fd ∉ s.setupTimers
  | .setupResponse _ => s.ag.pending ≠ .empty ∧ 0 < s.ag.transIdSetupReq
  | .shutdown _ => s.ag.pending = .empty
  | _ => True

instance (s : AgentSys) (e : AgentEvent) : Decidable (SetupCond s e) := by
  unfold SetupCond
  split <;> infer_instance

/-- A setup timer expires, a setup response or a shutdown arrives, and the
system hands out a descriptor that is not open. -/
def SetupEvent (s : AgentSys) : AgentEvent → Prop
  | .timer fd _ newTimer _ =>
    fd ∈ s.setupTimers ∧ 0 < newTimer ∧ newTimer ∉ s.ag.timers.erase fd
  | .setupResponse _ => True
  | .shutdown fdTimer => 0 < fdTimer ∧ fdTimer ∉ s.ag.timers
  | _ => False

/-- What the handlers are there for: an expiration and a shutdown leave one
timer, the new one, and a response none. -/
def SetupStep : AgentEvent → AgentSys → Prop
  | .timer _ _ newTimer _, s' => SetupExact s' ∧ s'.ag.pending = pendingOf newTimer
  | .setupResponse _, s' => SetupExact s' ∧ s'.ag.pending = .empty
  | .shutdown fdTimer, s' => SetupExact s' ∧ s'.ag.pending = pendingOf fdTimer
  | _, _ => True

/-- **At the start** the one setup timer is pending. -/
theorem SetupExact.init (cfg : AgentConfig) : SetupExact (.init cfg) :=
  ⟨rfl, Nat.le_refl _, rfl⟩

/-- The invariant is about the pending timer alone. -/
theorem SetupExact.of_eq (h : SetupExact s) (hpending : s'.ag.pending = s.ag.pending)
    (hsetup : s'.setupTimers = s.setupTimers) (hclosed : s'.ag.closedTwice = s.ag.closedTwice) :
    SetupExact s' := by
  refine ⟨?_, ?_, ?_⟩
  · rw [hsetup, hpending]
    exact h.timers
  · rw [hpending]
    exact h.one
  · rw [hclosed]
    exact h.closedOnce

/-- What a response leaves behind. -/
theorem SetupExact.setUp (h : SetupExact s) (ht : TimersOk s) {picks : Picks} {ag : E2Agent}
    (hh : s.ag.handleSetupResponse picks = .next ag) :
    SetupExact { s with ag, setupTimers := openTimers ag s.setupTimers } ∧ ag.pending = .empty := by
  obtain ⟨-, fd, -, hpending, rfl⟩ := ht.setUp_eq hh
  have htimers : s.setupTimers = [fd] := by rw [h.timers, hpending]; rfl
  have hgone : fd ∉ s.ag.timers.erase fd := fun hmem =>
    absurd rfl (ht.nodup.mem_erase_iff.mp hmem).1
  refine ⟨⟨?_, Nat.zero_le _, h.closedOnce⟩, rfl⟩
  simp [openTimers, htimers, hgone, Bimap.empty]

/-- What a shutdown leaves behind, with no timer pending before. -/
theorem SetupExact.shutDown (h : SetupExact s) {fdTimer : Fd} {ag : E2Agent}
    (hempty : s.ag.pending = .empty) (hh : s.ag.handleConnectionShutdown fdTimer = .next ag) :
    SetupExact { s with ag, setupTimers := openTimers ag (fdTimer :: s.setupTimers) } := by
  obtain ⟨-, -, rfl⟩ := E2Agent.handleConnectionShutdown_eq_next hh
  have htimers : s.setupTimers = [] := by rw [h.timers, hempty]; rfl
  refine ⟨?_, Nat.le_refl _, h.closedOnce⟩
  simp [openTimers, htimers, pendingOf]

/-- **Every step under the condition keeps the setup timer exact.** -/
theorem SetupExact.step (h : SetupExact s) (ht : TimersOk s) (hc : SetupCond s e)
    (hs : s.step e = .next s') : SetupExact s' := by
  cases table_cases hs with
  | registered sr ans fd key ev ag event registered id eq =>
    have hrest := registered.rest
    exact h.of_eq (by rw [eq, hrest]) (by rw [eq]) (by rw [eq, hrest])
  | notFound id picks event absent eq => exact h.of_eq (by rw [eq]) (by rw [eq]) (by rw [eq])
  | stopped id picks key ag event stopped eq =>
    have hrest := stopped.rest
    exact h.of_eq (by rw [eq, hrest]) (by rw [eq]) (by rw [eq, hrest])
  | expired fd value newTimer encodes ag event isOpen notInd pend handled eq =>
    subst event
    have hmem : fd ∈ s.setupTimers := by
      rw [h.timers, ht.pending_of_pendEvent pend]
      exact List.mem_singleton.mpr rfl
    exact absurd hmem hc
  | setUp picks ag event handled eq => exact eq ▸ (h.setUp ht handled).1
  | shutDown fdTimer ag event handled eq =>
    subst event
    exact eq ▸ h.shutDown hc handled
  | quiet same => exact h.of_eq same.pending same.setupTimers same.closedTwice

/-- **and every run.** -/
theorem setupExact (h : (agentMachine cfg).ReachedBy SetupCond s) : SetupExact s :=
  h.invariant (.init cfg) fun _ _ _ hr hp hc hs => hp.step (timersOk hr.reachable) hc hs

/-! ## Each of the three events -/

/-- No expiration of a setup timer keeps the timers accounted for: it is
either that of a timer the agent has forgotten, or closes its timer twice. -/
theorem TimersOk.expiration (ht : TimersOk s) {value : Bool} {newTimer : Fd} {encodes : Bool}
    (hs : s.step (.timer fd value newTimer encodes) = .next s') (hfd : fd ∈ s.setupTimers) :
    ¬ SetupExact s' := by
  intro hexact
  have hkey : fd ∉ s.ag.indEvent.left.map Prod.fst := fun hmem =>
    (ht.isOpen fd hmem (Nat.ne_of_gt (ht.pos fd (ht.setup fd hfd)))).2 hfd
  cases hind : s.ag.indEventOf fd with
  | some ev =>
    rw [E2Agent.indEventOf, Option.map_eq_some_iff] at hind
    obtain ⟨x, hx, -⟩ := hind
    have hx1 : eqFd fd x.1 = true := OrdAssoc.findIf_key hx
    exact hkey (List.mem_map.mpr ⟨x, OrdAssoc.mem_of_findIf hx, (beq_iff_eq.mp hx1).symm⟩)
  | none =>
    simp only [AgentSys.step, timerExpired, hind, Outcome.bind_eq_next, Outcome.assert_eq_next,
      Outcome.pure_eq, Outcome.next_inj] at hs
    obtain ⟨⟨⟩, -, ⟨⟩, hpend, ag, hh, rfl⟩ := hs
    have hclosed := (ht.expired_eq (ht.setup fd hfd) hpend hh).closedTwice
    rw [hexact.closedOnce] at hclosed
    contradiction

/-- A setup response is handled as it should be exactly under the condition. -/
theorem SetupExact.response_iff (h : SetupExact s) (ht : TimersOk s) (hloop : s.loop = .waiting)
    {picks : Picks} :
    (∃ s', s.step (.setupResponse picks) = .next s' ∧ SetupStep (.setupResponse picks) s') ↔
      SetupCond s (.setupResponse picks) := by
  constructor
  · rintro ⟨s', hs, -⟩
    simp only [AgentSys.step, Outcome.bind_eq_next, Outcome.pure_eq, Outcome.next_inj] at hs
    obtain ⟨⟨⟩, -, ag, hh, rfl⟩ := hs
    obtain ⟨htrans, fd, -, hpending, -⟩ := ht.setUp_eq hh
    have hne : s.ag.pending ≠ .empty := by
      rw [hpending]
      simp [pendingOf, Bimap.empty]
    exact ⟨hne, htrans⟩
  · rintro ⟨hne, htrans⟩
    obtain hempty | ⟨fd, hfd, hpending⟩ := ht.pending
    · exact absurd hempty hne
    · have hopen := ht.setup fd hfd
      have hh : s.ag.handleSetupResponse picks = _ :=
        E2Agent.handleSetupResponse_eq hpending (ht.pos fd hopen) hopen
      rw [if_pos htrans] at hh
      refine ⟨_, ?_, h.setUp ht hh⟩
      simp [AgentSys.step, hloop, hh, Outcome.await]

/-- A lost connection is handled as it should be exactly under the condition. -/
theorem SetupExact.shutdown_iff (h : SetupExact s) (ht : TimersOk s) (hloop : s.loop = .waiting)
    (hpos : 0 < fd) (hfresh : fd ∉ s.ag.timers) :
    (∃ s', s.step (.shutdown fd) = .next s' ∧ SetupStep (.shutdown fd) s') ↔
      SetupCond s (.shutdown fd) := by
  constructor
  · rintro ⟨s', hs, hexact, hpending⟩
    simp only [AgentSys.step, Outcome.bind_eq_next, Outcome.pure_eq, Outcome.next_inj] at hs
    obtain ⟨⟨⟩, -, ag, hh, rfl⟩ := hs
    obtain ⟨-, -, rfl⟩ := E2Agent.handleConnectionShutdown_eq_next hh
    obtain hempty | ⟨x, hx, hpx⟩ := ht.pending
    · exact hempty
    · -- the forgotten timer `x` is still open
      have htimers : openTimers _ (fd :: s.setupTimers) = [fd] := hexact.timers
      have hmem : x ∈ [fd] := by
        rw [← htimers]
        exact mem_openTimers.mpr
          ⟨List.mem_cons_of_mem _ hx, List.mem_cons_of_mem _ (ht.setup x hx)⟩
      exact absurd (List.mem_singleton.mp hmem ▸ ht.setup x hx) hfresh
  · intro hempty
    have hh : ∃ ag, s.ag.handleConnectionShutdown fd = .next ag := by
      simp [E2Agent.handleConnectionShutdown, E2Agent.armSetupTimer, E2Agent.createTimerMs, hpos,
        hfresh, Bimap.insert_eq lawful_cmpFd lawful_cmpPendingEvent, Outcome.assert, Outcome.await]
    obtain ⟨ag, hh⟩ := hh
    obtain ⟨-, -, hag⟩ := E2Agent.handleConnectionShutdown_eq_next hh
    refine ⟨_, ?_, h.shutDown hempty hh, by rw [hag]⟩
    simp [AgentSys.step, hloop, hh, Outcome.await]

/-- **The setup handshake.** In every run in which no setup timer expires,
each response finds its timer pending and its request sent, and each
shutdown finds no timer pending, there is at most one setup timer, the one
in `pending`, and no descriptor is closed twice.  From a state of such a run
an expiration, a response or a shutdown does its part if and only if it
meets these conditions. -/
theorem setup_timer (cfg : AgentConfig) (s : AgentSys)
    (h : (agentMachine cfg).ReachedBy SetupCond s) :
    SetupExact s ∧ ∀ e, s.loop = .waiting → SetupEvent s e →
      ((∃ s', s.step e = .next s' ∧ SetupStep e s') ↔ SetupCond s e) := by
  have hexact := setupExact h
  have ht := timersOk h.reachable
  refine ⟨hexact, fun e hloop he => ?_⟩
  cases e with
  | timer fd value newTimer encodes =>
    refine ⟨?_, fun hc => absurd he.1 hc⟩
    rintro ⟨s', hs, hstep⟩
    exact absurd hstep.1 (ht.expiration hs he.1)
  | setupResponse picks => exact hexact.response_iff ht hloop
  | shutdown fdTimer => exact hexact.shutdown_iff ht hloop he.1 he.2
  | _ => exact he.elim

/-- The first expiration closes its timer twice. -/
theorem expiration_closes_twice :
    ¬ ∀ cfg s, (agentMachine cfg).Reachable s → SetupExact s := by
  intro hclaim
  obtain ⟨s, hr, hs⟩ := Machine.Reachable.exists_of_run (M := agentMachine .local)
    [.timer 8 true 9 true] (fun s => s.ag.closedTwice == [8]) (by decide)
  have hclosed := (hclaim _ s hr).closedOnce
  rw [beq_iff_eq.mp hs] at hclosed
  contradiction

/-- The agent is set up, and loses its connection: one timer runs, and a
response to a request that was not sent does not cancel it. -/
theorem setup_timer_after_shutdown :
    ∃ s, s.setupTimers = [9] ∧ SetupExact s ∧
      ¬ ∃ s', s.step (.setupResponse (0, 0)) = .next s' ∧ SetupStep (.setupResponse (0, 0)) s' := by
  obtain ⟨s, hr, hs⟩ := Machine.ReachedBy.exists_of_run (M := agentMachine .local) (C := SetupCond)
    [.setupResponse (0, 0), .shutdown 9]
    (fun s => s.setupTimers == [9] && s.loop == .waiting && s.ag.transIdSetupReq == 0)
    (by decide)
  simp only [Bool.and_eq_true, beq_iff_eq] at hs
  obtain ⟨⟨htimers, hloop⟩, htrans⟩ := hs
  obtain ⟨hexact, hiff⟩ := setup_timer .local s hr
  refine ⟨s, htimers, hexact, fun hex => ?_⟩
  have hcond := (hiff (.setupResponse (0, 0)) hloop trivial).mp hex
  rw [SetupCond, htrans] at hcond
  exact absurd hcond.2 (by decide)

end AgentSys

end FlexRic
