import FlexRic.Agent.System

/-!
# FlexRic.Agent.Invariants

What holds in every run of the agent, whatever is requested of it.

* `pending` is empty or holds the one timer of the last setup request;
* the two trees of the subscription table hold the same keys, those of
  periodic subscriptions are open timers and are distinct;
* the timers of setup requests are open and are no keys of that table.

`TimersOk` collects these; `TimersOk.expired`, `TimersOk.setUp` and
`TimersOk.shutDown` say what the three handlers around the setup timer do in
such a state.
-/

namespace FlexRic

open Bimap

/-- `pending` while one setup request waits for its answer. -/
def pendingOf (fd : Fd) : Bimap Fd PendingEvent :=
  ⟨[(fd, .setupRequest)], [(.setupRequest, fd)]⟩

/-- The only timer that is pending is found. -/
theorem extractRight_pendingOf (fd : Fd) (picks : Picks) :
    extractRight cmpFd cmpPendingEvent (pendingOf fd) .setupRequest picks = .next (fd, .empty) := by
  obtain ⟨p, q⟩ := picks
  cases p <;> cases q <;>
    simp [extractRight, extractFrom, pendingOf, OrdAssoc.extract, Outcome.expect, Outcome.assert,
      Bimap.empty]

namespace E2Agent

variable {ag ag' : E2Agent} {fd newTimer : Fd} {encodes : Bool} {picks : Picks}

/-- A timer that is open is closed. -/
theorem close_of_mem (h : fd ∈ ag.timers) : ag.close fd = { ag with timers := ag.timers.erase fd } :=
  if_pos h

/-- A descriptor that is closed a second time is remembered. -/
theorem close_of_not_mem (h : fd ∉ ag.timers) :
    ag.close fd = { ag with closedTwice := fd :: ag.closedTwice } :=
  if_neg h

/-- `init_ric_addr` is the address of one of the connections. -/
def Known (ag : E2Agent) : Prop := ∃ c ∈ ag.ricConnections, c.ricAddr = ag.initRicAddr

/-- Counting a retry keeps the addresses. -/
theorem countRetry_addrs (addr : String) (cs : List RicConnection) :
    (countRetry addr cs).map RicConnection.ricAddr = cs.map RicConnection.ricAddr := by
  induction cs with
  | nil => rfl
  | cons c cs ih =>
    simp only [countRetry]
    split
    · rfl
    · rw [List.map_cons, List.map_cons, ih]

/-- The RICs that are known are known by their addresses. -/
theorem Known.of_addrs (h : ag.Known) (haddr : ag'.initRicAddr = ag.initRicAddr)
    (hcs : ag'.ricConnections.map RicConnection.ricAddr =
      ag.ricConnections.map RicConnection.ricAddr) : ag'.Known := by
  obtain ⟨c, hc, heq⟩ := h
  have hmem : c.ricAddr ∈ ag'.ricConnections.map RicConnection.ricAddr :=
    hcs ▸ List.mem_map_of_mem hc
  obtain ⟨c', hc', heq'⟩ := List.mem_map.mp hmem
  exact ⟨c', hc', by rw [heq', heq, haddr]⟩

/-- What is left of the agent after its setup timer `fd` has expired. -/
structure Expired (ag : E2Agent) (fd newTimer : Fd) (encodes : Bool) (ag' : E2Agent) : Prop where
  pos : 0 < newTimer
  fresh : newTimer ∉ ag.timers.erase fd
  closedTwice : ag'.closedTwice = fd :: ag.closedTwice
  timers : ag'.timers = if encodes then newTimer :: ag.timers.erase fd else ag.timers.erase fd
  pending : ag'.pending = if encodes then pendingOf newTimer else .empty
  indEvent : ag'.indEvent = ag.indEvent
  known : ag'.Known

/-- An expiration closes the timer once before `handle_pending_event` and
once in it. -/
theorem expired_eq_next (hnodup : ag.timers.Nodup) (hk : ag.Known) (hfd : fd ∈ ag.timers)
    (hp : ag.pending = pendingOf fd)
    (h : (ag.close fd).handlePendingEvent newTimer encodes = .next ag') :
    ag.Expired fd newTimer encodes ag' := by
  have hclosed : fd ∉ ag.timers.erase fd := fun hmem =>
    absurd rfl (hnodup.mem_erase_iff.mp hmem).1
  rw [close_of_mem hfd] at h
  have hany : (ag.ricConnections.any fun c => c.ricAddr == ag.initRicAddr) = true := by
    obtain ⟨c, hc, heq⟩ := hk
    exact List.any_eq_true.mpr ⟨c, hc, by simp [heq]⟩
  simp only [handlePendingEvent, hany, if_true, hp, pendingOf, List.map_cons, List.map_nil,
    List.foldl_cons, List.foldl_nil, initPendingEvents, Outcome.bind_eq_next, Outcome.pure_eq,
    Outcome.next_inj] at h
  rw [close_of_not_mem (by exact hclosed)] at h
  obtain ⟨ag₁, harm, rfl⟩ := h
  obtain ⟨hpos, hfresh, rfl⟩ := armSetupTimer_eq_next harm
  have hknown : ∀ cs, cs = countRetry ag.initRicAddr ag.ricConnections →
      ∃ c ∈ cs, c.ricAddr = ag.initRicAddr := by
    rintro cs rfl
    have hknown : E2Agent.Known { ag with ricConnections := countRetry _ _ } :=
      Known.of_addrs hk rfl (countRetry_addrs ag.initRicAddr ag.ricConnections)
    exact hknown
  cases encodes with
  | true => exact ⟨hpos, hfresh, rfl, rfl, rfl, rfl, hknown _ rfl⟩
  | false =>
    refine ⟨hpos, hfresh, ?_, ?_, rfl, ?_, ?_⟩ <;>
      simp only [Bool.false_eq_true, if_false, genSetupRequest]
    all_goals rw [close_of_mem (by exact List.mem_cons_self)]
    · rw [List.erase_cons_head]
    · exact hknown _ rfl

/-- A setup response with the timer pending removes exactly that timer. -/
theorem handleSetupResponse_eq (hp : ag.pending = pendingOf fd) (hpos : 0 < fd)
    (hfd : fd ∈ ag.timers) :
    ag.handleSetupResponse picks =
      if 0 < ag.transIdSetupReq then
        .next { ag with pending := .empty, timers := ag.timers.erase fd, transIdSetupReq := 0 }
      else .abort "Receiving an E2 SETUP-RESPONSE, eventhough not E2 SETUP-REQUEST not sent from this E2 Node" := by
  have hstop : ag.stopPendingEvent .setupRequest picks =
      .next { ag with pending := .empty, timers := ag.timers.erase fd } := by
    simp only [stopPendingEvent, hp, extractRight_pendingOf, Outcome.next_bind, hpos, Outcome.assert,
      decide_true, if_true]
    rw [rmFd_eq (by exact hfd)]
  simp only [handleSetupResponse, hstop, Outcome.next_bind, Outcome.assert]
  by_cases htrans : 0 < ag.transIdSetupReq
  · simp [htrans]
  · simp [htrans]

/-- With no timer pending it ends the process. -/
theorem handleSetupResponse_aborts (hp : ag.pending = .empty) :
    (ag.handleSetupResponse picks).Aborts := by
  refine Outcome.bind_aborts.mpr (.inl (Outcome.bind_aborts.mpr (.inl ?_)))
  rw [hp, extractRight_aborts]
  exact extractFrom_aborts_of_absent fun e he => absurd he List.not_mem_nil

/-- A connection that is lost arms the setup timer again. -/
theorem handleConnectionShutdown_eq_next (h : ag.handleConnectionShutdown fd = .next ag') :
    0 < fd ∧ fd ∉ ag.timers ∧
      ag' =
        { ag with
          connectionState := .disconnected
          timers := fd :: ag.timers
          pending := pendingOf fd } :=
  armSetupTimer_eq_next h

end E2Agent

namespace AgentSys

variable {cfg : AgentConfig} {s s' : AgentSys} {e : AgentEvent} {fd : Fd}

/-- The timers and the two tables that hold their descriptors. -/
structure TimersOk (s : AgentSys) : Prop where
  nodup : s.ag.timers.Nodup
  pos : ∀ fd ∈ s.ag.timers, 0 < fd
  known : s.ag.Known
  setup : ∀ fd ∈ s.setupTimers, fd ∈ s.ag.timers
  pending : s.ag.pending = .empty ∨ ∃ fd ∈ s.setupTimers, s.ag.pending = pendingOf fd
  keys : (s.ag.indEvent.left.map Prod.fst).Perm (s.ag.indEvent.right.map Prod.snd)
  periodic : ((s.ag.indEvent.left.map Prod.fst).filter (· ≠ 0)).Nodup
  isOpen : ∀ fd ∈ s.ag.indEvent.left.map Prod.fst, fd ≠ 0 → fd ∈ s.ag.timers ∧ fd ∉ s.setupTimers

/-- **At the start** the setup timer alone is open. -/
theorem TimersOk.init (cfg : AgentConfig) : TimersOk (.init cfg) where
  nodup := List.pairwise_singleton _ _
  pos _ h := List.mem_singleton.mp h ▸ cfg.firstTimer_pos
  known := ⟨⟨cfg.initRicAddr, 0⟩, List.mem_map.mpr ⟨_, cfg.known, rfl⟩, rfl⟩
  setup _ h := h
  pending := .inr ⟨cfg.firstTimer, List.mem_singleton.mpr rfl, rfl⟩
  keys := .nil
  periodic := List.nodup_nil
  isOpen _ h := absurd h List.not_mem_nil

/-- The timers that are open are those that are watched. -/
theorem mem_openTimers {ag : E2Agent} {fds : List Fd} :
    fd ∈ openTimers ag fds ↔ fd ∈ fds ∧ fd ∈ ag.timers := by
  simp [openTimers]

theorem TimersOk.same (h : TimersOk s) (hs : SameTables s s') : TimersOk s' := by
  obtain ⟨nodup, pos, known, setup, pending, keys, periodic, isOpen⟩ := h
  obtain ⟨hind, hpend, htimers, -, haddr, hcs, -, -, hsetup⟩ := hs
  refine ⟨?_, ?_, ?_, ?_, ?_, ?_, ?_, ?_⟩
  · rwa [htimers]
  · rwa [htimers]
  · exact known.of_addrs haddr (by rw [hcs])
  · rwa [htimers, hsetup]
  · rwa [hpend, hsetup]
  · rwa [hind]
  · rwa [hind]
  · rwa [hind, htimers, hsetup]

/-- A new subscription has a new timer. -/
theorem TimersOk.registered (h : TimersOk s) {key : Fd} {ev : IndEvent} {ag : E2Agent}
    (hr : s.ag.Registered fd key ev ag) (subs : List (Fd × IndEvent)) :
    TimersOk { s with ag, subs } := by
  obtain ⟨htimer, hag⟩ := hr
  have hkeys : (ag.indEvent.left.map Prod.fst).Perm (key :: s.ag.indEvent.left.map Prod.fst) := by
    rw [hag]
    exact (OrdAssoc.insert_perm _ _ _ _).map Prod.fst
  have hvals : (ag.indEvent.right.map Prod.snd).Perm (key :: s.ag.indEvent.right.map Prod.snd) := by
    rw [hag]
    exact (OrdAssoc.insert_perm _ _ _ _).map Prod.snd
  have hknown : ag.Known := by
    rw [hag]
    exact h.known
  have hpending : ag.pending = s.ag.pending := by rw [hag]
  obtain ⟨-, rfl, hpos, hnot, htimers⟩ | ⟨-, rfl, htimers⟩ := htimer
  · have hne : key ≠ 0 := Nat.ne_of_gt hpos
    have hnew : key ∉ s.ag.indEvent.left.map Prod.fst := fun hmem =>
      hnot (h.isOpen key hmem hne).1
    refine ⟨?_, ?_, hknown, ?_, ?_, ?_, ?_, ?_⟩
    · rw [htimers]
      exact List.nodup_cons.mpr ⟨hnot, h.nodup⟩
    · rw [htimers]
      exact List.forall_mem_cons.mpr ⟨hpos, h.pos⟩
    · rw [htimers]
      exact fun x hx => List.mem_cons_of_mem _ (h.setup x hx)
    · rw [hpending]
      exact h.pending
    · exact hkeys.trans ((h.keys.cons key).trans hvals.symm)
    · refine (hkeys.filter _).nodup_iff.mpr ?_
      rw [List.filter_cons_of_pos (by simpa using hne)]
      exact List.nodup_cons.mpr ⟨fun hmem => hnew (List.mem_of_mem_filter hmem), h.periodic⟩
    · intro x hx hx0
      rw [htimers]
      obtain rfl | hx := List.mem_cons.mp (hkeys.mem_iff.mp hx)
      · exact ⟨List.mem_cons_self, fun hset => hnot (h.setup _ hset)⟩
      · exact ⟨List.mem_cons_of_mem _ (h.isOpen x hx hx0).1, (h.isOpen x hx hx0).2⟩
  · refine ⟨?_, ?_, hknown, ?_, ?_, ?_, ?_, ?_⟩
    · rw [htimers]
      exact h.nodup
    · rw [htimers]
      exact h.pos
    · rw [htimers]
      exact h.setup
    · rw [hpending]
      exact h.pending
    · exact hkeys.trans ((h.keys.cons 0).trans hvals.symm)
    · refine (hkeys.filter _).nodup_iff.mpr ?_
      rw [List.filter_cons_of_neg (by simp)]
      exact h.periodic
    · intro x hx hx0
      rw [htimers]
      obtain rfl | hx := List.mem_cons.mp (hkeys.mem_iff.mp hx)
      · exact absurd rfl hx0
      · exact h.isOpen x hx hx0

/-- What a deletion takes out of the two trees: an entry of the right one
under the id, an entry of the left one under its key, with the same id. -/
theorem Stopped.removed {ag ag' : E2Agent} {id : RicGenId} {picks : Picks} {key : Fd}
    (h : ag.Stopped id picks key ag') :
    ∃ evl evr, evl.ricId = id ∧ evr.ricId = id ∧ ag.indEvent.left.Perm ((key, evl) :: ag'.indEvent.left) ∧
      ag.indEvent.right.Perm ((evr, key) :: ag'.indEvent.right) := by
  obtain ⟨b, x, hb, hx, hback, -, -, hr, hl, -, -⟩ := extractFrom_eq_next (extractRight_eq_next h.extracted)
  obtain ⟨k, evl⟩ := x
  have hk : key = k := cmpFd_eq_zero.mp hx
  subst hk
  exact ⟨evl, b, (cmpIndEvent_eq_zero.mp hback).symm, (cmpIndEvent_eq_zero.mp hb).symm, hl, hr⟩

/-- A deletion closes the timer of its subscription. -/
theorem TimersOk.stopped (h : TimersOk s) {ag : E2Agent} {id : RicGenId} {picks : Picks} {key : Fd}
    (hst : s.ag.Stopped id picks key ag) (calls : List Call) (subs : List (Fd × IndEvent)) :
    TimersOk { s with ag, calls, subs } := by
  obtain ⟨evl, evr, -, -, hl, hr⟩ := Stopped.removed hst
  have hkeys := hl.map Prod.fst
  have hvals := hr.map Prod.snd
  rw [List.map_cons] at hkeys hvals
  have hmem : key ∈ s.ag.indEvent.left.map Prod.fst := hkeys.mem_iff.mpr List.mem_cons_self
  have hkeys' : (ag.indEvent.left.map Prod.fst).Perm (ag.indEvent.right.map Prod.snd) :=
    List.Perm.cons_inv ((hkeys.symm.trans h.keys).trans hvals)
  have hfilter := (hkeys.filter (· ≠ 0)).nodup_iff.mp h.periodic
  have hpending : ag.pending = s.ag.pending := by rw [hst.rest]
  have hknown : ag.Known := by
    rw [hst.rest]
    exact h.known
  by_cases hkey : key = 0
  · have htimers : ag.timers = s.ag.timers := by rw [hst.rest, if_pos hkey]
    refine ⟨?_, ?_, hknown, ?_, ?_, hkeys', ?_, ?_⟩
    · rw [htimers]
      exact h.nodup
    · rw [htimers]
      exact h.pos
    · rw [htimers]
      exact h.setup
    · rw [hpending]
      exact h.pending
    · rwa [List.filter_cons_of_neg (by simp [hkey])] at hfilter
    · intro x hx hne
      rw [htimers]
      exact h.isOpen x (hkeys.mem_iff.mpr (List.mem_cons_of_mem _ hx)) hne
  · have htimers : ag.timers = s.ag.timers.erase key := by rw [hst.rest, if_neg hkey]
    rw [List.filter_cons_of_pos (by simpa using hkey)] at hfilter
    obtain ⟨hnot, hperiodic⟩ := List.nodup_cons.mp hfilter
    refine ⟨?_, ?_, hknown, ?_, ?_, hkeys', hperiodic, ?_⟩
    · rw [htimers]
      exact h.nodup.erase _
    · rw [htimers]
      exact fun x hx => h.pos x (List.mem_of_mem_erase hx)
    · intro x hx
      rw [htimers]
      refine h.nodup.mem_erase_iff.mpr ⟨?_, h.setup x hx⟩
      rintro rfl
      exact (h.isOpen x hmem hkey).2 hx
    · rw [hpending]
      exact h.pending
    · intro x hx hne
      obtain ⟨hopen, hset⟩ := h.isOpen x (hkeys.mem_iff.mpr (List.mem_cons_of_mem _ hx)) hne
      rw [htimers]
      refine ⟨h.nodup.mem_erase_iff.mpr ⟨?_, hopen⟩, hset⟩
      rintro rfl
      exact hnot (List.mem_filter.mpr ⟨hx, by simpa using hne⟩)

/-! ## The setup timer -/

/-- A timer whose expiration is that of a setup request is no key of the
subscription table. -/
theorem not_key_of_indEventOf {ag : E2Agent} (h : ag.indEventOf fd = none) :
    fd ∉ ag.indEvent.left.map Prod.fst := by
  intro hmem
  obtain ⟨x, hx, hfd⟩ := List.mem_map.mp hmem
  rw [E2Agent.indEventOf, Option.map_eq_none_iff] at h
  have := OrdAssoc.findIf_eq_none.mp h x hx
  simp [eqFd, hfd] at this

theorem TimersOk.pending_of_pendEvent (h : TimersOk s) (hp : s.ag.pendEvent fd = true) :
    s.ag.pending = pendingOf fd := by
  obtain hempty | ⟨x, -, heq⟩ := h.pending
  · simp [E2Agent.pendEvent, hempty, Bimap.empty] at hp
  · rw [heq]
    have : fd = x := by
      by_contra hne
      simp [E2Agent.pendEvent, heq, pendingOf, OrdAssoc.findIf, eqFd, hne] at hp
    rw [this]

theorem TimersOk.expired_eq (h : TimersOk s) {newTimer : Fd} {encodes : Bool} {ag : E2Agent}
    (hopen : fd ∈ s.ag.timers) (hp : s.ag.pendEvent fd = true)
    (hh : (s.ag.close fd).handlePendingEvent newTimer encodes = .next ag) :
    s.ag.Expired fd newTimer encodes ag :=
  E2Agent.expired_eq_next h.nodup h.known hopen (h.pending_of_pendEvent hp) hh

/-- An expired setup timer is replaced by the next one. -/
theorem TimersOk.expired (h : TimersOk s) {newTimer : Fd} {encodes : Bool} {ag : E2Agent}
    (hind : s.ag.indEventOf fd = none) (hex : s.ag.Expired fd newTimer encodes ag) :
    TimersOk { s with ag, setupTimers := openTimers ag (newTimer :: s.setupTimers) } := by
  have hfresh := hex.fresh
  have hnotKey := not_key_of_indEventOf hind
  have herase : ∀ x ∈ ag.timers, x = newTimer ∨ x ∈ s.ag.timers.erase fd := by
    rw [hex.timers]
    cases encodes with
    | true => exact fun x hx => List.mem_cons.mp hx
    | false => exact fun x hx => .inr hx
  have hsub : ∀ x ∈ s.ag.timers.erase fd, x ∈ ag.timers := by
    rw [hex.timers]
    cases encodes with
    | true => exact fun x hx => List.mem_cons_of_mem _ hx
    | false => exact fun x hx => hx
  refine ⟨?_, ?_, hex.known, ?_, ?_, ?_, ?_, ?_⟩
  · rw [hex.timers]
    cases encodes with
    | true => exact List.nodup_cons.mpr ⟨hfresh, h.nodup.erase _⟩
    | false => exact h.nodup.erase _
  · intro x hx
    obtain rfl | hx := herase x hx
    · exact hex.pos
    · exact h.pos x (List.mem_of_mem_erase hx)
  · exact fun x hx => (mem_openTimers.mp hx).2
  · rw [hex.pending]
    cases encodes with
    | true =>
      refine .inr ⟨newTimer, mem_openTimers.mpr ⟨List.mem_cons_self, ?_⟩, rfl⟩
      rw [hex.timers]
      exact List.mem_cons_self
    | false => exact .inl rfl
  · rw [hex.indEvent]
    exact h.keys
  · rw [hex.indEvent]
    exact h.periodic
  · intro x hx hne
    rw [hex.indEvent] at hx
    obtain ⟨hopen, hset⟩ := h.isOpen x hx hne
    have hx' : x ∈ s.ag.timers.erase fd := h.nodup.mem_erase_iff.mpr ⟨fun heq => hnotKey (heq ▸ hx), hopen⟩
    refine ⟨hsub x hx', fun hmem => ?_⟩
    obtain rfl | hmem := List.mem_cons.mp (mem_openTimers.mp hmem).1
    · exact hfresh hx'
    · exact hset hmem

theorem TimersOk.setUp_eq (h : TimersOk s) {picks : Picks} {ag : E2Agent}
    (hh : s.ag.handleSetupResponse picks = .next ag) :
    0 < s.ag.transIdSetupReq ∧ ∃ fd ∈ s.setupTimers, s.ag.pending = pendingOf fd ∧
      ag = { s.ag with pending := .empty, timers := s.ag.timers.erase fd, transIdSetupReq := 0 } := by
  obtain hempty | ⟨fd, hfd, heq⟩ := h.pending
  · exact absurd (E2Agent.handleSetupResponse_aborts hempty) (Outcome.not_aborts_of_next hh)
  · have hopen := h.setup fd hfd
    rw [E2Agent.handleSetupResponse_eq heq (h.pos fd hopen) hopen] at hh
    split at hh
    · rename_i htrans
      cases hh
      exact ⟨htrans, fd, hfd, heq, rfl⟩
    · contradiction

/-- A setup response closes its timer. -/
theorem TimersOk.setUp (h : TimersOk s) {picks : Picks} {ag : E2Agent}
    (hh : s.ag.handleSetupResponse picks = .next ag) :
    TimersOk { s with ag, setupTimers := openTimers ag s.setupTimers } := by
  obtain ⟨-, fd, hfd, -, rfl⟩ := h.setUp_eq hh
  refine ⟨h.nodup.erase _, fun x hx => h.pos x (List.mem_of_mem_erase hx), h.known,
    fun x hx => (mem_openTimers.mp hx).2, .inl rfl, h.keys, h.periodic, fun x hx hne => ?_⟩
  obtain ⟨hopen, hset⟩ := h.isOpen x hx hne
  refine ⟨h.nodup.mem_erase_iff.mpr ⟨?_, hopen⟩, fun hmem => hset (mem_openTimers.mp hmem).1⟩
  rintro rfl
  exact hset hfd

/-- A lost connection opens a setup timer. -/
theorem TimersOk.shutDown (h : TimersOk s) {fdTimer : Fd} {ag : E2Agent}
    (hh : s.ag.handleConnectionShutdown fdTimer = .next ag) :
    TimersOk { s with ag, setupTimers := openTimers ag (fdTimer :: s.setupTimers) } := by
  obtain ⟨hpos, hfresh, rfl⟩ := E2Agent.handleConnectionShutdown_eq_next hh
  refine ⟨List.nodup_cons.mpr ⟨hfresh, h.nodup⟩, List.forall_mem_cons.mpr ⟨hpos, h.pos⟩, h.known,
    fun x hx => (mem_openTimers.mp hx).2,
    .inr ⟨fdTimer, mem_openTimers.mpr ⟨List.mem_cons_self, List.mem_cons_self⟩, rfl⟩, h.keys,
    h.periodic, fun x hx hne => ?_⟩
  obtain ⟨hopen, hset⟩ := h.isOpen x hx hne
  refine ⟨List.mem_cons_of_mem _ hopen, fun hmem => ?_⟩
  obtain rfl | hmem := List.mem_cons.mp (mem_openTimers.mp hmem).1
  · exact hfresh hopen
  · exact hset hmem

/-- **Every step keeps the timers apart.** -/
theorem TimersOk.step (h : TimersOk s) (hs : s.step e = .next s') : TimersOk s' := by
  cases table_cases hs with
  | registered sr ans fd key ev ag event registered id eq => exact eq ▸ h.registered registered _
  | notFound id picks event absent eq =>
    exact eq ▸ ⟨h.nodup, h.pos, h.known, h.setup, h.pending, h.keys, h.periodic, h.isOpen⟩
  | stopped id picks key ag event stopped eq => exact eq ▸ h.stopped stopped _ _
  | expired fd value newTimer encodes ag event isOpen notInd pend handled eq =>
    exact eq ▸ h.expired notInd (h.expired_eq isOpen pend handled)
  | setUp picks ag event handled eq => exact eq ▸ h.setUp handled
  | shutDown fdTimer ag event handled eq => exact eq ▸ h.shutDown handled
  | quiet same => exact h.same same

/-- The timers are apart in every run. -/
theorem timersOk (h : (agentMachine cfg).Reachable s) : TimersOk s :=
  h.invariant (.init cfg) fun _ _ _ _ hp hs => hp.step hs

end AgentSys

end FlexRic
