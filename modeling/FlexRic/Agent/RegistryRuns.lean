import FlexRic.Agent.Registry

/-!
# FlexRic.Agent.RegistryRuns

The registry of agents over whole runs of `init_agent_api`, of the agents' threads and of
`stop_agent_api`.

* `Inv`: what an agent knows of is live and known in one place, and each entry has its agent;
* `Sound`: what the code of a thread keeps of its agent, with a rule for each function;
* `registry_safe`: while no registered agent is stopped and each thread can be created, nothing
  is freed that still has an owner.

`e2_free_agent` frees `agent_args`, a local variable of `init_agent_api`, and reads it
afterwards; `stop_agent_api` forgets an entry whose thread has returned without freeing its
agent.
-/

namespace FlexRic

namespace AgentApi

variable {s s' : AgentApi} {a b i n : Nat} {r r' : AgentRun} {mem mem' : Memory} {f g : Field} {x : Nat}

/-! ## What is asked of the registry -/

/-- An agent that is not freed and whose thread has not returned. -/
def Live (s : AgentApi) (a : Nat) : Prop :=
  a < s.born ∧ (s.runs a).freed = 0 ∧ (s.runs a).thread ≠ .returned

/-- **What is asked of the registry** in a state of a run. -/
structure Safe (s : AgentApi) : Prop where
  entries : s.numActiveAgents ≤ macNearRtRics
  /-- at most one live agent has an address, and one active entry -/
  oneLive : ∀ a b, s.Live a → s.Live b → (s.runs a).addr = (s.runs b).addr → a = b
  oneActive : ∀ i j x y, i < s.numActiveAgents → j < s.numActiveAgents →
    (s.agents i).active = true → (s.agents j).active = true → (s.agents i).ricIp = some x →
      (s.agents j).ricIp = some y → x.2 = y.2 → i = j
  /-- no agent is freed twice or joined twice, and after `stop_agent_api` each one was -/
  atMostOnce : ∀ a < s.born, (s.runs a).freed ≤ 1 ∧ (s.runs a).joined ≤ 1
  once : ∀ a < s.settled, (s.runs a).freed = 1 ∧ (s.runs a).joined = 1
  /-- nothing is used after it was freed, and only what the allocator gave is freed -/
  noFault : s.mem.faults = []

/-- Each thread can be created, and no registered agent is stopped. -/
def Fits (maxRicIpLength : Nat) (s : AgentApi) : Event → Prop
  | .initAgent c => ¬(Creates maxRicIpLength s c ∧ c.threadFails = true)
  | .stop => s.numActiveAgents = 0
  | _ => True

instance (maxRicIpLength : Nat) (s : AgentApi) (e : Event) : Decidable (Fits maxRicIpLength s e) := by
  cases e <;> unfold Fits <;> infer_instance

/-! ## The invariant -/

/-- Where the registry knows an object. -/
inductive Holder where
  | field (a : Nat) (f : Field)
  | ip (i : Nat)

def held (s : AgentApi) : Holder → Option Nat
  | .field a f => if a < s.born then (s.runs a).obj f else none
  | .ip i => if i < s.numActiveAgents then (s.agents i).ricIp.map Prod.fst else none

/-- All but these two are there as long as the agent is. -/
def Kept (r : AgentRun) : Prop := ∀ f, f ≠ .cuDuId → f ≠ .initRicAddr → (r.obj f).isSome

/-- An agent, its entry and its thread. -/
structure RunOk (s : AgentApi) (a : Nat) : Prop where
  kept : Kept (s.runs a)
  inst : (s.runs a).inst < s.numActiveAgents
  agent : (s.agents (s.runs a).inst).agent = some a
  thread : (s.runs a).thread ≠ .none
  /-- the loop is that of its own agent, whose address it has -/
  running : ∀ b, (s.runs a).thread = .running b → b = a ∧ ((s.runs a).obj .initRicAddr).isSome
  active : (s.runs a).thread ≠ .returned → (s.agents (s.runs a).inst).active = true
  addr : (s.agents (s.runs a).inst).ricIp.map Prod.snd = some (s.runs a).addr
  freed : (s.runs a).freed = 0
  joined : (s.runs a).joined = 0

/-- The invariant. -/
structure Inv (s : AgentApi) : Prop where
  call : s.call = .idle ∨ s.call = .stop 0 .entry ∧ s.numActiveAgents = 0
  holds : s.mem.Holds s.held
  faults : s.mem.faults = []
  entries : s.numActiveAgents ≤ macNearRtRics
  runs : ∀ a < s.born, RunOk s a
  /-- each entry has an agent, whose thread makes it active -/
  registered : ∀ i < s.numActiveAgents, ∃ a < s.born, (s.runs a).inst = i ∧
    ((s.agents i).active = true → (s.runs a).thread ≠ .returned)
  oneLive : ∀ a b, s.Live a → s.Live b → (s.runs a).addr = (s.runs b).addr → a = b
  settled : s.settled = 0

/-- **The invariant is safe**: entries are whole, and nothing is freed twice. -/
theorem Inv.safe (h : Inv s) : Safe s where
  entries := h.entries
  oneLive := h.oneLive
  oneActive := fun i j x y hi hj hai haj hx hy hxy => by
    obtain ⟨a, ha, rfl, hta⟩ := h.registered i hi
    obtain ⟨b, hb, rfl, htb⟩ := h.registered j hj
    have haddr : (s.runs a).addr = (s.runs b).addr := by
      have haa := (h.runs a ha).addr
      have hbb := (h.runs b hb).addr
      rw [hx] at haa
      rw [hy] at hbb
      exact (Option.some.inj haa).symm.trans (hxy.trans (Option.some.inj hbb))
    rw [h.oneLive a b ⟨ha, (h.runs a ha).freed, hta hai⟩ ⟨hb, (h.runs b hb).freed, htb haj⟩ haddr]
  atMostOnce := fun a ha => by
    rw [(h.runs a ha).freed, (h.runs a ha).joined]
    exact ⟨Nat.zero_le _, Nat.zero_le _⟩
  once := fun a ha => by
    rw [h.settled] at ha
    exact absurd ha (Nat.not_lt_zero a)
  noFault := h.faults

/-- The empty registry has it. -/
theorem inv_init : Inv init where
  call := .inl rfl
  holds :=
    { live := fun y k hy => by cases y <;> cases hy
      one := fun y z k hy => by cases y <;> cases hy
      fresh := fun k hk => by cases hk }
  faults := rfl
  entries := Nat.zero_le _
  runs := fun a ha => absurd ha (Nat.not_lt_zero a)
  registered := fun i hi => absurd hi (Nat.not_lt_zero i)
  oneLive := fun a b ha => absurd ha.1 (Nat.not_lt_zero a)
  settled := rfl

/-! ## The code of a thread -/

/-- A thread's code is what it was set to. -/
@[simp] theorem runs_setRun_self : (s.setRun a r).runs a = r := if_pos rfl

/-- Setting a thread's code does not change that of another one. -/
theorem runs_setRun_of_ne (h : b ≠ a) : (s.setRun a r).runs b = s.runs b := if_neg h

@[simp] theorem obj_set_self {x : Option Nat} : (r.set f x).obj f = x := if_pos rfl

theorem obj_set_of_ne {x : Option Nat} (h : g ≠ f) : (r.set f x).obj g = r.obj g := if_neg h

/-- What is held when the agent `a` is as in `r`. -/
def heldWith (s : AgentApi) (a : Nat) (r : AgentRun) : Holder → Option Nat := (s.setRun a r).held

/-- What an agent holds is what its fields point to. -/
theorem heldWith_field (ha : a < s.born) : s.heldWith a r (.field a f) = r.obj f := by
  rw [heldWith, held]
  exact (if_pos ha).trans (by rw [runs_setRun_self])

/-- What other holders have does not change with an agent's fields. -/
theorem heldWith_other {y : Holder} (hy : ∀ f, y ≠ .field a f) :
    s.heldWith a r' y = s.heldWith a r y := by
  cases y with
  | ip i => rfl
  | field b f =>
    have hb : b ≠ a := by
      rintro rfl
      exact hy f rfl
    show (if b < s.born then _ else none) = if b < s.born then _ else none
    rw [runs_setRun_of_ne hb, runs_setRun_of_ne hb]

/-- A member is set. -/
theorem heldWith_set {x : Option Nat} {y : Holder} (hy : y ≠ .field a f) :
    s.heldWith a (r.set f x) y = s.heldWith a r y := by
  by_cases hother : ∃ g, y = .field a g
  · obtain ⟨g, rfl⟩ := hother
    have hg : g ≠ f := fun heq => hy (by rw [heq])
    by_cases ha : a < s.born
    · rw [heldWith_field ha, heldWith_field ha, obj_set_of_ne hg]
    · exact (if_neg ha).trans (if_neg ha).symm
  · exact heldWith_other fun g hg => hother ⟨g, hg⟩

/-- The agent `a` as in `r`, whose objects are sound. -/
structure Sound (s : AgentApi) (a : Nat) (r : AgentRun) (mem : Memory) : Prop where
  holds : mem.Holds (s.heldWith a r)
  faults : mem.faults = []
  kept : Kept r

/-- What the code of a thread leaves alone. -/
structure SameRun (r r' : AgentRun) : Prop where
  addr : r'.addr = r.addr
  inst : r'.inst = r.inst
  thread : r'.thread = r.thread
  freed : r'.freed = r.freed
  joined : r'.joined = r.joined

theorem SameRun.refl (r : AgentRun) : SameRun r r := ⟨rfl, rfl, rfl, rfl, rfl⟩

/-- What changes no field twice changes none. -/
theorem SameRun.trans {r₁ r₂ r₃ : AgentRun} (h : SameRun r₁ r₂) (h' : SameRun r₂ r₃) :
    SameRun r₁ r₃ :=
  ⟨h'.addr.trans h.addr, h'.inst.trans h.inst, h'.thread.trans h.thread, h'.freed.trans h.freed,
    h'.joined.trans h.joined⟩

/-- Setting a field keeps the other fields set. -/
theorem Kept.set {n : Nat} (h : Kept r) : Kept (r.set f (some n)) := by
  intro g hc hi
  by_cases hg : g = f
  · subst hg
    rw [obj_set_self]
    rfl
  · rw [obj_set_of_ne hg]
    exact h g hc hi

/-- The address may be forgotten while the other fields stay set. -/
theorem Kept.forget (h : Kept r) : Kept (r.set .initRicAddr none) := by
  intro g hc hi
  rw [obj_set_of_ne hi]
  exact h g hc hi

/-- The pending timers are reset without touching a field. -/
theorem sameRun_resetPending {freed : Bool} : SameRun r (resetPending r mem freed).1 :=
  ⟨rfl, rfl, rfl, rfl, rfl⟩

theorem initRicAddr_resetPending {freed : Bool} :
    (resetPending r mem freed).1.obj .initRicAddr = r.obj .initRicAddr := by
  dsimp only [resetPending]
  exact obj_set_of_ne (by decide)

section Thread

variable (ha : a < s.born)

include ha

/-- **A field that is set points to a live object.** -/
theorem Sound.live (h : Sound s a r mem) (hf : (r.obj f).isSome) : ∃ n, r.obj f = some n ∧
    s.heldWith a r (.field a f) = some n ∧ n ∈ mem.live := by
  obtain ⟨n, hn⟩ := Option.isSome_iff_exists.mp hf
  have hheld : s.heldWith a r (.field a f) = some n := (heldWith_field ha).trans hn
  exact ⟨n, hn, hheld, h.holds.live _ n hheld⟩

/-- What a member points to can be read. -/
theorem Sound.access (h : Sound s a r mem) (hf : (r.obj f).isSome) :
    mem.access (r.ptr f) = mem := by
  obtain ⟨n, hn, -, hlive⟩ := h.live ha hf
  rw [AgentRun.ptr, hn]
  exact Memory.access_live hlive

/-- A new object for a member; the old one is lost. -/
theorem Sound.malloc (h : Sound s a r mem) : Sound s a (r.set f (some mem.next)) mem.malloc := by
  refine ⟨h.holds.malloc (x := .field a f) fun y k hy => ?_, h.faults, h.kept.set⟩
  by_cases hyf : y = .field a f
  · subst hyf
    rw [heldWith_field ha, obj_set_self] at hy
    exact .inr ⟨rfl, (Option.some.inj hy).symm⟩
  · rw [heldWith_set hyf] at hy
    exact .inl ⟨hy, hyf⟩

/-- A member is freed and forgotten, unless there was nothing. -/
theorem Sound.freed (h : Sound s a r mem) (hf : (r.obj f).isSome) :
    (mem.free (r.ptr f)).Holds (s.heldWith a (r.set f none)) ∧ (mem.free (r.ptr f)).faults = [] := by
  obtain ⟨n, hn, hheld, hlive⟩ := h.live ha hf
  rw [AgentRun.ptr, hn]
  refine ⟨h.holds.release hheld fun y k hy => ?_, (Memory.faults_free hlive).trans h.faults⟩
  by_cases hyf : y = .field a f
  · subst hyf
    rw [heldWith_field ha, obj_set_self] at hy
    cases hy
  · rw [heldWith_set hyf] at hy
    exact ⟨hy, hyf⟩

/-- The address of an agent may be forgotten. -/
theorem Sound.forget (h : Sound s a r mem) : Sound s a (r.set .initRicAddr none) mem := by
  refine ⟨h.holds.mono fun y k hy => ?_, h.faults, h.kept.forget⟩
  by_cases hyf : y = .field a .initRicAddr
  · subst hyf
    rw [heldWith_field ha, obj_set_self] at hy
    cases hy
  · rwa [heldWith_set hyf] at hy

/-- `free(ag->init_ric_addr)`. -/
theorem Sound.freeAddr (h : Sound s a r mem) (hf : (r.obj .initRicAddr).isSome) :
    Sound s a (r.set .initRicAddr none) (mem.free (r.ptr .initRicAddr)) :=
  ⟨(h.freed ha hf).1, (h.freed ha hf).2, h.kept.forget⟩

/-- The members other than the pointers do not matter. -/
theorem Sound.congr (h : Sound s a r mem) (hobj : r'.obj = r.obj) : Sound s a r' mem := by
  refine ⟨h.holds.mono fun y k hy => ?_, h.faults, fun f => by rw [hobj]; exact h.kept f⟩
  by_cases hother : ∃ g, y = .field a g
  · obtain ⟨g, rfl⟩ := hother
    rw [heldWith_field ha, hobj] at hy
    rwa [heldWith_field ha]
  · rwa [heldWith_other (r := r) fun g hg => hother ⟨g, hg⟩] at hy

/-- **The pending events** are freed, if asked, and made anew. -/
theorem Sound.resetPending (freed : Bool) (h : Sound s a r mem) :
    Sound s a (resetPending r mem freed).1 (resetPending r mem freed).2 := by
  have hpending : (r.obj .pending).isSome := h.kept .pending (by decide) (by decide)
  cases freed with
  | false => exact (h.malloc (f := .pending) ha).congr ha rfl
  | true =>
    obtain ⟨hholds, hfaults⟩ := h.freed (f := .pending) ha hpending
    refine Sound.congr ha (r := r.set .pending (some (mem.free (r.ptr .pending)).next)) ?_ rfl
    refine ⟨hholds.malloc (x := .field a .pending) fun y k hy => ?_, hfaults, h.kept.set⟩
    by_cases hyf : y = .field a .pending
    · subst hyf
      rw [heldWith_field ha, obj_set_self] at hy
      exact .inr ⟨rfl, (Option.some.inj hy).symm⟩
    · rw [heldWith_set hyf] at hy
      rw [heldWith_set hyf]
      exact .inl ⟨hy, hyf⟩

/-- **`e2_start_agent`** keeps the agent sound, and its loop has an address. -/
theorem Sound.e2StartAgent (h : Sound s a r mem) (res : StartResult) :
    Sound s a (e2StartAgent r mem res).1 (e2StartAgent r mem res).2.1 ∧
      SameRun r (e2StartAgent r mem res).1 ∧
      ((e2StartAgent r mem res).2.2 = true → ((e2StartAgent r mem res).1.obj .initRicAddr).isSome) := by
  have hself : mem.access (r.ptr .self) = mem := h.access ha (h.kept .self (by decide) (by decide))
  have hdup := h.malloc (f := .initRicAddr) ha
  have hsome : ((r.set .initRicAddr (some mem.next)).obj .initRicAddr).isSome := by
    rw [obj_set_self]
    rfl
  have hpending := hdup.access ha (hdup.kept .pending (by decide) (by decide))
  have hreset := hdup.resetPending ha (decide (0 < r.pendingSize))
  have haddr : ((AgentApi.resetPending (r.set .initRicAddr (some mem.next)) mem.malloc
      (decide (0 < r.pendingSize))).1.obj .initRicAddr).isSome := by
    rw [initRicAddr_resetPending]
    exact hsome
  cases res with
  | noMemory =>
    simp only [AgentApi.e2StartAgent, hself]
    exact ⟨h.forget ha, ⟨rfl, rfl, rfl, rfl, rfl⟩, fun hno => by cases hno⟩
  | noMutex =>
    simp only [AgentApi.e2StartAgent, hself]
    exact ⟨hdup.freeAddr ha hsome, ⟨rfl, rfl, rfl, rfl, rfl⟩, fun hno => by cases hno⟩
  | noTimer =>
    simp only [AgentApi.e2StartAgent, hself, hpending]
    exact ⟨hreset.freeAddr ha haddr, ⟨rfl, rfl, rfl, rfl, rfl⟩, fun hno => by cases hno⟩
  | ok =>
    have hplugin := hreset.access ha (hreset.kept .plugin (by decide) (by decide))
    simp only [AgentApi.e2StartAgent, hself, hpending]
    refine ⟨?_, ⟨rfl, rfl, rfl, rfl, rfl⟩, fun _ => haddr⟩
    exact (hplugin.symm ▸ hreset).congr ha rfl

/-- **`handle_pending_event`.** -/
theorem Sound.handlePendingEvent {created encoded : Bool} (h : Sound s a r mem)
    (haddr : (r.obj .initRicAddr).isSome) :
    Sound s a (handlePendingEvent r mem created encoded).1
        (handlePendingEvent r mem created encoded).2 ∧
      SameRun r (handlePendingEvent r mem created encoded).1 ∧
      (handlePendingEvent r mem created encoded).1.obj .initRicAddr = r.obj .initRicAddr := by
  have hread {f : Field} (hc : f ≠ .cuDuId) (hi : f ≠ .initRicAddr) : mem.access (r.ptr f) = mem :=
    h.access ha (h.kept f hc hi)
  simp only [AgentApi.handlePendingEvent, h.access ha haddr,
    hread (f := .ricConnections) (by decide) (by decide),
    hread (f := .ricAddr) (by decide) (by decide), hread (f := .pending) (by decide) (by decide)]
  have hreset := h.resetPending ha true
  have hone : Sound s a { (AgentApi.resetPending r mem true).1 with pendingSize := 1 }
      (AgentApi.resetPending r mem true).2 := hreset.congr ha rfl
  have hfirst : (AgentApi.resetPending r mem true).1.obj .initRicAddr = r.obj .initRicAddr :=
    initRicAddr_resetPending
  cases created with
  | false => exact ⟨hreset, sameRun_resetPending, hfirst⟩
  | true =>
    cases encoded with
    | true => exact ⟨hone, ⟨rfl, rfl, rfl, rfl, rfl⟩, hfirst⟩
    | false =>
      refine ⟨hone.resetPending ha _, ⟨rfl, rfl, rfl, rfl, rfl⟩, Eq.trans ?_ hfirst⟩
      exact initRicAddr_resetPending (r := { (AgentApi.resetPending r mem true).1 with pendingSize := 1 })

/-- **`handle_connection_shutdown`.** -/
theorem Sound.handleConnectionShutdown {created : Bool} (h : Sound s a r mem) :
    Sound s a (handleConnectionShutdown r mem created).1
        (handleConnectionShutdown r mem created).2 ∧
      SameRun r (handleConnectionShutdown r mem created).1 ∧
      (handleConnectionShutdown r mem created).1.obj .initRicAddr = r.obj .initRicAddr := by
  have hpending := h.access ha (h.kept .pending (by decide) (by decide))
  simp only [AgentApi.handleConnectionShutdown, hpending]
  have hfirst : (AgentApi.resetPending r mem (decide (0 < r.pendingSize))).1.obj .initRicAddr =
      r.obj .initRicAddr := initRicAddr_resetPending
  exact ⟨(h.resetPending ha _).congr ha rfl, ⟨rfl, rfl, rfl, rfl, rfl⟩, hfirst⟩

/-- **A turn of the loop** uses nothing that was freed. -/
theorem Sound.loopTurn {t : Turn} {loops : Bool} (h : Sound s a r mem)
    (haddr : (r.obj .initRicAddr).isSome)
    (hrun : loopTurn r mem t = .next (r', mem', loops)) :
    Sound s a r' mem' ∧ SameRun r r' ∧ r'.obj .initRicAddr = r.obj .initRicAddr := by
  have hread {f : Field} (hc : f ≠ .cuDuId) (hi : f ≠ .initRicAddr) : mem.access (r.ptr f) = mem :=
    h.access ha (h.kept f hc hi)
  have hpending := hread (f := .pending) (by decide) (by decide)
  have hplugin := hread (f := .plugin) (by decide) (by decide)
  have hind := hread (f := .indEvent) (by decide) (by decide)
  have haind := hread (f := .aind) (by decide) (by decide)
  cases t with
  | message =>
    simp only [AgentApi.loopTurn, hpending, hplugin, hind, haind] at hrun
    cases hrun
    exact ⟨h, .refl r, rfl⟩
  | setupResponse =>
    obtain ⟨_, -, hrun⟩ := Outcome.bind_eq_next.mp hrun
    rw [hpending] at hrun
    cases hrun
    exact ⟨h.congr ha rfl, ⟨rfl, rfl, rfl, rfl, rfl⟩, rfl⟩
  | timer created encoded =>
    simp only [AgentApi.loopTurn, hpending] at hrun
    cases hrun
    exact h.handlePendingEvent ha haddr
  | lost created =>
    cases hrun
    exact h.handleConnectionShutdown ha
  | stray =>
    simp only [AgentApi.loopTurn, hind, haind] at hrun
    cases hrun
    exact ⟨h, .refl r, rfl⟩

end Thread

/-! ## Steps of the threads -/

theorem setRun_mem : ({ s.setRun a r with mem } : AgentApi).setRun a r' =
    { s.setRun a r' with mem } := by
  have hruns : (fun b => if b = a then r' else if b = a then r else s.runs b) =
      fun b => if b = a then r' else s.runs b := by
    funext b
    by_cases hb : b = a
    · rw [if_pos hb, if_pos hb]
    · rw [if_neg hb, if_neg hb, if_neg hb]
  unfold setRun
  dsimp only
  rw [hruns]

theorem setActive_eq (h : (s.agents i).active = true) : s.setActive i true = s := by
  have hsame : (fun j => if j = i then { s.agents i with active := true } else s.agents j) =
      s.agents := by
    funext j
    by_cases hj : j = i
    · rw [if_pos hj, hj, ← h]
    · rw [if_neg hj]
  unfold setActive setInstance
  rw [hsame]

/-- **The agent `a` makes a step** that keeps it sound, and its entry active. -/
theorem Inv.setRun (h : Inv s) (ha : a < s.born) (hsound : Sound s a r mem)
    (haddr : r.addr = (s.runs a).addr) (hinst : r.inst = (s.runs a).inst)
    (hfreed : r.freed = 0) (hjoined : r.joined = 0) (hthread : r.thread ≠ .none)
    (hrunning : ∀ b, r.thread = .running b → b = a ∧ (r.obj .initRicAddr).isSome)
    (hreturned : r.thread ≠ .returned ↔ (s.runs a).thread ≠ .returned) :
    Inv { s.setRun a r with mem } where
  call := h.call
  holds := hsound.holds
  faults := hsound.faults
  entries := h.entries
  runs := fun b hb => by
    have hok := h.runs b hb
    by_cases hba : b = a
    · subst hba
      have hr : ({ s.setRun b r with mem } : AgentApi).runs b = r := runs_setRun_self
      refine ⟨?_, ?_, ?_, ?_, ?_, ?_, ?_, ?_, ?_⟩ <;> rw [hr]
      · exact hsound.kept
      · rw [hinst]
        exact hok.inst
      · rw [hinst]
        exact hok.agent
      · exact hthread
      · exact hrunning
      · intro hne
        rw [hinst]
        exact hok.active (hreturned.mp hne)
      · rw [hinst, haddr]
        exact hok.addr
      · exact hfreed
      · exact hjoined
    · have hr : ({ s.setRun a r with mem } : AgentApi).runs b = s.runs b := runs_setRun_of_ne hba
      refine ⟨?_, ?_, ?_, ?_, ?_, ?_, ?_, ?_, ?_⟩ <;> rw [hr]
      exacts [hok.kept, hok.inst, hok.agent, hok.thread, hok.running, hok.active, hok.addr,
        hok.freed, hok.joined]
  registered := fun i hi => by
    obtain ⟨b, hb, hbi, hactive⟩ := h.registered i hi
    by_cases hba : b = a
    · subst hba
      have hr : ({ s.setRun b r with mem } : AgentApi).runs b = r := runs_setRun_self
      refine ⟨b, hb, ?_, ?_⟩
      · rw [hr, hinst]
        exact hbi
      · rw [hr]
        exact fun hi => hreturned.mpr (hactive hi)
    · have hr : ({ s.setRun a r with mem } : AgentApi).runs b = s.runs b := runs_setRun_of_ne hba
      refine ⟨b, hb, ?_, ?_⟩ <;> rw [hr]
      exacts [hbi, hactive]
  oneLive := fun b c hb hc hbc => by
    have hlive {x : Nat} (hx : ({ s.setRun a r with mem } : AgentApi).Live x) :
        s.Live x ∧ ({ s.setRun a r with mem } : AgentApi).runs x = s.runs x ∨
          x = a ∧ s.Live a ∧ (({ s.setRun a r with mem } : AgentApi).runs x).addr = (s.runs a).addr := by
      obtain ⟨hxb, hxf, hxt⟩ := hx
      by_cases hxa : x = a
      · subst hxa
        have hr : ({ s.setRun x r with mem } : AgentApi).runs x = r := runs_setRun_self
        rw [hr] at hxt
        exact .inr ⟨rfl, ⟨ha, (h.runs x ha).freed, hreturned.mp hxt⟩, by rw [hr, haddr]⟩
      · have hr : ({ s.setRun a r with mem } : AgentApi).runs x = s.runs x := runs_setRun_of_ne hxa
        rw [hr] at hxf hxt
        exact .inl ⟨⟨hxb, hxf, hxt⟩, hr⟩
    obtain ⟨hlb, hrb⟩ | ⟨rfl, hla, hrb⟩ := hlive hb <;> obtain ⟨hlc, hrc⟩ | ⟨hca, hla', hrc⟩ := hlive hc
    · rw [hrb, hrc] at hbc
      exact h.oneLive b c hlb hlc hbc
    · rw [hrb, hrc] at hbc
      rw [hca]
      exact h.oneLive b a hlb hla' hbc
    · rw [hrb, hrc] at hbc
      exact h.oneLive b c hla hlc hbc
    · exact hca.symm
  settled := h.settled

/-- The invariant says so of every agent that was born. -/
theorem Inv.sound (h : Inv s) (ha : a < s.born) : Sound s a (s.runs a) s.mem := by
  refine ⟨h.holds.mono fun y k hy => ?_, h.faults, (h.runs a ha).kept⟩
  have hsame : s.setRun a (s.runs a) = s := by
    unfold AgentApi.setRun
    congr 1
    funext b
    by_cases hb : b = a
    · rw [if_pos hb, hb]
    · rw [if_neg hb]
  rwa [heldWith, hsame] at hy

/-- `static_start_agent`. -/
theorem Inv.start {res : StartResult} (h : Inv s) (ha : a < s.born)
    (hrun : s.staticStartAgent a res = .next s') : Inv s' := by
  have hok := h.runs a ha
  obtain ⟨_, hcreated, hrun⟩ := Outcome.bind_eq_next.mp hrun
  have hcreated : (s.runs a).thread = .created := beq_iff_eq.mp (Outcome.await_eq_next.mp hcreated)
  have hne : (s.runs a).thread ≠ .returned := by rw [hcreated]; decide
  rw [hok.agent] at hrun
  dsimp only at hrun
  rw [setActive_eq (hok.active hne)] at hrun
  obtain ⟨hsound, hsame, haddr⟩ := (h.sound ha).e2StartAgent ha res
  revert hrun hsound hsame haddr
  generalize AgentApi.e2StartAgent (s.runs a) s.mem res = out
  obtain ⟨r, mem, loops⟩ := out
  intro hrun hsound hsame haddr
  dsimp only at hrun hsound hsame haddr
  rw [setRun_mem] at hrun
  obtain rfl := Outcome.next_inj.mp hrun
  have hr : ({ s.setRun a r with mem } : AgentApi).runs a = r := runs_setRun_self
  rw [hr]
  refine h.setRun ha (hsound.congr ha rfl) hsame.addr hsame.inst (hsame.freed.trans hok.freed)
    (hsame.joined.trans hok.joined) ?_ ?_ ?_
  · cases loops <;> exact fun heq => by cases heq
  · intro b hb
    cases loops with
    | false => cases hb
    | true =>
      cases hb
      exact ⟨rfl, haddr rfl⟩
  · constructor
    · exact fun _ => hne
    · cases loops <;> exact fun _ heq => by cases heq

/-- A turn of the loop. -/
theorem Inv.turn {t : Turn} (h : Inv s) (ha : a < s.born) (hrun : s.turn a t = .next s') :
    Inv s' := by
  have hok := h.runs a ha
  unfold AgentApi.turn at hrun
  cases hthread : (s.runs a).thread with
  | running b =>
    rw [hthread] at hrun
    dsimp only at hrun
    obtain ⟨rfl, haddr⟩ := hok.running b hthread
    have hself := (h.sound ha).access ha (hok.kept .self (by decide) (by decide))
    rw [hself] at hrun
    obtain ⟨_, -, hrun⟩ := Outcome.bind_eq_next.mp hrun
    obtain ⟨⟨r, mem, loops⟩, hturn, hrun⟩ := Outcome.bind_eq_next.mp hrun
    obtain ⟨hsound, hsame, hkeep⟩ := (h.sound ha).loopTurn ha haddr hturn
    have hne : (s.runs b).thread ≠ .returned := by rw [hthread]; exact fun heq => by cases heq
    cases loops with
    | true =>
      obtain rfl := Outcome.next_inj.mp hrun
      refine h.setRun ha hsound hsame.addr hsame.inst (hsame.freed.trans hok.freed)
        (hsame.joined.trans hok.joined) ?_ ?_ ?_ <;> rw [hsame.thread]
      · exact hok.thread
      · rw [hkeep]
        exact hok.running
    | false =>
      dsimp only at hrun
      rw [if_neg (by decide), setRun_mem] at hrun
      obtain rfl := Outcome.next_inj.mp hrun
      have hr : ({ s.setRun b r with mem } : AgentApi).runs b = r := runs_setRun_self
      rw [hr]
      refine h.setRun ha (hsound.congr ha rfl) hsame.addr hsame.inst (hsame.freed.trans hok.freed)
        (hsame.joined.trans hok.joined) ?_ ?_ ?_
      · exact fun heq => by cases heq
      · exact fun c heq => by cases heq
      · exact ⟨fun _ => hne, fun _ heq => by cases heq⟩
  | none => rw [hthread] at hrun; cases hrun
  | created => rw [hthread] at hrun; cases hrun
  | ending => rw [hthread] at hrun; cases hrun
  | returned => rw [hthread] at hrun; cases hrun

/-- The end of the loop. -/
theorem Inv.stopLoop (h : Inv s) (ha : a < s.born) (hrun : s.stopLoop a = .next s') : Inv s' := by
  have hok := h.runs a ha
  unfold AgentApi.stopLoop at hrun
  cases hthread : (s.runs a).thread with
  | running b =>
    rw [hthread] at hrun
    dsimp only at hrun
    obtain ⟨rfl, haddr⟩ := hok.running b hthread
    have hself := (h.sound ha).access ha (hok.kept .self (by decide) (by decide))
    rw [hself] at hrun
    obtain ⟨_, -, hrun⟩ := Outcome.bind_eq_next.mp hrun
    rw [setRun_mem] at hrun
    obtain rfl := Outcome.next_inj.mp hrun
    have hne : (s.runs b).thread ≠ .returned := by rw [hthread]; exact fun heq => by cases heq
    have hr : ({ s.setRun b { s.runs b with agentStopped := true } with mem := s.mem } :
        AgentApi).runs b = { s.runs b with agentStopped := true } := runs_setRun_self
    rw [hr]
    refine h.setRun ha ((h.sound ha).congr ha rfl) rfl rfl hok.freed hok.joined ?_ ?_ ?_
    · exact fun heq => by cases heq
    · exact fun c heq => by cases heq
    · exact ⟨fun _ => hne, fun _ heq => by cases heq⟩
  | none => rw [hthread] at hrun; cases hrun
  | created => rw [hthread] at hrun; cases hrun
  | ending => rw [hthread] at hrun; cases hrun
  | returned => rw [hthread] at hrun; cases hrun

/-- The thread function returns. -/
theorem Inv.threadReturn (h : Inv s) (ha : a < s.born) (hrun : s.threadReturn a = .next s') :
    Inv s' := by
  have hok := h.runs a ha
  obtain ⟨_, hending, hrun⟩ := Outcome.bind_eq_next.mp hrun
  have hending : (s.runs a).thread = .ending := beq_iff_eq.mp (Outcome.await_eq_next.mp hending)
  obtain rfl := Outcome.next_inj.mp hrun
  have hself : ((s.setActive (s.runs a).inst false).setRun a { s.runs a with thread := .returned }).runs
      a = { s.runs a with thread := .returned } := runs_setRun_self
  have hother {b : Nat} (hb : b ≠ a) : ((s.setActive (s.runs a).inst false).setRun a
      { s.runs a with thread := .returned }).runs b = s.runs b := runs_setRun_of_ne hb
  have hentry : ((s.setActive (s.runs a).inst false).setRun a
      { s.runs a with thread := .returned }).agents (s.runs a).inst =
        { s.agents (s.runs a).inst with active := false } := if_pos rfl
  have hentries {i : Nat} (hi : i ≠ (s.runs a).inst) : ((s.setActive (s.runs a).inst false).setRun a
      { s.runs a with thread := .returned }).agents i = s.agents i := if_neg hi
  -- the other agents have other entries
  have hinst {b : Nat} (hb : b < s.born) (hba : b ≠ a) : (s.runs b).inst ≠ (s.runs a).inst := by
    intro heq
    have hagent := (h.runs b hb).agent
    rw [heq, hok.agent] at hagent
    exact hba (Option.some.inj hagent).symm
  generalize ht : (s.setActive (s.runs a).inst false).setRun a
    { s.runs a with thread := .returned } = t at hself hother hentry hentries
  have hnum : t.numActiveAgents = s.numActiveAgents := by rw [← ht]; rfl
  have hborn : t.born = s.born := by rw [← ht]; rfl
  have hmem : t.mem = s.mem := by rw [← ht]; rfl
  have hlive {x : Nat} (hx : t.Live x) : s.Live x ∧ t.runs x = s.runs x := by
    obtain ⟨hxb, hxf, hxt⟩ := hx
    by_cases hxa : x = a
    · subst hxa
      rw [hself] at hxt
      exact absurd rfl hxt
    · rw [hother hxa] at hxf hxt
      exact ⟨⟨hborn ▸ hxb, hxf, hxt⟩, hother hxa⟩
  exact
    { call := by
        have hcall : t.call = s.call := by rw [← ht]; rfl
        rw [hcall, hnum]
        exact h.call
      holds := by
        rw [hmem]
        refine h.holds.mono fun y k hy => ?_
        cases y with
        | field b f =>
          rw [held, hborn] at hy
          rw [held]
          by_cases hba : b = a
          · subst hba
            rwa [hself] at hy
          · rwa [hother hba] at hy
        | ip i =>
          rw [held, hnum] at hy
          rw [held]
          by_cases hi : i = (s.runs a).inst
          · subst hi
            rwa [hentry] at hy
          · rwa [hentries hi] at hy
      faults := hmem ▸ h.faults
      entries := hnum ▸ h.entries
      runs := fun b hb => by
        rw [hborn] at hb
        have hokb := h.runs b hb
        by_cases hba : b = a
        · subst hba
          refine ⟨?_, ?_, ?_, ?_, ?_, ?_, ?_, ?_, ?_⟩ <;> rw [hself]
          · exact hokb.kept
          · rw [hnum]
            exact hokb.inst
          · rw [hentry]
            exact hokb.agent
          · exact fun heq => by cases heq
          · exact fun c heq => by cases heq
          · exact fun hne => absurd rfl hne
          · rw [hentry]
            exact hokb.addr
          · exact hokb.freed
          · exact hokb.joined
        · have hi := hentries (hinst hb hba)
          refine ⟨?_, ?_, ?_, ?_, ?_, ?_, ?_, ?_, ?_⟩ <;> rw [hother hba]
          · exact hokb.kept
          · rw [hnum]
            exact hokb.inst
          · rw [hi]
            exact hokb.agent
          · exact hokb.thread
          · exact hokb.running
          · rw [hi]
            exact hokb.active
          · rw [hi]
            exact hokb.addr
          · exact hokb.freed
          · exact hokb.joined
      registered := fun i hi => by
        rw [hnum] at hi
        obtain ⟨b, hb, rfl, hactive⟩ := h.registered i hi
        refine ⟨b, hborn ▸ hb, ?_⟩
        by_cases hba : b = a
        · subst hba
          rw [hself, hentry]
          exact ⟨rfl, fun hno => by cases hno⟩
        · rw [hother hba, hentries (hinst hb hba)]
          exact ⟨rfl, hactive⟩
      oneLive := fun b c hb hc hbc => by
        obtain ⟨hlb, hrb⟩ := hlive hb
        obtain ⟨hlc, hrc⟩ := hlive hc
        rw [hrb, hrc] at hbc
        exact h.oneLive b c hlb hlc hbc
      settled := by rw [← ht]; exact h.settled }

/-! ## `init_agent_api` and `stop_agent_api` -/

/-- Only the memory, the call and the entries that are not registered change. -/
structure Elsewhere (s s' : AgentApi) : Prop where
  runs : s'.runs = s.runs
  born : s'.born = s.born
  entries : s'.numActiveAgents = s.numActiveAgents
  settled : s'.settled = s.settled
  agents : ∀ i < s.numActiveAgents, s'.agents i = s.agents i
  mem : s.mem.Grows s'.mem

/-- What changes nothing here keeps it. -/
theorem Inv.elsewhere (h : Inv s) (hs : Elsewhere s s')
    (hcall : s'.call = .idle ∨ s'.call = .stop 0 .entry ∧ s'.numActiveAgents = 0) : Inv s' where
  call := hcall
  holds := by
    refine (h.holds.of_grows hs.mem).mono fun y k hy => ?_
    cases y with
    | field a f => rwa [held, hs.born, hs.runs] at hy
    | ip i =>
      rw [held, hs.entries] at hy
      rw [held]
      by_cases hi : i < s.numActiveAgents
      · rw [if_pos hi, hs.agents i hi] at hy
        rwa [if_pos hi]
      · rw [if_neg hi] at hy
        cases hy
  faults := hs.mem.faults.trans h.faults
  entries := by
    rw [hs.entries]
    exact h.entries
  runs := fun a ha => by
    rw [hs.born] at ha
    have hok := h.runs a ha
    have hi := hs.agents _ hok.inst
    refine ⟨?_, ?_, ?_, ?_, ?_, ?_, ?_, ?_, ?_⟩ <;> rw [hs.runs]
    · exact hok.kept
    · rw [hs.entries]
      exact hok.inst
    · rw [hi]
      exact hok.agent
    · exact hok.thread
    · exact hok.running
    · rw [hi]
      exact hok.active
    · rw [hi]
      exact hok.addr
    · exact hok.freed
    · exact hok.joined
  registered := fun i hi => by
    rw [hs.entries] at hi
    rw [hs.agents i hi, hs.born, hs.runs]
    exact h.registered i hi
  oneLive := fun a b ha hb hab => by
    rw [Live, hs.born, hs.runs] at ha hb
    rw [hs.runs] at hab
    exact h.oneLive a b ha hb hab
  settled := hs.settled.trans h.settled

/-- A registered agent more: its objects are new, and so is the string of its entry. -/
structure Started (s s' : AgentApi) (r : AgentRun) (x : Nat) : Prop where
  self : s'.runs s.born = r
  others : ∀ a, a ≠ s.born → s'.runs a = s.runs a
  entry : s'.agents s.numActiveAgents = ⟨some s.born, some s.born, true, some (x, r.addr)⟩
  entries : ∀ i, i ≠ s.numActiveAgents → s'.agents i = s.agents i
  born : s'.born = s.born + 1
  num : s'.numActiveAgents = s.numActiveAgents + 1
  call : s'.call = s.call
  settled : s'.settled = s.settled
  mem : s.mem.Grows s'.mem
  kept : Kept r
  inst : r.inst = s.numActiveAgents
  thread : r.thread = .created
  freed : r.freed = 0
  joined : r.joined = 0
  obj : ∀ f k, r.obj f = some k → s.mem.next ≤ k ∧ k ∈ s'.mem.live ∧ k ≠ x
  distinct : ∀ f g k, r.obj f = some k → r.obj g = some k → f = g
  string : s.mem.next ≤ x ∧ x ∈ s'.mem.live

/-- What is held after the start of an agent. -/
theorem Started.held_cases (h : Started s s' r x) {y : Holder} {k : Nat}
    (hy : s'.held y = some k) :
    s.held y = some k ∨ (∃ f, y = .field s.born f ∧ r.obj f = some k) ∨
      (y = .ip s.numActiveAgents ∧ k = x) := by
  cases y with
  | field a f =>
    rw [held, h.born] at hy
    by_cases ha : a = s.born
    · subst ha
      rw [if_pos (Nat.lt_succ_self _), h.self] at hy
      exact .inr (.inl ⟨f, rfl, hy⟩)
    · by_cases hlt : a < s.born
      · rw [if_pos (Nat.lt_succ_of_lt hlt), h.others a ha] at hy
        exact .inl ((if_pos hlt).trans hy)
      · rw [if_neg (by omega)] at hy
        cases hy
  | ip i =>
    rw [held, h.num] at hy
    by_cases hi : i = s.numActiveAgents
    · subst hi
      rw [if_pos (Nat.lt_succ_self _), h.entry] at hy
      exact .inr (.inr ⟨rfl, (Option.some.inj hy).symm⟩)
    · by_cases hlt : i < s.numActiveAgents
      · rw [if_pos (Nat.lt_succ_of_lt hlt), h.entries i hi] at hy
        exact .inl ((if_pos hlt).trans hy)
      · rw [if_neg (by omega)] at hy
        cases hy

/-- An agent that was started holds its new objects. -/
theorem Started.holds (h : Started s s' r x) (hinv : Inv s) : s'.mem.Holds s'.held := by
  have hold {y : Holder} {k : Nat} (hy : s.held y = some k) : k < s.mem.next :=
    hinv.holds.lt_next hy
  refine hinv.holds.extend h.mem fun y k hy => ?_
  obtain hy | ⟨f, rfl, hf⟩ | ⟨rfl, rfl⟩ := h.held_cases hy
  · exact .inl hy
  · obtain ⟨hk, hlive, hkx⟩ := h.obj f k hf
    refine .inr ⟨hk, hlive, fun z hz => ?_⟩
    obtain hz | ⟨g, rfl, hg⟩ | ⟨rfl, hx⟩ := h.held_cases hz
    · exact absurd (hold hz) (by omega)
    · rw [h.distinct g f k hg hf]
    · exact absurd hx hkx
  · refine .inr ⟨h.string.1, h.string.2, fun z hz => ?_⟩
    obtain hz | ⟨g, rfl, hg⟩ | ⟨rfl, -⟩ := h.held_cases hz
    · have := hold hz
      have := h.string.1
      omega
    · exact absurd rfl (h.obj g k hg).2.2
    · rfl

/-- **A new agent**, for an address that no active entry has. -/
theorem Inv.started (h : Inv s) (hs : Started s s' r x) (hcall : s.call = .idle)
    (hnum : s.numActiveAgents < macNearRtRics)
    (hnew : ∀ i < s.numActiveAgents, (s.agents i).active = true →
      (s.agents i).ricIp.map Prod.snd ≠ some r.addr) : Inv s' where
  call := .inl (hs.call.trans hcall)
  holds := hs.holds h
  faults := hs.mem.faults.trans h.faults
  entries := by
    rw [hs.num]
    exact hnum
  runs := fun a ha => by
    rw [hs.born] at ha
    by_cases hab : a = s.born
    · subst hab
      refine ⟨?_, ?_, ?_, ?_, ?_, ?_, ?_, ?_, ?_⟩ <;> rw [hs.self]
      · exact hs.kept
      · rw [hs.inst, hs.num]
        exact Nat.lt_succ_self _
      · rw [hs.inst, hs.entry]
      · rw [hs.thread]
        exact fun heq => by cases heq
      · rw [hs.thread]
        exact fun b heq => by cases heq
      · rw [hs.inst, hs.entry]
        exact fun _ => rfl
      · rw [hs.inst, hs.entry]
        rfl
      · exact hs.freed
      · exact hs.joined
    · have hok := h.runs a (by omega)
      have hi := hs.entries _ (Nat.ne_of_lt hok.inst)
      refine ⟨?_, ?_, ?_, ?_, ?_, ?_, ?_, ?_, ?_⟩ <;> rw [hs.others a hab]
      · exact hok.kept
      · rw [hs.num]
        exact Nat.lt_succ_of_lt hok.inst
      · rw [hi]
        exact hok.agent
      · exact hok.thread
      · exact hok.running
      · rw [hi]
        exact hok.active
      · rw [hi]
        exact hok.addr
      · exact hok.freed
      · exact hok.joined
  registered := fun i hi => by
    rw [hs.num] at hi
    rw [hs.born]
    by_cases hii : i = s.numActiveAgents
    · refine ⟨s.born, Nat.lt_succ_self _, ?_⟩
      rw [hs.self, hs.inst, hs.thread]
      exact ⟨hii.symm, fun _ heq => by cases heq⟩
    · obtain ⟨a, ha, hai, hactive⟩ := h.registered i (by omega)
      refine ⟨a, Nat.lt_succ_of_lt ha, ?_⟩
      rw [hs.others a (Nat.ne_of_lt ha), hs.entries i hii]
      exact ⟨hai, hactive⟩
  oneLive := fun a b ha hb hab => by
    -- an agent there was, live and with the new address, would have an active entry
    have hold {c : Nat} (hc : s'.Live c) (hcb : c ≠ s.born) : s.Live c ∧ (s.runs c).addr ≠ r.addr := by
      obtain ⟨hlt, hfreed, hthread⟩ := hc
      rw [hs.born] at hlt
      rw [hs.others c hcb] at hfreed hthread
      have hlt' : c < s.born := by omega
      have hok := h.runs c hlt'
      refine ⟨⟨hlt', hfreed, hthread⟩, fun heq => ?_⟩
      exact hnew _ hok.inst (hok.active hthread) (by rw [hok.addr, heq])
    by_cases hab' : a = s.born <;> by_cases hbb : b = s.born
    · rw [hab', hbb]
    · rw [hab', hs.self, hs.others b hbb] at hab
      exact absurd hab.symm (hold hb hbb).2
    · rw [hbb, hs.self, hs.others a hab'] at hab
      exact absurd hab (hold ha hab').2
    · rw [hs.others a hab', hs.others b hbb] at hab
      exact h.oneLive a b (hold ha hab').1 (hold hb hbb).1 hab
  settled := hs.settled.trans h.settled

/-- No two fields have one place. -/
theorem Field.index_inj (h : f.index = g.index) : f = g := by
  cases f <;> cases g <;> first | rfl | cases h

/-- The strings of the arguments of a call, and what comes before them. -/
def argsMemory (c : InitCall) (m : Memory) : Memory :=
  (((m.malloc.mallocIf c.cuDuId).malloc).mallocIf c.clientIp).mallocIf c.libsDir

theorem next_argsMemory {c : InitCall} : (argsMemory c mem).next = mem.next + 5 := by
  simp [argsMemory]

theorem grows_argsMemory {c : InitCall} (h : mem.Grows mem) : mem.Grows (argsMemory c mem) :=
  h.malloc.mallocIf.malloc.mallocIf.mallocIf

/-- The arguments of a call, as far as they are given. -/
theorem mem_argsMemory {c : InitCall} {k : Nat} : k ∈ (argsMemory c mem).live ↔
    (c.libsDir = true ∧ k = mem.next + 4) ∨ (c.clientIp = true ∧ k = mem.next + 3) ∨
      k = mem.next + 2 ∨ (c.cuDuId = true ∧ k = mem.next + 1) ∨ k = mem.next ∨ k ∈ mem.live := by
  simp [argsMemory]

/-- What the agent's own members point to. -/
theorem obj_e2InitAgent {base inst : Nat} {ip : List Char} {args : Args} {cuDuId : Option Nat} {k : Nat}
    (h : (e2InitAgent base ip args cuDuId inst).obj f = some k) :
    (f = .cuDuId ∧ cuDuId = some k) ∨ (f ≠ .cuDuId ∧ k = base + f.index ∧ f.index < 8) := by
  by_cases hf : f = .cuDuId
  · subst hf
    exact .inl ⟨rfl, h⟩
  · refine .inr ⟨hf, ?_, ?_⟩
    · have hk : (if f = .cuDuId then cuDuId else some (base + f.index)) = some k := h
      rw [if_neg hf] at hk
      exact (Option.some.inj hk).symm
    · cases f <;> first | decide | exact absurd rfl hf

/-- An address that is not found is nobody's. -/
theorem hasAgent_eq_false {ip : List Char} (h : s.hasAgent ip = false) (hi : i < s.numActiveAgents)
    (hactive : (s.agents i).active = true) : (s.agents i).ricIp.map Prod.snd ≠ some ip := by
  have hno := List.any_eq_false.mp h i (List.mem_range.mpr hi)
  intro heq
  obtain ⟨x, hx, rfl⟩ := Option.map_eq_some_iff.mp heq
  rw [hactive, hx] at hno
  exact hno (by simp)

/-- **`e2_free_agent` cannot be right**: the address of the endpoint is an array of the agent. -/
theorem faults_freeOwned (s : AgentApi) (a : Nat) (call : ApiCall) :
    ({ s.freeOwned a with call } : AgentApi).mem.faults ≠ [] :=
  List.append_ne_nil_of_right_ne_nil _ (List.cons_ne_nil _ _)

/-- `init_agent_api` from `e2_init_agent` on. -/
theorem startAgent_cases {c : InitCall} {ip : List Char} {serverIpStr : Nat} {cuDuId : Option Nat}
    {args : Args} (hrun : s.startAgent c ip serverIpStr cuDuId args = .next s') :
    (c.agentFails = true ∧ s' = { s.setInstance s.numActiveAgents
      { s.agents s.numActiveAgents with agent := none } with
        mem := { s.mem.free (.heap serverIpStr) with scope := none } }) ∨
    (c.agentFails = false ∧ c.threadFails = true ∧ s'.mem.faults ≠ []) ∨
    (c.agentFails = false ∧ c.threadFails = false ∧ s'.mem =
        { ((s.mem.mallocs 8).malloc).free (.heap serverIpStr) with scope := none } ∧
      s'.runs s.born = { e2InitAgent s.mem.next ip args cuDuId s.numActiveAgents with
        thread := .created } ∧
      (∀ a, a ≠ s.born → s'.runs a = s.runs a) ∧
      s'.agents s.numActiveAgents = ⟨some s.born, some s.born, true, some (s.mem.next + 8, ip)⟩ ∧
      (∀ i, i ≠ s.numActiveAgents → s'.agents i = s.agents i) ∧ s'.born = s.born + 1 ∧
      s'.numActiveAgents = s.numActiveAgents + 1 ∧ s'.call = s.call ∧ s'.settled = s.settled) := by
  unfold startAgent at hrun
  dsimp only at hrun
  cases hfails : c.agentFails with
  | true =>
    rw [hfails, if_pos rfl] at hrun
    exact .inl ⟨rfl, (Outcome.next_inj.mp hrun).symm⟩
  | false =>
    rw [hfails, if_neg (by decide)] at hrun
    obtain ⟨_, -, hrun⟩ := Outcome.bind_eq_next.mp hrun
    obtain ⟨_, -, hrun⟩ := Outcome.bind_eq_next.mp hrun
    obtain ⟨_, -, hrun⟩ := Outcome.bind_eq_next.mp hrun
    cases hthread : c.threadFails with
    | true =>
      rw [hthread, if_pos rfl] at hrun
      obtain rfl := Outcome.next_inj.mp hrun
      exact .inr (.inl ⟨rfl, rfl, faults_freeOwned _ s.born _⟩)
    | false =>
      rw [hthread, if_neg (by decide)] at hrun
      obtain rfl := Outcome.next_inj.mp hrun
      have hself : (s.setRun s.born (e2InitAgent s.mem.next ip args cuDuId s.numActiveAgents)).runs
          s.born = e2InitAgent s.mem.next ip args cuDuId s.numActiveAgents := runs_setRun_self
      exact .inr (.inr ⟨rfl, rfl, rfl,
        runs_setRun_self.trans (congrArg (fun r : AgentRun => { r with thread := .created }) hself),
        fun a ha => (runs_setRun_of_ne ha).trans (runs_setRun_of_ne ha), if_pos rfl,
        fun i hi => if_neg hi, rfl, rfl, rfl, rfl⟩)

/-- What `agent_args` points to is freed again where the address is too long. -/
theorem grows_freeArgs {c : InitCall} (h : mem.Grows mem) :
    mem.Grows (((((argsMemory c mem).free (.of (initArgs (mem.next + 2) c).ricIpAddress)).free
      (.of (initArgs (mem.next + 2) c).clientIp)).free
        (.of (initArgs (mem.next + 2) c).smDir)).free (.heap mem.next)) := by
  have hclient {k : Nat} (hk : (initArgs (mem.next + 2) c).clientIp = some k) :
      c.clientIp = true ∧ k = mem.next + 3 := by
    obtain ⟨hc, heq⟩ := Option.ite_some_none_eq_some.mp hk
    exact ⟨hc, heq.symm⟩
  have hdir {k : Nat} (hk : (initArgs (mem.next + 2) c).smDir = some k) :
      c.libsDir = true ∧ k = mem.next + 4 := by
    obtain ⟨hc, heq⟩ := Option.ite_some_none_eq_some.mp hk
    exact ⟨hc, heq.symm⟩
  -- a live object stays live while others are freed
  have hstays {m : Memory} {o : Option Nat} {k : Nat} (hk : k ∈ m.live) (ho : o ≠ some k) :
      k ∈ (m.free (.of o)).live := by
    cases o with
    | none => exact hk
    | some n => exact Memory.mem_free.mpr ⟨hk, fun heq => ho (by rw [heq])⟩
  have hric : mem.next + 2 ∈ (argsMemory c mem).live := mem_argsMemory.mpr (.inr (.inr (.inl rfl)))
  have hserver : mem.next ∈ (argsMemory c mem).live :=
    mem_argsMemory.mpr (.inr (.inr (.inr (.inr (.inl rfl)))))
  have hnclient : ∀ k, k ≠ mem.next + 3 → (initArgs (mem.next + 2) c).clientIp ≠ some k :=
    fun k hk heq => hk (hclient heq).2
  have hndir : ∀ k, k ≠ mem.next + 4 → (initArgs (mem.next + 2) c).smDir ≠ some k :=
    fun k hk heq => hk (hdir heq).2
  have hnric : ∀ k, k ≠ mem.next + 2 → (initArgs (mem.next + 2) c).ricIpAddress ≠ some k :=
    fun k hk heq => hk (Option.some.inj heq).symm
  refine Memory.Grows.free (Memory.Grows.freeOf (Memory.Grows.freeOf (Memory.Grows.freeOf
    (grows_argsMemory h) ?_) ?_) ?_) (Nat.le_refl _) ?_
  · rintro k ⟨⟩
    exact ⟨Nat.le_add_right _ 2, hric⟩
  · intro k hk
    obtain ⟨hc, rfl⟩ := hclient hk
    exact ⟨Nat.le_add_right _ 3, hstays (mem_argsMemory.mpr (.inr (.inl ⟨hc, rfl⟩)))
      (hnric _ (by omega))⟩
  · intro k hk
    obtain ⟨hc, rfl⟩ := hdir hk
    exact ⟨Nat.le_add_right _ 4, hstays (hstays (mem_argsMemory.mpr (.inl ⟨hc, rfl⟩))
      (hnric _ (by omega))) (hnclient _ (by omega))⟩
  · exact hstays (hstays (hstays hserver (hnric _ (by omega))) (hnclient _ (by omega)))
      (hndir _ (by omega))

/-- The objects of a new agent, and the string of its entry, which the last allocation gave. -/
theorem started_of {c : InitCall} {ip : List Char} {cuDuId v : Option Nat} {args : Args}
    (h : Inv s) (hcu : ∀ k, cuDuId = some k → c.cuDuId = true ∧ k = s.mem.next + 1)
    (hmem : s'.mem = { ((({ argsMemory c s.mem with scope := v } : Memory).mallocs 8).malloc).free
      (.heap s.mem.next) with scope := none })
    (hself : s'.runs s.born = { e2InitAgent (argsMemory c s.mem).next ip args cuDuId
      s.numActiveAgents with thread := .created })
    (hothers : ∀ a, a ≠ s.born → s'.runs a = s.runs a)
    (hentry : s'.agents s.numActiveAgents =
      ⟨some s.born, some s.born, true, some ((argsMemory c s.mem).next + 8, ip)⟩)
    (hentries : ∀ i, i ≠ s.numActiveAgents → s'.agents i = s.agents i)
    (hborn : s'.born = s.born + 1) (hnum : s'.numActiveAgents = s.numActiveAgents + 1)
    (hcall : s'.call = s.call) (hsettled : s'.settled = s.settled) :
    Started s s' { e2InitAgent (argsMemory c s.mem).next ip args cuDuId s.numActiveAgents with
      thread := .created } ((argsMemory c s.mem).next + 8) := by
  have hbase : (argsMemory c s.mem).next = s.mem.next + 5 := next_argsMemory
  have hgrows : s.mem.Grows { argsMemory c s.mem with scope := v } :=
    (grows_argsMemory h.holds.grows).scope
  have hlive {k : Nat} : k ∈ s'.mem.live ↔ (k = s.mem.next + 13 ∨
      (s.mem.next + 5 ≤ k ∧ k < s.mem.next + 13) ∨ k ∈ (argsMemory c s.mem).live) ∧
        k ≠ s.mem.next := by
    rw [hmem]
    show k ∈ (((({ argsMemory c s.mem with scope := v } : Memory).mallocs 8).malloc).free
      (.heap s.mem.next)).live ↔ _
    rw [Memory.mem_free, Memory.mem_malloc, Memory.mem_mallocs, Memory.next_mallocs]
    show (k = (argsMemory c s.mem).next + 8 ∨ ((argsMemory c s.mem).next ≤ k ∧
      k < (argsMemory c s.mem).next + 8) ∨ k ∈ (argsMemory c s.mem).live) ∧ _ ↔ _
    rw [hbase]
  have hserver : s.mem.next ∈
      ((({ argsMemory c s.mem with scope := v } : Memory).mallocs 8).malloc).live := by
    rw [Memory.mem_malloc, Memory.mem_mallocs]
    exact .inr (.inr (mem_argsMemory.mpr (.inr (.inr (.inr (.inr (.inl rfl)))))))
  have hobj {f : Field} {k : Nat}
      (hk : (e2InitAgent (argsMemory c s.mem).next ip args cuDuId s.numActiveAgents).obj f = some k) :
      (f = .cuDuId ∧ c.cuDuId = true ∧ k = s.mem.next + 1) ∨
        (f ≠ .cuDuId ∧ k = s.mem.next + 5 + f.index ∧ f.index < 8) := by
    obtain ⟨hf, hk⟩ | hk := obj_e2InitAgent hk
    · exact .inl ⟨hf, hcu k hk⟩
    · rw [hbase] at hk
      exact .inr hk
  exact
    { self := hself
      others := hothers
      entry := hentry
      entries := hentries
      born := hborn
      num := hnum
      call := hcall
      settled := hsettled
      mem := by
        rw [hmem]
        exact (hgrows.mallocs.malloc.free (Nat.le_refl _) hserver).scope
      kept := fun f hc _ => by
        show (if f = .cuDuId then cuDuId else some ((argsMemory c s.mem).next + f.index)).isSome
        rw [if_neg hc]
        rfl
      inst := rfl
      thread := rfl
      freed := rfl
      joined := rfl
      obj := fun f k hk => by
        rw [hlive, hbase]
        obtain ⟨-, hc, rfl⟩ | ⟨-, rfl, hi⟩ := hobj hk
        · refine ⟨by omega, ⟨.inr (.inr ?_), by omega⟩, by omega⟩
          exact mem_argsMemory.mpr (.inr (.inr (.inr (.inl ⟨hc, rfl⟩))))
        · exact ⟨by omega, ⟨.inr (.inl (by omega)), by omega⟩, by omega⟩
      distinct := fun f g k hf hg => by
        obtain ⟨hf, -, hk⟩ | ⟨-, hk, -⟩ := hobj hf
        · obtain ⟨hg, -, -⟩ | ⟨-, hk', -⟩ := hobj hg
          · rw [hf, hg]
          · omega
        · obtain ⟨-, -, hk'⟩ | ⟨-, hk', -⟩ := hobj hg
          · omega
          · exact Field.index_inj (by omega)
      string := by
        rw [hlive, hbase]
        exact ⟨by omega, .inl (by omega), by omega⟩ }

/-- The call goes as far as `e2_init_agent`. -/
theorem initAgentApi_eq {maxRicIpLength : Nat} {c : InitCall} {ip : List Char}
    (hcall : s.call = .idle) (hnum : s.numActiveAgents < macNearRtRics) (hip : c.serverIp = some ip)
    (hnew : s.hasAgent ip = false) (hlen : ip.length < maxRicIpLength) :
    s.initAgentApi maxRicIpLength c =
      startAgent { s with mem := { argsMemory c s.mem with scope := some (s.mem.next + 2) } } c ip
        s.mem.next (if c.cuDuId then some (s.mem.next + 1) else none)
        (initArgs (s.mem.next + 2) c) := by
  have hnext : (s.mem.malloc.mallocIf c.cuDuId).next = s.mem.next + 2 := by simp
  unfold initAgentApi
  rw [Outcome.await_of (beq_iff_eq.mpr hcall), Outcome.next_bind, if_neg (Nat.not_le_of_lt hnum), hip]
  dsimp only
  rw [hnew, if_neg (by decide), hnext, Memory.next_malloc, if_pos hlen]
  rfl

/-- The cases of `init_agent_api`. -/
theorem Inv.initAgent {maxRicIpLength : Nat} {c : InitCall} (h : Inv s)
    (hfits : ¬(Creates maxRicIpLength s c ∧ c.threadFails = true))
    (hrun : s.initAgentApi maxRicIpLength c = .next s') : Inv s' := by
  have hself : s.mem.Grows s.mem := h.holds.grows
  obtain ⟨_, hcall, hrest⟩ := Outcome.bind_eq_next.mp hrun
  have hcall : s.call = .idle := beq_iff_eq.mp (Outcome.await_eq_next.mp hcall)
  by_cases hfull : macNearRtRics ≤ s.numActiveAgents
  · rw [if_pos hfull] at hrest
    exact Outcome.next_inj.mp hrest ▸ h
  rw [if_neg hfull] at hrest
  cases hip : c.serverIp with
  | none =>
    rw [hip] at hrest
    exact Outcome.next_inj.mp hrest ▸ h
  | some ip =>
    rw [hip] at hrest
    dsimp only at hrest
    cases hnew : s.hasAgent ip with
    | true =>
      rw [hnew, if_pos rfl] at hrest
      obtain rfl := Outcome.next_inj.mp hrest
      exact h.elsewhere ⟨rfl, rfl, rfl, rfl, fun _ _ => rfl,
        hself.malloc.free (Nat.le_refl _) (Memory.mem_malloc.mpr (.inl rfl))⟩ (.inl hcall)
    | false =>
      have hnext : (s.mem.malloc.mallocIf c.cuDuId).next = s.mem.next + 2 := by simp
      rw [hnew, if_neg (by decide), hnext, Memory.next_malloc] at hrest
      by_cases hlen : ip.length < maxRicIpLength
      · rw [initAgentApi_eq hcall (Nat.lt_of_not_le hfull) hip hnew hlen] at hrun
        have hgrows : s.mem.Grows { argsMemory c s.mem with scope := some (s.mem.next + 2) } :=
          (grows_argsMemory hself).scope
        have hserver : s.mem.next ∈ (argsMemory c s.mem).live :=
          mem_argsMemory.mpr (.inr (.inr (.inr (.inr (.inl rfl)))))
        obtain ⟨-, rfl⟩ | ⟨hagent, hthread, -⟩ | ⟨-, -, hmem, hself', hothers, hentry, hentries, hborn,
          hnum, hcall', hsettled⟩ := startAgent_cases hrun
        · exact h.elsewhere ⟨rfl, rfl, rfl, rfl, fun i hi => if_neg (Nat.ne_of_lt hi),
            (hgrows.free (Nat.le_refl _) hserver).scope (v := none)⟩ (.inl hcall)
        · exact absurd ⟨⟨Nat.lt_of_not_le hfull, hagent, ip, hip, hnew, hlen⟩, hthread⟩ hfits
        · refine h.started (started_of (c := c) h (fun k hk => ?_) hmem hself' hothers hentry hentries
            hborn hnum hcall' hsettled) hcall (Nat.lt_of_not_le hfull) fun i hi hactive =>
              hasAgent_eq_false hnew hi hactive
          obtain ⟨hc, heq⟩ := Option.ite_some_none_eq_some.mp hk
          exact ⟨hc, heq.symm⟩
      · rw [if_neg hlen] at hrest
        obtain rfl := Outcome.next_inj.mp hrest
        exact h.elsewhere ⟨rfl, rfl, rfl, rfl, fun _ _ => rfl, grows_freeArgs hself⟩ (.inl hcall)

/-- **Each step** that fits keeps the invariant. -/
theorem Inv.step {maxRicIpLength : Nat} {e : Event} (h : Inv s) (hfits : Fits maxRicIpLength s e)
    (hstep : step maxRicIpLength s e = .next s') : Inv s' := by
  have hself : s.mem.Grows s.mem := h.holds.grows
  cases e with
  | initAgent c => exact h.initAgent hfits hstep
  | stop =>
    obtain ⟨_, -, hstep⟩ := Outcome.bind_eq_next.mp hstep
    obtain rfl := Outcome.next_inj.mp hstep
    exact h.elsewhere ⟨rfl, rfl, rfl, rfl, fun _ _ => rfl, hself⟩ (.inr ⟨rfl, hfits⟩)
  | proceed =>
    obtain hcall | ⟨hcall, hnum⟩ := h.call
    · rw [AgentApi.step, hcall] at hstep
      cases hstep
    · rw [AgentApi.step, hcall] at hstep
      dsimp only [proceedStop] at hstep
      rw [if_neg (by omega)] at hstep
      obtain rfl := Outcome.next_inj.mp hstep
      -- an agent would have an entry
      have hborn : s.born = 0 := by
        by_contra hne
        have := (h.runs 0 (Nat.pos_of_ne_zero hne)).inst
        omega
      exact h.elsewhere ⟨rfl, rfl, hnum.symm, by rw [h.settled]; exact hborn, fun _ _ => rfl, hself⟩
        (.inl rfl)
  | start a res =>
    obtain ⟨_, ha, hstep⟩ := Outcome.bind_eq_next.mp hstep
    exact h.start (of_decide_eq_true (Outcome.await_eq_next.mp ha)) hstep
  | turn a t =>
    obtain ⟨_, ha, hstep⟩ := Outcome.bind_eq_next.mp hstep
    exact h.turn (of_decide_eq_true (Outcome.await_eq_next.mp ha)) hstep
  | stopLoop a =>
    obtain ⟨_, ha, hstep⟩ := Outcome.bind_eq_next.mp hstep
    exact h.stopLoop (of_decide_eq_true (Outcome.await_eq_next.mp ha)) hstep
  | threadReturn a =>
    obtain ⟨_, ha, hstep⟩ := Outcome.bind_eq_next.mp hstep
    exact h.threadReturn (of_decide_eq_true (Outcome.await_eq_next.mp ha)) hstep

/-- **Every run that fits keeps the invariant.** -/
theorem registry_inv {maxRicIpLength : Nat}
    (h : (registryMachine maxRicIpLength).ReachedBy (Fits maxRicIpLength) s) : Inv s :=
  h.invariant inv_init fun _ _ _ _ hinv hfits hstep => hinv.step hfits hstep

/-! ## The steps that do not fit -/

/-- A fault is never undone. -/
theorem not_safe_of_faults (h : s.mem.faults ≠ []) : ¬Safe s := fun hs => h hs.noFault

/-- From its call on, `stop_agent_api` goes wrong by itself: at the first active entry, or, where
there is none, because it forgets the agents. -/
theorem stop_not_safe {maxRicIpLength : Nat} (k : Nat) {i : Nat}
    (hk : s.numActiveAgents = i + k) (hcall : s.call = .stop i .entry)
    (hagent : ∀ j < s.numActiveAgents, ((s.agents j).agent).isSome) (hborn : 0 < s.born)
    (hfreed : (s.runs 0).freed = 0) :
    ∃ n s₁, (registryMachine maxRicIpLength).run s (List.replicate n .proceed) = some s₁ ∧
      ¬Safe s₁ := by
  have hstep : (registryMachine maxRicIpLength).step s .proceed = s.proceedStop i .entry := by
    show AgentApi.step maxRicIpLength s .proceed = _
    rw [AgentApi.step, hcall]
  induction k generalizing s i with
  | zero =>
    rw [AgentApi.proceedStop, if_neg (by omega)] at hstep
    refine ⟨1, _, Machine.run_cons [] hstep, fun hsafe => ?_⟩
    have hone : (s.runs 0).freed = 1 := (hsafe.once 0 hborn).1
    omega
  | succ k ih =>
    rw [AgentApi.proceedStop, if_pos (by omega)] at hstep
    cases hactive : (s.agents i).active with
    | true =>
      obtain ⟨a, ha⟩ := Option.isSome_iff_exists.mp (hagent i (by omega))
      rw [hactive, if_pos rfl, ha] at hstep
      exact ⟨1, _, Machine.run_cons [] hstep, not_safe_of_faults (faults_freeOwned s a _)⟩
    | false =>
      rw [hactive, if_neg (by decide)] at hstep
      obtain ⟨n, s₁, hrun, hunsafe⟩ := ih (s := { s with call := .stop (i + 1) .entry }) (i := i + 1)
        (by show s.numActiveAgents = _; omega) rfl hagent hborn hfreed rfl
      exact ⟨n + 1, s₁, (Machine.run_cons _ hstep).trans hrun, hunsafe⟩

/-- **A step that does not fit** goes wrong, at once or while its call goes on. -/
theorem Inv.not_safe {maxRicIpLength : Nat} {e : Event} (h : Inv s)
    (hfits : ¬Fits maxRicIpLength s e) (hstep : AgentApi.step maxRicIpLength s e = .next s') :
    ∃ n s₁, (registryMachine maxRicIpLength).run s' (List.replicate n .proceed) = some s₁ ∧
      ¬Safe s₁ := by
  cases e with
  | initAgent c =>
    obtain ⟨⟨hnum, hagent, ip, hip, hnew, hlen⟩, hthread⟩ := not_not.mp hfits
    obtain ⟨_, hcall, -⟩ := Outcome.bind_eq_next.mp hstep
    have hcall : s.call = .idle := beq_iff_eq.mp (Outcome.await_eq_next.mp hcall)
    have hrun : s.initAgentApi maxRicIpLength c = .next s' := hstep
    rw [initAgentApi_eq hcall hnum hip hnew hlen] at hrun
    obtain ⟨hfails, -⟩ | ⟨-, -, hfaults⟩ | ⟨-, hcreated, -, -⟩ := startAgent_cases hrun
    · rw [hagent] at hfails
      cases hfails
    · exact ⟨0, s', rfl, not_safe_of_faults hfaults⟩
    · rw [hthread] at hcreated
      cases hcreated
  | stop =>
    obtain ⟨_, -, hstep⟩ := Outcome.bind_eq_next.mp hstep
    obtain rfl := Outcome.next_inj.mp hstep
    have hnum : s.numActiveAgents ≠ 0 := hfits
    obtain ⟨a, ha, -⟩ := h.registered 0 (Nat.pos_of_ne_zero hnum)
    have hborn : 0 < s.born := Nat.zero_lt_of_lt ha
    refine stop_not_safe s.numActiveAgents (i := 0) (Nat.zero_add _).symm rfl (fun j hj => ?_) hborn
      (h.runs 0 hborn).freed
    obtain ⟨b, hb, rfl, -⟩ := h.registered j hj
    show ((s.agents (s.runs b).inst).agent).isSome
    rw [(h.runs b hb).agent]
    rfl
  | proceed => exact absurd trivial hfits
  | start a res => exact absurd trivial hfits
  | turn a t => exact absurd trivial hfits
  | stopLoop a => exact absurd trivial hfits
  | threadReturn a => exact absurd trivial hfits

/-- **The life of the agents.** While each thread can be created and no registered agent is stopped,
the registry is as it should be; the first step that is not of this kind makes it wrong. -/
theorem registry_safe (maxRicIpLength : Nat) (s : AgentApi)
    (h : (registryMachine maxRicIpLength).ReachedBy (Fits maxRicIpLength) s) :
    Safe s ∧ ∀ e s', ¬Fits maxRicIpLength s e → step maxRicIpLength s e = .next s' →
      ∃ n s₁, (registryMachine maxRicIpLength).run s' (List.replicate n .proceed) = some s₁ ∧
        ¬Safe s₁ :=
  ⟨(registry_inv h).safe, fun _ _ hfits hstep => (registry_inv h).not_safe hfits hstep⟩

/-- The loopback RIC and another one. -/
def initCallOf (ip : List Char) : InitCall where
  serverIp := some ip
  clientIp := true
  libsDir := true
  cuDuId := false
  connects := true
  agentFails := false
  threadFails := false

/-- Two agents, the second call for one address refused, and a thread that returns. -/
theorem registry_safe_two :
    ∃ s, (registryMachine 16).ReachedBy (Fits 16) s ∧ s.numActiveAgents = 2 ∧ Safe s := by
  obtain ⟨s, hs, hnum⟩ := Machine.ReachedBy.exists_of_run (M := registryMachine 16) (C := Fits 16)
    [.initAgent (initCallOf ['1']), .initAgent (initCallOf ['2']), .initAgent (initCallOf ['1']),
      .start 0 .ok, .turn 0 (.timer true true), .turn 0 .setupResponse, .start 1 .ok, .turn 1 .stray,
      .threadReturn 1]
    (fun s => s.numActiveAgents == 2) (by decide)
  exact ⟨s, hs, beq_iff_eq.mp hnum, (registry_safe 16 s hs).1⟩

/-- One agent is initialised and stopped. -/
theorem registry_stopped : ∃ s, (registryMachine 16).Reachable s ∧ ¬Safe s := by
  obtain ⟨s, hs, hfaults⟩ := Machine.Reachable.exists_of_run (M := registryMachine 16)
    [.initAgent (initCallOf ['1']), .start 0 .ok, .stop, .proceed]
    (fun s => decide (Fault.free (.stack 2) ∈ s.mem.faults)) (by decide)
  refine ⟨s, hs, fun hsafe => ?_⟩
  have hmem := of_decide_eq_true hfaults
  rw [hsafe.noFault] at hmem
  cases hmem

end AgentApi

end FlexRic
