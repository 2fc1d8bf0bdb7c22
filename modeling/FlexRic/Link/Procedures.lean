import FlexRic.Link.Interface

/-!
# FlexRic.Link.Procedures

The E2 procedures of the near-RT RIC against the messages on the connections.

* `Conserved`: at each node, the procedures that wait for an answer are the requests on their way
  down and the answers on their way up or with the workers of the RIC, each once.
* `Modest`: what is asked for, and so what is admitted, is the action 0.
* `procedures_in_flight`: in all runs in which no request is sent under the kind and id of an
  outstanding one, and no expired timer stops the RIC, both hold, and the RIC takes whatever comes
  up and handles what it has taken.
-/

namespace FlexRic

open scoped List

/-- Ids that a third one is equal to are equal. -/
theorem eqGlobalE2NodeId_of_common {a b node : GlobalE2NodeId}
    (ha : eqGlobalE2NodeId node a = true) (hb : eqGlobalE2NodeId node b = true) :
    eqGlobalE2NodeId a b = true := by
  simp only [eqGlobalE2NodeId, Bool.and_eq_true, beq_iff_eq, Bool.or_eq_true,
    Bool.not_eq_true'] at ha hb ⊢
  obtain ⟨⟨⟨hta, hpa⟩, hna⟩, hca⟩ := ha
  obtain ⟨⟨⟨htb, hpb⟩, hnb⟩, hcb⟩ := hb
  refine ⟨⟨⟨hta.symm.trans htb, hpa.symm.trans hpb⟩, hna.symm.trans hnb⟩, ?_⟩
  rw [← hta]
  obtain hca | hca := hca
  · exact .inl hca
  · exact hcb.imp id fun hcb => hca.symm.trans hcb

namespace AgentSys

variable {a a' : AgentSys} {ans : SubscriptionAns} {fd : Fd} {picks : Picks} {m : E2Request}
  {answer : E2Answer}

/-- The answer is of the kind and has the id of the request. -/
theorem handleRequest_key (h : a.handleRequest ans fd picks m = .next (answer, a')) :
    answer.key = some m.key := by
  cases m with
  | subscription sr =>
    simp only [handleRequest, Outcome.bind_eq_next, Outcome.pure_eq, Outcome.next_inj] at h
    obtain ⟨⟨resp, ⟨key, ev⟩, ag⟩, hh, a₁, -, heq⟩ := h
    cases heq
    obtain ⟨-, -, rfl⟩ := E2Agent.handleSubscriptionRequest_eq_next hh
    rfl
  | subscriptionDelete id =>
    simp only [handleRequest, E2Agent.handleSubscriptionDeleteRequest, Outcome.bind_eq_next,
      Outcome.pure_eq, Outcome.next_inj] at h
    obtain ⟨⟨id', ag⟩, ⟨⟨_, _⟩, -, hid⟩, a₁, -, heq⟩ := h
    cases hid
    cases heq
    rfl
  | control id =>
    simp only [handleRequest, Outcome.bind_eq_next, Outcome.pure_eq, Outcome.next_inj] at h
    obtain ⟨_, -, _, -, heq⟩ := h
    cases heq
    rfl

/-- What is admitted is an action that was asked for. -/
theorem handleRequest_admitted {resp : RicSubscriptionResponse}
    (h : a.handleRequest ans fd picks m = .next (.subscription resp, a')) :
    ∃ sr, m = .subscription sr ∧ ∃ act ∈ sr.action, act.id = resp.admitted := by
  cases m with
  | subscription sr =>
    simp only [handleRequest, Outcome.bind_eq_next, Outcome.pure_eq, Outcome.next_inj] at h
    obtain ⟨⟨resp', ⟨key, ev⟩, ag⟩, hh, a₁, -, heq⟩ := h
    cases heq
    obtain ⟨-, -, rfl⟩ := E2Agent.handleSubscriptionRequest_eq_next hh
    exact ⟨sr, rfl, handleSubscriptionRequest_action hh⟩
  | subscriptionDelete id =>
    simp only [handleRequest, Outcome.bind_eq_next, Outcome.pure_eq, Outcome.next_inj] at h
    obtain ⟨⟨id', ag⟩, -, a₁, -, heq⟩ := h
    cases heq
  | control id =>
    simp only [handleRequest, Outcome.bind_eq_next, Outcome.pure_eq, Outcome.next_inj] at h
    obtain ⟨_, -, _, -, heq⟩ := h
    cases heq

end AgentSys

/-- A step that opens nothing needs no key. -/
theorem RicSys.freshKey_of_none {s : RicSys} {e : RicSys.RicEvent} (h : s.newKey e = none) :
    s.FreshKey e := by
  intro p _ hkey
  rw [h] at hkey
  cases hkey

namespace E2Sys

variable {s s' : E2Sys} {e : LinkEvent} {links : List E2Link} {i j : Nat} {l l' : E2Link}

/-- The procedures that wait for an answer of the node. -/
def procsAt (s : E2Sys) (l : E2Link) : List Proc := s.ric.procs.filter fun p => l.serves p.req.node

/-- The kinds and ids of the messages between RIC and node, but for the indications. -/
def inFlight (l : E2Link) : List PendingEventRic :=
  l.down.map E2Request.key ++ (l.up ++ l.tasks).filterMap E2Answer.key

/-! ## Connections of different nodes -/

/-- The connections are of different nodes. -/
def Apart (links : List E2Link) : Prop :=
  (links.map E2Link.node).Pairwise fun a b => eqGlobalE2NodeId a b = false

/-- A node has one connection. -/
theorem Apart.index_eq (h : Apart links) {node : GlobalE2NodeId} (hi : links[i]? = some l)
    (hj : links[j]? = some l') (hl : l.serves node = true) (hl' : l'.serves node = true) :
    i = j := by
  obtain ⟨hilt, rfl⟩ := List.getElem?_eq_some_iff.mp hi
  obtain ⟨hjlt, rfl⟩ := List.getElem?_eq_some_iff.mp hj
  have hpair := List.pairwise_iff_getElem.mp (List.pairwise_map.mp h)
  by_contra hne
  obtain hlt | hgt := Nat.lt_or_gt_of_ne hne
  · have hfalse := hpair i j hilt hjlt hlt
    rw [eqGlobalE2NodeId_of_common hl hl'] at hfalse
    cases hfalse
  · have hfalse := hpair j i hjlt hilt hgt
    rw [eqGlobalE2NodeId_of_common hl' hl] at hfalse
    cases hfalse

/-- A property of all connections, when one of them has changed. -/
theorem forall_mem_set {F : E2Link → Prop}
    (h : ∀ j l, j ≠ i → links[j]? = some l → F l) (h' : F l') : ∀ l ∈ links.set i l', F l := by
  intro l hl
  obtain ⟨j, hj⟩ := List.mem_iff_getElem?.mp hl
  rw [List.getElem?_set] at hj
  split at hj
  · split at hj
    · cases hj
      exact h'
    · cases hj
  · rename_i hne
    exact h j l (fun heq => hne heq.symm) hj

theorem map_node_set {n : E2Link} (h : links[i]? = some l) (hnode : n.node = l.node) :
    (links.set i n).map E2Link.node = links.map E2Link.node := by
  obtain ⟨hlt, rfl⟩ := List.getElem?_eq_some_iff.mp h
  rw [List.map_set, hnode, ← List.getElem_map (f := E2Link.node) (h := by simpa using hlt)]
  exact List.set_getElem_self _

theorem Apart.set (h : Apart links) (hi : links[i]? = some l) (hnode : l'.node = l.node) :
    Apart (links.set i l') := by
  rw [Apart, map_node_set hi hnode]
  exact h

/-! ## The invariant -/

/-- At each node, the procedures that wait are the messages on the connection. -/
structure Conserved (s : E2Sys) : Prop where
  timers : s.ric.OneTimer
  apart : Apart s.links
  served : ∀ p ∈ s.ric.procs, ∃ node ∈ s.links.map E2Link.node,
    eqGlobalE2NodeId p.req.node node = true
  flight : ∀ l ∈ s.links, ((s.procsAt l).map Proc.key).Perm (inFlight l)

/-- The RIC sends no request under the kind and id of an outstanding one, finds the timers that
have expired, and is not stopped by them. -/
def RicOrderly (s : E2Sys) : LinkEvent → Prop
  | .ric e _ => s.ric.PendingCond e
  | _ => True

instance (s : E2Sys) (e : LinkEvent) : Decidable (s.RicOrderly e) := by
  unfold RicOrderly
  split <;> infer_instance

/-- A procedure is known by its kind and id. -/
theorem Conserved.proc_eq (h : Conserved s) {p q : Proc} (hp : p ∈ s.ric.procs)
    (hq : q ∈ s.ric.procs) (hkey : p.key = q.key) : p = q :=
  List.inj_on_of_nodup_map h.timers.keys_nodup hp hq hkey

/-- The messages on a connection are of its own procedures. -/
theorem Conserved.exists_proc (h : Conserved s) (hl : l ∈ s.links) {k : PendingEventRic}
    (hkey : k ∈ inFlight l) :
    ∃ p ∈ s.ric.procs, p.key = k ∧ l.serves p.req.node = true := by
  obtain ⟨p, hp, hpk⟩ := List.mem_map.mp ((h.flight l hl).mem_iff.mpr hkey)
  obtain ⟨hmem, hserves⟩ := List.mem_filter.mp hp
  exact ⟨p, hmem, hpk, hserves⟩

theorem Conserved.init : Conserved E2Sys.init where
  timers := RicSys.OneTimer.init
  apart := .nil
  served := fun _ hp => absurd hp List.not_mem_nil
  flight := fun _ hl => absurd hl List.not_mem_nil

/-- A connection changes, and the procedures stay. -/
theorem Conserved.changed (h : Conserved s) (hlink : s.links[i]? = some l) {agent : AgentSys}
    {down : List E2Request} {up tasks : List E2Answer}
    (hflight : (inFlight l).Perm (inFlight { l with agent, down, up, tasks }))
    {arrived : List (GlobalE2NodeId × RicIndication)} :
    Conserved { s with links := s.links.set i { l with agent, down, up, tasks }, arrived } where
  timers := h.timers
  apart := h.apart.set hlink rfl
  served := by
    simp only [map_node_set (n := { l with agent, down, up, tasks }) hlink rfl]
    exact h.served
  flight := by
    refine forall_mem_set (fun j l₂ _ hl₂ => h.flight l₂ (List.mem_of_getElem? hl₂)) ?_
    exact (h.flight l (List.mem_of_getElem? hlink)).trans hflight

/-- A new connection has nothing in flight. -/
theorem Conserved.connected (h : Conserved s) {node : GlobalE2NodeId} {agent : AgentSys}
    {ric : RicSys} (hnew : ∀ l ∈ s.links, l.serves node = false) (htimers : ric.OneTimer)
    (hprocs : ric.procs = s.ric.procs) :
    Conserved { s with ric, links := s.links ++ [⟨node, agent, [], [], []⟩] } where
  timers := htimers
  apart := by
    simp only [Apart, List.map_append, List.map_cons, List.map_nil]
    refine List.pairwise_append.mpr ⟨h.apart, List.pairwise_singleton _ _, fun a ha b hb => ?_⟩
    obtain ⟨l, hl, rfl⟩ := List.mem_map.mp ha
    cases List.mem_singleton.mp hb
    have hfalse := hnew l hl
    rw [← Bool.not_eq_true] at hfalse ⊢
    exact fun heq => hfalse (eqGlobalE2NodeId_of_common heq (eqGlobalE2NodeId_refl _))
  served := by
    simp only [hprocs, List.map_append, List.mem_append]
    intro p hp
    obtain ⟨n, hn, heq⟩ := h.served p hp
    exact ⟨n, .inl hn, heq⟩
  flight := by
    intro l hl
    simp only [procsAt, hprocs]
    obtain hl | hl := List.mem_append.mp hl
    · exact h.flight l hl
    · cases List.mem_singleton.mp hl
      have hnone : (s.ric.procs.filter fun p => eqGlobalE2NodeId p.req.node node) = [] := by
        refine List.filter_eq_nil_iff.mpr fun p hp heq => ?_
        obtain ⟨n, hn, heq'⟩ := h.served p hp
        obtain ⟨l, hl, rfl⟩ := List.mem_map.mp hn
        have hfalse := hnew l hl
        rw [E2Link.serves, eqGlobalE2NodeId_of_common heq heq'] at hfalse
        cases hfalse
      simp only [E2Link.serves, hnone]
      exact .nil

/-- **A request that is sent is in flight.** -/
theorem Conserved.opened (h : Conserved s) {f : RicSys.RicEvent} {action : List RicAction}
    {p : Proc} {m : E2Request} {ric : RicSys} (hfresh : s.ric.FreshKey f)
    (hacted : s.ric.step f = .next ric) (hprocs : ric.procs = s.ric.procs ++ [p])
    (hm : E2Request.ofProc p action = some m) (hlink : s.links[i]? = some l)
    (hserves : l.serves p.req.node = true) :
    Conserved { s with ric, links := s.links.set i { l with down := l.down ++ [m] } } where
  timers := h.timers.step hfresh hacted
  apart := h.apart.set hlink rfl
  served := by
    simp only [map_node_set (n := { l with down := l.down ++ [m] }) hlink rfl, hprocs]
    intro q hq
    obtain hq | hq := List.mem_append.mp hq
    · exact h.served q hq
    · cases List.mem_singleton.mp hq
      exact ⟨l.node, List.mem_map.mpr ⟨l, List.mem_of_getElem? hlink, rfl⟩, hserves⟩
  flight := by
    refine forall_mem_set (fun j l₂ hne hl₂ => ?_) ?_
    · have hnot : l₂.serves p.req.node = false := by
        rw [← Bool.not_eq_true]
        exact fun hs => hne (h.apart.index_eq hl₂ hlink hs hserves)
      have hfilter : (ric.procs.filter fun q => l₂.serves q.req.node) = s.procsAt l₂ := by
        rw [hprocs, List.filter_append, List.filter_singleton, hnot]
        exact List.append_nil _
      simp only [procsAt, hfilter]
      exact h.flight l₂ (List.mem_of_getElem? hl₂)
    · have hold := h.flight l (List.mem_of_getElem? hlink)
      have hfilter : (ric.procs.filter fun q => l.serves q.req.node) = s.procsAt l ++ [p] := by
        rw [hprocs, List.filter_append, List.filter_singleton, hserves]
        rfl
      have hnew : inFlight { l with down := l.down ++ [m] } =
          l.down.map E2Request.key ++ p.key :: (l.up ++ l.tasks).filterMap E2Answer.key := by
        simp [inFlight, E2Request.key_ofProc hm]
      have hprocsAt : (ric.procs.filter fun q =>
          E2Link.serves { l with down := l.down ++ [m] } q.req.node) = s.procsAt l ++ [p] := hfilter
      simp only [procsAt]
      rw [hprocsAt, List.map_append, hnew]
      calc (s.procsAt l).map Proc.key ++ [p.key]
        _ ~ p.key :: (s.procsAt l).map Proc.key := List.perm_append_singleton _ _
        _ ~ p.key :: (l.down.map E2Request.key ++ (l.up ++ l.tasks).filterMap E2Answer.key) :=
          hold.cons _
        _ ~ l.down.map E2Request.key ++ p.key :: (l.up ++ l.tasks).filterMap E2Answer.key :=
          List.perm_middle.symm

/-- What is left once one of the messages has been taken. -/
theorem perm_tasks {m : E2Answer} (h : l.tasks[j]? = some m) :
    l.tasks.Perm (m :: l.tasks.eraseIdx j) := by
  obtain ⟨hlt, rfl⟩ := List.getElem?_eq_some_iff.mp h
  exact (List.getElem_cons_eraseIdx_perm hlt).symm

/-- A message that a worker takes up has been in flight. -/
theorem inFlight_perm {m : E2Answer} (h : l.tasks[j]? = some m) :
    (inFlight l).Perm
      (m.key.toList ++ inFlight { l with tasks := l.tasks.eraseIdx j }) := by
  have hall : (l.up ++ l.tasks).Perm (m :: (l.up ++ l.tasks.eraseIdx j)) :=
    ((perm_tasks h).append_left l.up).trans List.perm_middle
  have hkeys := hall.filterMap E2Answer.key
  simp only [inFlight]
  cases hkey : m.key with
  | none =>
    rw [List.filterMap_cons_none hkey] at hkeys
    exact hkeys.append_left _
  | some k =>
    rw [List.filterMap_cons_some hkey] at hkeys
    exact (hkeys.append_left _).trans List.perm_middle

/-- The message of a worker is that of a procedure of the node. -/
theorem Conserved.exists_task (h : Conserved s) (hlink : s.links[i]? = some l) {m : E2Answer}
    (htask : l.tasks[j]? = some m) {k : PendingEventRic} (hkey : m.key = some k) :
    ∃ p ∈ s.ric.procs, p.key = k ∧ l.serves p.req.node = true := by
  refine h.exists_proc (List.mem_of_getElem? hlink) ((inFlight_perm htask).mem_iff.mpr ?_)
  rw [hkey]
  exact List.mem_cons_self

/-- An answer ends the procedure that it answers. -/
theorem Conserved.answered (h : Conserved s) {m : E2Answer} {k : Nat}
    {p : Proc} {ric : NearRic} {resp : NearRic.Admission} {picks : Picks}
    (hlink : s.links[i]? = some l) (htask : l.tasks[j]? = some m) (hkey : m.key = some p.key)
    (hp : s.ric.procs[k]? = some p)
    (hstep : s.ric.step (.answer k resp picks) = .next (s.ric.answered ric k p)) :
    Conserved { s with
      ric := s.ric.answered ric k p
      links := s.links.set i { l with tasks := l.tasks.eraseIdx j } } := by
  obtain ⟨hlt, hget⟩ := List.getElem?_eq_some_iff.mp hp
  have hmem : p ∈ s.ric.procs := List.mem_of_getElem? hp
  have hl : l ∈ s.links := List.mem_of_getElem? hlink
  have hprocs : s.ric.procs.Perm (p :: s.ric.procs.eraseIdx k) := by
    have hperm := (List.getElem_cons_eraseIdx_perm hlt).symm
    rwa [hget] at hperm
  -- the answer came from the node of its procedure
  have hserves : l.serves p.req.node = true := by
    obtain ⟨q, hq, hqk, hqs⟩ := h.exists_task hlink htask hkey
    exact h.proc_eq hq hmem hqk ▸ hqs
  exact
    { timers := h.timers.step (RicSys.freshKey_of_none rfl) hstep
      apart := h.apart.set hlink rfl
      served := by
        simp only [map_node_set (n := { l with tasks := l.tasks.eraseIdx j }) hlink rfl]
        exact fun q hq => h.served q (hprocs.mem_iff.mpr (List.mem_cons_of_mem _ hq))
      flight := by
        have hfilter (l₂ : E2Link) := (hprocs.filter fun q => l₂.serves q.req.node).map Proc.key
        refine forall_mem_set (fun j l₂ hne hl₂ => ?_) ?_
        · have hnot : l₂.serves p.req.node = false := by
            rw [← Bool.not_eq_true]
            exact fun hs => hne (h.apart.index_eq hl₂ hlink hs hserves)
          have hperm := hfilter l₂
          rw [List.filter_cons_of_neg (by simp [hnot])] at hperm
          exact hperm.symm.trans (h.flight l₂ (List.mem_of_getElem? hl₂))
        · have hperm := hfilter l
          rw [List.filter_cons_of_pos (by simpa using hserves), List.map_cons] at hperm
          have hall := (hperm.symm.trans (h.flight l hl)).trans (inFlight_perm htask)
          rw [hkey] at hall
          exact hall.cons_inv }

/-- Every step under the condition conserves the procedures. -/
theorem Conserved.step (h : Conserved s) (hc : s.RicOrderly e) (hs : s.step e = .next s') :
    Conserved s' := by
  cases step_cases hs with
  | connected node cfg ric event new set =>
    refine h.connected new (h.timers.step (RicSys.freshKey_of_none rfl) set) ?_
    simp only [RicSys.step, Outcome.pure_eq, Outcome.next_inj] at set
    rw [← set]
  | opened f action p m i l ric event own acted proc request link serves =>
    subst event
    obtain ⟨req, ev, fd, ric₀, -, -, heq⟩ | ⟨-, hprocs, -⟩ := RicSys.own_cases own acted
    · have hprocs : ric.procs = s.ric.procs ++ [⟨req, ev, fd⟩] := by rw [heq]; rfl
      have hp : p = ⟨req, ev, fd⟩ := by
        rw [hprocs, List.getElem?_concat_length, Option.some_inj] at proc
        exact proc.symm
      exact h.opened hc.1 acted (hp ▸ hprocs) request link serves
    · rw [hprocs, List.getElem?_eq_none (Nat.le_refl _)] at proc
      cases proc
  | silent f action ric event own acted noProc =>
    subst event
    obtain ⟨req, ev, fd, ric₀, -, -, heq⟩ | ⟨-, hprocs, -⟩ := RicSys.own_cases own acted
    · have hsome : ric.procs[s.ric.procs.length]? = some ⟨req, ev, fd⟩ := by
        rw [heq]
        exact List.getElem?_concat_length
      rw [hsome] at noProc
      cases noProc
    · exact
        { timers := h.timers.step hc.1 acted
          apart := h.apart
          served := by
            rw [hprocs]
            exact h.served
          flight := fun l hl => by
            simp only [procsAt, hprocs]
            exact h.flight l hl }
  | delivered i l m down answer agent ans fd picks event link first handled =>
    refine h.changed link ?_
    have hkey := AgentSys.handleRequest_key handled
    have hnew : inFlight { l with agent, down, up := l.up ++ [answer] } =
        (down.map E2Request.key ++ l.up.filterMap E2Answer.key) ++
          m.key :: l.tasks.filterMap E2Answer.key := by
      simp [inFlight, hkey]
    rw [hnew, inFlight, first, List.map_cons, List.filterMap_append, List.cons_append,
      ← List.append_assoc]
    exact List.perm_middle.symm
  | moved i l f agent event own link acted =>
    refine h.changed link ?_
    simp [inFlight, E2Answer.key, List.filterMap_map, Function.comp_def]
  | received i l m up link first =>
    refine h.changed link ?_
    have hall : (m :: up ++ l.tasks).Perm (up ++ (l.tasks ++ [m])) := by
      rw [← List.append_assoc]
      exact (List.perm_append_singleton m (up ++ l.tasks)).symm
    rw [inFlight, first]
    exact (hall.filterMap _).append_left _
  | indicated i j l ind link task =>
    exact h.changed link (inFlight_perm task)
  | answered i j l m key picks ric link task kind received =>
    obtain ⟨k, p, ric₀, hp, rfl, hstep, rfl⟩ :=
      RicSys.receive_eq_next h.timers.toTimersMatch received
    exact h.answered link task kind hp hstep

/-- The event loop of the RIC does not stop. -/
theorem polling_step (h : s.ric.loop.reading = false) (ht : s.ric.TimersMatch)
    (hc : s.RicOrderly e) (hs : s.step e = .next s') : s'.ric.loop.reading = false := by
  cases step_cases hs with
  | connected node cfg ric event new set => exact RicSys.polling_step h (fun _ heq => by cases heq) set
  | opened f action p m i l ric event own acted proc request link serves =>
    subst event
    exact RicSys.polling_step h (fun _ _ => hc.2) acted
  | silent f action ric event own acted noProc =>
    subst event
    exact RicSys.polling_step h (fun _ _ => hc.2) acted
  | delivered i l m down answer agent ans fd picks event link first handled => exact h
  | moved i l f agent event own link acted => exact h
  | received i l m up link first => exact h
  | indicated i j l ind link task => exact h
  | answered i j l m key picks ric link task kind received =>
    obtain ⟨k, p, ric₀, hp, rfl, hstep, rfl⟩ := RicSys.receive_eq_next ht received
    exact RicSys.polling_step h (fun _ heq => by cases heq) hstep

/-! ## What the RIC takes -/

/-- What is asked for, and what is admitted, is the action 0. -/
structure Modest (l : E2Link) : Prop where
  down : ∀ sr, .subscription sr ∈ l.down → ∀ act ∈ sr.action, act.id = 0
  up : ∀ resp, .subscription resp ∈ l.up ++ l.tasks → resp.admitted = 0

/-- What the callers of the RIC ask for is the action 0. -/
def ModestRequest : LinkEvent → Prop
  | .ric _ action => ∀ act ∈ action, act.id = 0
  | _ => True

instance (e : LinkEvent) : Decidable (ModestRequest e) := by
  unfold ModestRequest
  split <;> infer_instance

theorem Modest.step (h : ∀ l ∈ s.links, Modest l) (hc : ModestRequest e)
    (hs : s.step e = .next s') : ∀ l ∈ s'.links, Modest l := by
  have hset {i : Nat} {l' : E2Link} (h' : Modest l') : ∀ l ∈ s.links.set i l', Modest l :=
    forall_mem_set (fun j l _ hl => h l (List.mem_of_getElem? hl)) h'
  cases step_cases hs with
  | connected node cfg ric event new set =>
    intro l hl
    obtain hl | hl := List.mem_append.mp hl
    · exact h l hl
    · cases List.mem_singleton.mp hl
      exact ⟨nofun, nofun⟩
  | opened f action p m i l ric event own acted proc request link serves =>
    subst event
    have hold := h l (List.mem_of_getElem? link)
    refine hset ⟨fun sr hsr => ?_, hold.up⟩
    obtain hsr | hsr := List.mem_append.mp hsr
    · exact hold.down sr hsr
    · cases List.mem_singleton.mp hsr
      unfold E2Request.ofProc at request
      split at request <;> cases request
      exact hc
  | silent f action ric event own acted noProc => exact h
  | delivered i l m down answer agent ans fd picks event link first handled =>
    have hold := h l (List.mem_of_getElem? link)
    have hdown : ∀ sr, .subscription sr ∈ m :: down → ∀ act ∈ sr.action, act.id = 0 :=
      first ▸ hold.down
    refine hset ⟨fun sr hsr => hdown sr (List.mem_cons_of_mem _ hsr), fun resp hresp => ?_⟩
    obtain hresp | hresp := List.mem_append.mp hresp
    · obtain hresp | hresp := List.mem_append.mp hresp
      · exact hold.up resp (List.mem_append_left _ hresp)
      · cases List.mem_singleton.mp hresp
        obtain ⟨sr, rfl, act, hact, hid⟩ := AgentSys.handleRequest_admitted handled
        exact hid.symm.trans (hdown sr List.mem_cons_self act hact)
    · exact hold.up resp (List.mem_append_right _ hresp)
  | moved i l f agent event own link acted =>
    have hold := h l (List.mem_of_getElem? link)
    refine hset ⟨hold.down, fun resp hresp => ?_⟩
    obtain hresp | hresp := List.mem_append.mp hresp
    · obtain hresp | hresp := List.mem_append.mp hresp
      · exact hold.up resp (List.mem_append_left _ hresp)
      · obtain ⟨ind, -, hind⟩ := List.mem_map.mp hresp
        cases hind
    · exact hold.up resp (List.mem_append_right _ hresp)
  | received i l m up link first =>
    have hold := h l (List.mem_of_getElem? link)
    refine hset ⟨hold.down, fun resp hresp => hold.up resp ?_⟩
    rw [first]
    simp only [List.mem_append, List.mem_cons, List.not_mem_nil, or_false] at hresp ⊢
    tauto
  | indicated i j l ind link task =>
    have hold := h l (List.mem_of_getElem? link)
    exact hset ⟨hold.down, fun resp hresp => hold.up resp
      (((List.eraseIdx_sublist l.tasks j).append_left l.up).subset hresp)⟩
  | answered i j l m key picks ric link task kind received =>
    have hold := h l (List.mem_of_getElem? link)
    exact hset ⟨hold.down, fun resp hresp => hold.up resp
      (((List.eraseIdx_sublist l.tasks j).append_left l.up).subset hresp)⟩

/-- The first message of a node is taken. -/
theorem receive_succeeds (hloop : s.ric.loop.reading = false) (hlink : s.links[i]? = some l)
    (hup : l.up ≠ []) : ∃ s', s.step (.receive i) = .next s' := by
  obtain ⟨m, up, hup⟩ := List.exists_cons_of_ne_nil hup
  simp only [E2Sys.step, hloop, hlink, hup, Outcome.await, Outcome.awaitSome, Outcome.next_bind,
    Bool.not_false, if_true]
  exact ⟨_, rfl⟩

/-- What has been taken is handled. -/
theorem Conserved.handle (h : Conserved s) (hmodest : ∀ l ∈ s.links, Modest l) {picks : Picks}
    (hlink : s.links[i]? = some l) {m : E2Answer} (htask : l.tasks[j]? = some m) :
    ∃ s', s.step (.handle i j picks) = .next s' := by
  have hl : l ∈ s.links := List.mem_of_getElem? hlink
  simp only [E2Sys.step, hlink, htask, Outcome.awaitSome, Outcome.next_bind]
  cases hkey : m.key with
  | none =>
    cases m with
    | indication ind => exact ⟨_, rfl⟩
    | _ => cases hkey
  | some key =>
    obtain ⟨p, hp, rfl, -⟩ := h.exists_task hlink htask hkey
    -- the first procedure with the key
    have hfound : (s.ric.procs.findIdx? fun q => q.key == p.key).isSome := by
      rw [List.findIdx?_isSome, List.any_eq_true]
      exact ⟨p, hp, beq_self_eq_true _⟩
    obtain ⟨k, hk⟩ := Option.isSome_iff_exists.mp hfound
    obtain ⟨hlt, hqk, -⟩ := List.findIdx?_eq_some_iff_getElem.mp hk
    have hq : s.ric.procs[k]? = some p := by
      rw [List.getElem?_eq_getElem hlt, Option.some_inj]
      exact h.proc_eq (List.getElem_mem hlt) hp (beq_iff_eq.mp hqk)
    have hadmits : RicSys.AdmitsOne p m.admission := by
      intro hev
      cases m with
      | subscription resp =>
        have hzero := (hmodest l hl).up resp
          (List.mem_append_right _ (List.mem_of_getElem? htask))
        exact ⟨rfl, by rw [E2Answer.admission, hzero]⟩
      | subscriptionDelete id =>
        simp [E2Answer.key, Proc.key, hev] at hkey
      | control id => simp [E2Answer.key, Proc.key, hev] at hkey
      | indication ind => cases hkey
    obtain ⟨ric, hric, -⟩ : ∃ ric, s.ric.step (.answer k m.admission picks) = .next ric ∧ _ :=
      h.timers.answer hq hadmits
    have hreceive : s.ric.receive p.key m.admission picks = .next ric := by
      rw [RicSys.receive, hk]
      exact hric
    cases m with
    | indication ind => cases hkey
    | _ =>
      simp only [E2Sys.work, hkey, Outcome.awaitSome, Outcome.next_bind, hreceive]
      exact ⟨_, rfl⟩

/-- **and every run.** -/
theorem conserved (h : linkMachine.ReachedBy RicOrderly s) : Conserved s :=
  h.invariant Conserved.init fun _ _ _ _ hp hc hs => hp.step hc hs

/-- The RIC's loop never blocks in a read. -/
theorem polling (h : linkMachine.ReachedBy RicOrderly s) : s.ric.loop.reading = false :=
  h.invariant (P := fun s => s.ric.loop.reading = false) rfl fun _ _ _ hr hp hc hs =>
    polling_step hp (conserved hr).timers.toTimersMatch hc hs

/-- Requests are not sent under the kind and id of an outstanding one, and ask for the action 0; and
expired timers do not stop the RIC. -/
def RequestCond (s : E2Sys) (e : LinkEvent) : Prop := s.RicOrderly e ∧ ModestRequest e

instance (s : E2Sys) (e : LinkEvent) : Decidable (s.RequestCond e) :=
  inferInstanceAs (Decidable (_ ∧ _))

/-- In every run under the condition the action 0 is all that is asked for and admitted. -/
theorem modest (h : linkMachine.ReachedBy RequestCond s) : ∀ l ∈ s.links, Modest l :=
  h.invariant (fun _ hl => absurd hl List.not_mem_nil)
    fun _ _ _ _ hp hc hs => Modest.step hp hc.2 hs

/-- **Each procedure is one message**: in every run of the RIC and its nodes whose requests are new
and ask for the action 0 and in which no expired timer stops the RIC, the procedures that wait for
the answer of a node are the requests on their way to it and the answers on their way back or with
the workers of the RIC, each once, whatever the order of the steps, so that none is lost, doubled or
given to another; and the RIC takes each message that comes up and handles each that it has taken,
in any order. -/
theorem procedures_in_flight (h : linkMachine.ReachedBy RequestCond s) :
    (∀ l ∈ s.links, ((s.procsAt l).map Proc.key).Perm (inFlight l)) ∧
    (s.ric.procs.map Proc.key).Nodup ∧
    (∀ i l, s.links[i]? = some l → l.up ≠ [] →
      ∃ s', linkMachine.step s (.receive i) = .next s') ∧
    (∀ i l j m picks, s.links[i]? = some l → l.tasks[j]? = some m →
      ∃ s', linkMachine.step s (.handle i j picks) = .next s') := by
  have horderly := h.mono fun _ _ hc => hc.1
  have hconserved := conserved horderly
  have hmodest := modest h
  exact ⟨hconserved.flight, hconserved.timers.keys_nodup,
    fun i l hlink hup => receive_succeeds (polling horderly) hlink hup,
    fun i l j m picks hlink htask => hconserved.handle hmodest hlink htask⟩

/-- An answer on its way up, one with a worker, and a request on its way down, of two nodes. -/
theorem procedures_in_flight_two : ∃ s : E2Sys,
    s.links.map (fun l => (l.down.length, l.up.length, l.tasks.length)) = [(0, 1, 1), (1, 0, 0)] ∧
    (s.ric.procs.map Proc.key).Nodup ∧
    (∃ s', linkMachine.step s (.receive 0) = .next s') ∧
    ∃ s', linkMachine.step s (.handle 0 0 (0, 0)) = .next s' := by
  have hrun := Machine.ReachedBy.exists_of_run (M := linkMachine) (C := RequestCond)
    [.connect ⟨.gnb 1, [], []⟩ .local, .connect ⟨.gnb 2, [], []⟩ .local,
      .ric (.reportService (.gnb 1) 142 (some 5)) [⟨0, .report⟩],
      .ric (.controlService (.gnb 2) 3 (some 6)) [],
      .deliver 0 (.periodic 10) 9 (0, 0), .receive 0,
      .ric (.reportService (.gnb 1) 142 (some 7)) [⟨0, .report⟩],
      .deliver 0 (.periodic 10) 10 (0, 0)]
    (fun s => s.links.map (fun l => (l.down.length, l.up.length, l.tasks.length)) ==
      [(0, 1, 1), (1, 0, 0)])
    (by decide)
  obtain ⟨s, hs, hend⟩ := hrun
  have hflight := beq_iff_eq.mp hend
  obtain ⟨-, hnodup, htakes, hhandles⟩ := procedures_in_flight hs
  match hlinks : s.links with
  | [] => simp [hlinks] at hflight
  | l :: ls =>
    have hlink : s.links[0]? = some l := by rw [hlinks]; rfl
    simp only [hlinks, List.map_cons, List.cons.injEq, Prod.mk.injEq] at hflight
    obtain ⟨⟨-, hup, htasks⟩, -⟩ := hflight
    obtain ⟨m, hm⟩ := List.length_eq_one_iff.mp htasks
    refine ⟨s, beq_iff_eq.mp hend, hnodup, htakes 0 l hlink ?_,
      hhandles 0 l 0 m (0, 0) hlink (by rw [hm]; rfl)⟩
    rw [← List.length_pos_iff, hup]
    exact Nat.one_pos

end E2Sys

end FlexRic
