import FlexRic.Link.Views

/-!
# FlexRic.Link.Agreement

The near-RT RIC and its E2 nodes agree about the subscriptions, but for the messages between them.

* `ViewCond`: a new subscription has an id of its own, a deletion is of a subscription that has been
  answered, and a node handles it when no aperiodic event of the subscription waits there and none
  is searched for.
* `LinkViews`: what the RIC knows becomes what the node holds by the messages that its workers have,
  in any order, and then by those on their way up; and what the node holds becomes what the RIC
  wants by those on their way down.
* `views_agree`: so it is in all such runs; on a silent connection the three are the same.
-/

namespace FlexRic

open Set

namespace E2Sys

variable {s s' : E2Sys} {e : LinkEvent} {i : Nat} {l : E2Link}

/-- No aperiodic event waits for a subscription whose deletion is the first request, and none is
searched for. -/
def NothingWaits (l : E2Link) : Prop :=
  match l.down with
  | .subscriptionDelete id :: _ =>
    (∀ ev ∈ l.agent.awaiting, ev.ricId ≠ id) ∧ l.agent.searching = false
  | _ => True

instance (l : E2Link) : Decidable (NothingWaits l) := by
  unfold NothingWaits
  split <;> infer_instance

/-- The steps on which both sides stay in agreement. -/
def ViewCond (s : E2Sys) (e : LinkEvent) : Prop :=
  s.RicOrderly e ∧
    match e with
    | .ric f _ => s.ric.Sensible f
    | .deliver i .. => ∀ l ∈ s.links[i]?, NothingWaits l
    | _ => True

instance (s : E2Sys) : (e : LinkEvent) → Decidable (s.ViewCond e)
  | .ric f _ => inferInstanceAs (Decidable (_ ∧ s.ric.Sensible f))
  | .deliver i .. => inferInstanceAs (Decidable (_ ∧ ∀ l ∈ s.links[i]?, NothingWaits l))
  | .connect .. | .agent .. | .receive _ | .handle .. => inferInstanceAs (Decidable (_ ∧ True))

/-- What both sides know of the subscriptions of a node. -/
structure LinkViews (r : RicSys) (l : E2Link) : Prop where
  live : l.agent.LiveOk
  ids : l.agent.DistinctIds
  tasks : Settles (l.known r) (l.tasks.filterMap E2Answer.update) (l.settled r)
  up : Leads (l.settled r) (l.up.filterMap E2Answer.change) l.agent.held
  down : Leads l.agent.held (l.down.filterMap E2Request.change) (l.wanted r)

structure Views (s : E2Sys) : Prop where
  conserved : Conserved s
  subs : s.ric.SubsOk
  served : ∀ q ∈ s.ric.subs, ∃ node ∈ s.links.map E2Link.node,
    eqGlobalE2NodeId q.node node = true
  links : ∀ l ∈ s.links, LinkViews s.ric l

theorem filterMap_change_cons {β γ : Type} {f : β → Option γ} {x : β} {xs : List β} :
    (x :: xs).filterMap f = (f x).toList ++ xs.filterMap f := by
  rw [List.filterMap_cons]
  cases f x <;> rfl

theorem filterMap_change_concat {β γ : Type} {f : β → Option γ} {x : β} {xs : List β} :
    (xs ++ [x]).filterMap f = xs.filterMap f ++ (f x).toList := by
  rw [List.filterMap_append, filterMap_change_cons, List.filterMap_nil, List.append_nil]

/-- Where the procedures and the subscriptions stay, the views do. -/
theorem LinkViews.of_eq {r r' : RicSys} (h : LinkViews r l) (hsubs : r'.subs = r.subs)
    (hprocs : r'.procs = r.procs) : LinkViews r' l := by
  have hknown : l.known r' = l.known r := by rw [E2Link.known, hsubs, E2Link.known]
  have hsettled : l.settled r' = l.settled r := by rw [E2Link.settled, hknown, E2Link.settled]
  have hwanted : l.wanted r' = l.wanted r := by
    rw [E2Link.wanted, hknown, E2Link.asked, E2Link.leaving, hprocs]
    rfl
  refine ⟨h.live, h.ids, ?_, hsettled ▸ h.up, hwanted ▸ h.down⟩
  rw [hknown, hsettled]
  exact h.tasks

/-- The connection between the RIC and the node changes, and the workers' tasks do not. -/
theorem LinkViews.moved {r : RicSys} (h : LinkViews r l) {agent : AgentSys}
    {down : List E2Request} {up : List E2Answer} (hlive : agent.LiveOk) (hids : agent.DistinctIds)
    (hup : Leads (l.settled r) (up.filterMap E2Answer.change) agent.held)
    (hdown : Leads agent.held (down.filterMap E2Request.change) (l.wanted r)) :
    LinkViews r { l with agent, down, up } :=
  ⟨hlive, hids, h.tasks, hup, hdown⟩

/-- **At the start** neither side knows of a subscription. -/
theorem Views.init : Views E2Sys.init where
  conserved := Conserved.init
  subs := RicSys.SubsOk.init
  served := fun _ h => absurd h List.not_mem_nil
  links := fun _ h => absurd h List.not_mem_nil

/-- A connection changes, and the RIC does not. -/
theorem Views.changed (h : Views s) (hlink : s.links[i]? = some l) {agent : AgentSys}
    {down : List E2Request} {up tasks : List E2Answer}
    {arrived : List (GlobalE2NodeId × RicIndication)}
    (hconserved :
      Conserved { s with links := s.links.set i { l with agent, down, up, tasks }, arrived })
    (hviews : LinkViews s.ric { l with agent, down, up, tasks }) :
    Views { s with links := s.links.set i { l with agent, down, up, tasks }, arrived } where
  conserved := hconserved
  subs := h.subs
  served := by
    simp only [map_node_set (n := { l with agent, down, up, tasks }) hlink rfl]
    exact h.served
  links := forall_mem_set (fun _ l₂ _ hl₂ => h.links l₂ (List.mem_of_getElem? hl₂)) hviews

/-- A node that is set up has no subscriptions. -/
theorem Views.connected (h : Views s) {node : GlobalE2NodeId} {cfg : AgentConfig} {ric : RicSys}
    (hnew : ∀ l ∈ s.links, l.serves node = false)
    (hconserved : Conserved { s with ric, links := s.links ++ [⟨node, .init cfg, [], [], []⟩] })
    (hric : ric = { s.ric with ric.e2Nodes := s.ric.ric.e2Nodes ++ [node] }) :
    Views { s with ric, links := s.links ++ [⟨node, .init cfg, [], [], []⟩] } := by
  subst hric
  have hnobody {n : GlobalE2NodeId}
      (hn : ∃ node' ∈ s.links.map E2Link.node, eqGlobalE2NodeId n node' = true) :
      eqGlobalE2NodeId n node = false := by
    obtain ⟨node', hnode', heq⟩ := hn
    obtain ⟨l, hl, rfl⟩ := List.mem_map.mp hnode'
    rw [← Bool.not_eq_true]
    intro heq'
    have hfalse := hnew l hl
    rw [E2Link.serves, eqGlobalE2NodeId_of_common heq' heq] at hfalse
    cases hfalse
  refine ⟨hconserved, ⟨h.subs.unique, h.subs.subs, h.subs.opening, h.subs.closing⟩, ?_, ?_⟩
  · intro q hq
    obtain ⟨n, hn, heq⟩ := h.served q hq
    exact ⟨n, by rw [List.map_append]; exact List.mem_append_left _ hn, heq⟩
  · intro l hl
    obtain hl | hl := List.mem_append.mp hl
    · exact (h.links l hl).of_eq rfl rfl
    · cases List.mem_singleton.mp hl
      have hknown : E2Link.known ⟨node, .init cfg, [], [], []⟩ s.ric = ∅ := by
        ext id
        refine ⟨?_, fun hid => hid.elim⟩
        rintro ⟨q, hq, hserves, -⟩
        rw [E2Link.serves, hnobody (h.served q hq)] at hserves
        cases hserves
      have hasked : E2Link.asked ⟨node, .init cfg, [], [], []⟩ s.ric = ∅ := by
        ext id
        refine ⟨?_, fun hid => hid.elim⟩
        rintro ⟨p, hp, -, hserves, -⟩
        rw [E2Link.serves, hnobody (h.conserved.served p hp)] at hserves
        cases hserves
      have hheld : (AgentSys.init cfg).held = ∅ := by
        ext id
        refine ⟨?_, fun hid => hid.elim⟩
        rintro ⟨x, hx, -⟩
        cases hx
      have hwanted : E2Link.wanted ⟨node, .init cfg, [], [], []⟩ s.ric = ∅ := by
        rw [E2Link.wanted, hknown, hasked, union_self, empty_sdiff]
      refine ⟨⟨.nil, .nil, fun _ hev => by cases hev⟩, List.nodup_nil, .nil _, ?_, ?_⟩
      · exact hknown.trans hheld.symm
      · exact hheld.trans hwanted.symm

/-- The RIC opens a procedure, and its request goes down. -/
theorem Views.opened (h : Views s) {f : RicSys.RicEvent} {action : List RicAction} {req : Req}
    {ev : PendingEvent} {fd : Fd} {ric : NearRic} {m : E2Request} (hsensible : s.ric.Sensible f)
    (ho : RicSys.Opens s.ric f req ev) (hm : E2Request.ofProc ⟨req, ev, fd⟩ action = some m)
    (hlink : s.links[i]? = some l) (hserves : l.serves req.node = true)
    (hconserved : Conserved { s with
      ric := s.ric.opened ric req ev fd
      links := s.links.set i { l with down := l.down ++ [m] } }) :
    Views { s with
      ric := s.ric.opened ric req ev fd
      links := s.links.set i { l with down := l.down ++ [m] } } := by
  have hfor := h.subs.opensFor hsensible ho
  -- no procedure of the same kind is of the same id
  have hother : ∀ p ∈ s.ric.procs, p.ev = ev → p.req.id ≠ req.id := by
    intro p hp hev hid
    have hkeys := hconserved.timers.keys_nodup
    simp only [RicSys.opened, List.map_append, List.map_cons, List.map_nil] at hkeys
    have hapart := (List.nodup_append.mp hkeys).2.2
    exact hapart p.key (List.mem_map.mpr ⟨p, hp, rfl⟩) _ List.mem_cons_self
      (by rw [Proc.key, Proc.key, hev, hid])
  refine ⟨hconserved, h.subs.opened hfor, ?_, ?_⟩
  · simp only [map_node_set (n := { l with down := l.down ++ [m] }) hlink rfl]
    exact h.served
  · refine forall_mem_set (fun j l₂ hne hl₂ => ?_) ?_
    · have hnot : l₂.serves req.node = false := by
        rw [← Bool.not_eq_true]
        exact fun hs => hne (h.conserved.apart.index_eq hl₂ hlink hs hserves)
      have hold := h.links l₂ (List.mem_of_getElem? hl₂)
      have hwanted : l₂.wanted (s.ric.opened ric req ev fd) = l₂.wanted s.ric :=
        E2Link.wanted_opened_other h.subs hfor hnot
      exact ⟨hold.live, hold.ids, hold.tasks, hold.up, hwanted.symm ▸ hold.down⟩
    · have hold := h.links l (List.mem_of_getElem? hlink)
      refine ⟨hold.live, hold.ids, hold.tasks, hold.up, ?_⟩
      rw [filterMap_change_concat]
      exact hold.down.append (E2Link.wanted_opened h.subs hfor hother hm hserves)

/-- Two messages on their way to the RIC's procedures are of different subscriptions. -/
theorem Views.elem_ne (h : Views s) (hl : l ∈ s.links) {m : E2Answer} {up : List E2Answer}
    (hup : l.up = m :: up) {c d : Change RicGenId} (hc : m.update = some c)
    (hd : d ∈ l.tasks.filterMap E2Answer.update) : d.elem ≠ c.elem := by
  obtain ⟨n, hn, hd⟩ := List.mem_filterMap.mp hd
  have hkeys : (inFlight l).Nodup := by
    refine ((h.conserved.flight l hl).nodup_iff).mp ?_
    exact h.conserved.timers.keys_nodup.sublist (List.filter_sublist.map _)
  have hmem {m : E2Answer} {k : PendingEventRic} (hm : m ∈ l.up ++ l.tasks) (hk : m.key = some k) :
      ∃ p ∈ s.ric.procs, p.key = k := by
    obtain ⟨p, hp, hpk, -⟩ := h.conserved.exists_proc hl
      (List.mem_append_right _ (List.mem_filterMap.mpr ⟨m, hm, hk⟩))
    exact ⟨p, hp, hpk⟩
  -- two answers of one kind and id would be one procedure's
  have hapart {k k' : PendingEventRic} (hm : m.key = some k) (hn' : n.key = some k') : k' ≠ k := by
    rintro rfl
    have hnodup := (List.nodup_append.mp hkeys).2.1
    rw [hup, List.cons_append, List.filterMap_cons_some hm, List.nodup_cons] at hnodup
    exact hnodup.1 (List.mem_filterMap.mpr ⟨n, List.mem_append_right _ hn, hn'⟩)
  have hother {a b : E2Answer} {id : RicGenId} (ha : a ∈ l.up ++ l.tasks)
      (hb : b ∈ l.up ++ l.tasks) (hak : a.key = some ⟨.subscriptionRequest, id⟩)
      (hbk : b.key = some ⟨.subscriptionDeleteRequest, id⟩) : False := by
    obtain ⟨p, hp, hpk⟩ := hmem ha hak
    obtain ⟨q, hq, hqk⟩ := hmem hb hbk
    simp only [Proc.key, PendingEventRic.mk.injEq] at hpk hqk
    exact h.subs.opening_ne_closing hp hpk.1 hq hqk.1 (hpk.2.trans hqk.2.symm)
  have hmup : m ∈ l.up ++ l.tasks := by simp [hup]
  have hnup : n ∈ l.up ++ l.tasks := List.mem_append_right _ hn
  intro heq
  obtain ⟨id, hmk, rfl⟩ | ⟨id, hmk, rfl⟩ := E2Answer.update_eq_some hc <;>
    obtain ⟨id', hnk, rfl⟩ | ⟨id', hnk, rfl⟩ := E2Answer.update_eq_some hd <;>
    obtain rfl : id' = id := heq
  · exact hapart hmk hnk rfl
  · exact hother hmup hnup hmk hnk
  · exact hother hnup hmup hnk hmk
  · exact hapart hmk hnk rfl

/-- The event loop of the RIC takes a message. -/
theorem Views.received (h : Views s) {m : E2Answer} {up : List E2Answer}
    (hlink : s.links[i]? = some l) (hup : l.up = m :: up) :
    LinkViews s.ric { l with up, tasks := l.tasks ++ [m] } := by
  have hl : l ∈ s.links := List.mem_of_getElem? hlink
  have hold := h.links l hl
  have hleads := hold.up
  rw [hup, filterMap_change_cons] at hleads
  cases hm : m.update with
  | none =>
    have htasks : (l.tasks ++ [m]).filterMap E2Answer.update =
        l.tasks.filterMap E2Answer.update := by
      rw [filterMap_change_concat, hm, Option.toList_none, List.append_nil]
    have hsettled : E2Link.settled { l with up, tasks := l.tasks ++ [m] } s.ric = l.settled s.ric := by
      simp only [E2Link.settled, htasks]
      rfl
    refine ⟨hold.live, hold.ids, ?_, ?_, hold.down⟩
    · rw [hsettled]
      simp only [htasks]
      exact hold.tasks
    · rw [hsettled]
      cases m with
      | indication ind => exact hleads.receive.2
      | control id => exact hleads
      | subscription resp => cases hm
      | subscriptionDelete id => cases hm
  | some c =>
    have hchange : m.change = some c := by
      cases m with
      | indication ind => cases hm
      | _ => exact hm
    have htasks : (l.tasks ++ [m]).filterMap E2Answer.update =
        l.tasks.filterMap E2Answer.update ++ [c] := by
      rw [filterMap_change_concat, hm, Option.toList_some]
    have hsettled : E2Link.settled { l with up, tasks := l.tasks ++ [m] } s.ric =
        c.after (l.settled s.ric) := by
      simp only [E2Link.settled, htasks, List.foldl_append]
      rfl
    rw [hchange] at hleads
    obtain ⟨hallowed, hrest⟩ := hleads.receive
    refine ⟨hold.live, hold.ids, ?_, ?_, hold.down⟩
    · rw [hsettled]
      simp only [htasks]
      exact hold.tasks.send hallowed fun d hd => h.elem_ne hl hup hm hd
    · rw [hsettled]
      exact hrest

/-- A worker of the RIC handles an answer. -/
theorem Views.answered (h : Views s) {j : Nat} {m : E2Answer} {k : Nat} {p : Proc}
    {ric : NearRic} {resp : NearRic.Admission} {picks : Picks} (hlink : s.links[i]? = some l)
    (htask : l.tasks[j]? = some m) (hkey : m.key = some p.key) (hp : s.ric.procs[k]? = some p)
    (hstep : s.ric.step (.answer k resp picks) = .next (s.ric.answered ric k p))
    (hconserved : Conserved { s with
      ric := s.ric.answered ric k p
      links := s.links.set i { l with tasks := l.tasks.eraseIdx j } }) :
    Views { s with
      ric := s.ric.answered ric k p
      links := s.links.set i { l with tasks := l.tasks.eraseIdx j } } := by
  have hl : l ∈ s.links := List.mem_of_getElem? hlink
  have hmem : p ∈ s.ric.procs := List.mem_of_getElem? hp
  have hserves : l.serves p.req.node = true := by
    obtain ⟨q, hq, hqk, hqs⟩ := h.conserved.exists_task hlink htask hkey
    exact h.conserved.proc_eq hq hmem hqk ▸ hqs
  refine ⟨hconserved, h.subs.answered h.conserved.timers.keys_nodup hp hstep, ?_, ?_⟩
  · simp only [map_node_set (n := { l with tasks := l.tasks.eraseIdx j }) hlink rfl]
    intro q hq
    obtain ⟨hq, -⟩ | ⟨-, rfl⟩ := RicSys.mem_subs_answered.mp hq
    · exact h.served q hq
    · exact ⟨l.node, List.mem_map.mpr ⟨l, hl, rfl⟩, hserves⟩
  · refine forall_mem_set (fun j l₂ hne hl₂ => ?_) ?_
    · have hnot : l₂.serves p.req.node = false := by
        rw [← Bool.not_eq_true]
        exact fun hs => hne (h.conserved.apart.index_eq hl₂ hlink hs hserves)
      have hold := h.links l₂ (List.mem_of_getElem? hl₂)
      have hknown : l₂.known (s.ric.answered ric k p) = l₂.known s.ric :=
        E2Link.known_answered_other h.subs hmem hnot
      have hsettled : l₂.settled (s.ric.answered ric k p) = l₂.settled s.ric := by
        rw [E2Link.settled, hknown, E2Link.settled]
      have hwanted : l₂.wanted (s.ric.answered ric k p) = l₂.wanted s.ric :=
        E2Link.wanted_answered h.subs hp
      refine ⟨hold.live, hold.ids, ?_, hsettled.symm ▸ hold.up, hwanted.symm ▸ hold.down⟩
      rw [hknown, hsettled]
      exact hold.tasks
    · have hold := h.links l hl
      have hknown : l.known (s.ric.answered ric k p) =
          m.update.toList.foldl Change.after (l.known s.ric) :=
        E2Link.known_answered h.subs hmem hkey hserves
      have hwanted : l.wanted (s.ric.answered ric k p) = l.wanted s.ric :=
        E2Link.wanted_answered h.subs hp
      -- the tasks are the one that is handled and the others
      have hrest : Settles (l.known (s.ric.answered ric k p))
          ((l.tasks.eraseIdx j).filterMap E2Answer.update) (l.settled s.ric) := by
        rw [hknown]
        have hperm := (perm_tasks htask).filterMap E2Answer.update
        rw [filterMap_change_cons] at hperm
        cases hm : m.update with
        | none =>
          rw [hm] at hperm
          exact fun cs hcs => hold.tasks cs (hcs.trans hperm.symm)
        | some c =>
          rw [hm] at hperm
          exact hold.tasks.receive hperm
      have hsettled : E2Link.settled { l with tasks := l.tasks.eraseIdx j }
          (s.ric.answered ric k p) = l.settled s.ric := hrest.leads.eq_foldl.symm
      refine ⟨hold.live, hold.ids, ?_, ?_, ?_⟩
      · rw [hsettled]
        exact hrest
      · rw [hsettled]
        exact hold.up
      · exact hwanted.symm ▸ hold.down

/-- Every step under the condition keeps the views settled. -/
theorem Views.step (h : Views s) (hc : s.ViewCond e) (hs : s.step e = .next s') : Views s' := by
  have hconserved := h.conserved.step hc.1 hs
  cases step_cases hs with
  | connected node cfg ric event new set =>
    refine h.connected new hconserved ?_
    simp only [RicSys.step, Outcome.pure_eq, Outcome.next_inj] at set
    exact set.symm
  | opened f action p m i l ric event own acted proc request link serves =>
    subst event
    obtain ⟨req, ev, fd, ric₀, ho, -, rfl⟩ | ⟨-, hprocs, -⟩ := RicSys.own_cases own acted
    · have hp : p = ⟨req, ev, fd⟩ := by
        simp only [RicSys.opened, List.getElem?_concat_length, Option.some_inj] at proc
        exact proc.symm
      subst hp
      exact h.opened hc.2 ho request link serves hconserved
    · rw [hprocs, List.getElem?_eq_none (Nat.le_refl _)] at proc
      cases proc
  | silent f action ric event own acted noProc =>
    subst event
    obtain ⟨req, ev, fd, ric₀, -, -, rfl⟩ | ⟨-, hprocs, hsubs, hlive⟩ :=
      RicSys.own_cases own acted
    · simp only [RicSys.opened, List.getElem?_concat_length] at noProc
      cases noProc
    · refine ⟨hconserved, ⟨?_, ?_, ?_, ?_⟩, ?_, fun l hl => (h.links l hl).of_eq hsubs hprocs⟩
      · exact fun r hr r' hr' => h.subs.unique r (hlive r hr) r' (hlive r' hr')
      · rw [hsubs]
        exact h.subs.subs
      · rw [hprocs, hsubs]
        exact h.subs.opening
      · rw [hprocs, hsubs]
        exact h.subs.closing
      · rw [hsubs]
        exact h.served
  | delivered i l m down answer agent ans fd picks event link first handled =>
    subst event
    have hold := h.links l (List.mem_of_getElem? link)
    have hleads := hold.down
    rw [first, filterMap_change_cons] at hleads
    have hwaits : ∀ id, m = .subscriptionDelete id →
        (∀ ev ∈ l.agent.awaiting, ev.ricId ≠ id) ∧ l.agent.searching = false := by
      rintro id rfl
      have hnothing := hc.2 l link
      rwa [NothingWaits, first] at hnothing
    obtain ⟨hlive, hids, hdown, hanswer⟩ :=
      AgentSys.handleRequest_held hold.live hold.ids hleads hwaits handled
    refine h.changed link hconserved (hold.moved hlive hids ?_ hdown)
    rw [filterMap_change_concat]
    exact hold.up.append hanswer
  | moved i l f agent event own link acted =>
    have hold := h.links l (List.mem_of_getElem? link)
    obtain ⟨hlive, hheld, hsent⟩ := AgentSys.own_held hold.live own acted
    refine h.changed link hconserved (hold.moved hlive ?_ ?_ ?_)
    · rw [AgentSys.DistinctIds, AgentSys.own_subs own acted]
      exact hold.ids
    · have hheld' : ∀ id ∈ (l.agent.sentBy agent).map (·.ricId), id ∈ l.agent.held := by
        intro id hid
        obtain ⟨ind, hind, rfl⟩ := List.mem_map.mp hid
        exact hsent ind hind
      have huses := hold.up.send_uses hheld'
      rw [hheld, List.filterMap_append, List.filterMap_map]
      rwa [List.map_map, ← List.filterMap_eq_map] at huses
    · rw [hheld]
      exact hold.down
  | received i l m up link first =>
    exact h.changed link hconserved (h.received link first)
  | indicated i j l ind link task =>
    have hold := h.links l (List.mem_of_getElem? link)
    have hperm := (perm_tasks task).filterMap E2Answer.update
    have hsettles : Settles (l.known s.ric) ((l.tasks.eraseIdx j).filterMap E2Answer.update)
        (l.settled s.ric) := fun cs hcs => hold.tasks cs (hcs.trans hperm.symm)
    have hsettled : E2Link.settled { l with tasks := l.tasks.eraseIdx j } s.ric = l.settled s.ric :=
      hsettles.leads.eq_foldl.symm
    refine h.changed link hconserved ⟨hold.live, hold.ids, ?_, ?_, hold.down⟩
    · rw [hsettled]
      exact hsettles
    · rw [hsettled]
      exact hold.up
  | answered i j l m key picks ric link task kind received =>
    obtain ⟨k, p, ric₀, hp, rfl, hstep, rfl⟩ :=
      RicSys.receive_eq_next h.conserved.timers.toTimersMatch received
    exact h.answered link task kind hp hstep hconserved

/-- **and every run under the condition.** -/
theorem views (h : linkMachine.ReachedBy ViewCond s) : Views s :=
  h.invariant Views.init fun _ _ _ _ hp hc hs => hp.step hc hs

/-- **Both sides agree, but for what is on its way**: in every such run and at each node, the
messages that the workers of the RIC have, in whatever order they handle them, and after them those
on their way up turn what the RIC knows into what the node holds, and those on their way down turn
what the node holds into what the RIC wants. So on a silent connection the subscriptions that the
RIC has an answer for are those in the table of the node, and nothing waits; and no indication
comes up whose subscription the RIC does not know once its workers are done. -/
theorem views_agree (h : linkMachine.ReachedBy ViewCond s) :
    (∀ l ∈ s.links,
      Settles (l.known s.ric) (l.tasks.filterMap E2Answer.update) (l.settled s.ric) ∧
      Leads (l.settled s.ric) (l.up.filterMap E2Answer.change) l.agent.held ∧
      Leads l.agent.held (l.down.filterMap E2Request.change) (l.wanted s.ric)) ∧
    (∀ l ∈ s.links, l.tasks = [] → l.up = [] → l.down = [] →
      l.known s.ric = l.agent.held ∧ l.wanted s.ric = l.agent.held ∧ s.procsAt l = []) ∧
    (∀ l ∈ s.links, ∀ ind up, l.up = .indication ind :: up → ind.ricId ∈ l.settled s.ric) := by
  have hviews := views h
  refine ⟨fun l hl => ?_, fun l hl htasks hup hdown => ?_, fun l hl ind up hup => ?_⟩
  · obtain ⟨-, -, htasks, hup, hdown⟩ := hviews.links l hl
    exact ⟨htasks, hup, hdown⟩
  · obtain ⟨-, -, -, hleadsUp, hleadsDown⟩ := hviews.links l hl
    rw [E2Link.settled, htasks, hup] at hleadsUp
    rw [hdown] at hleadsDown
    refine ⟨hleadsUp.of_nil, hleadsDown.of_nil.symm, ?_⟩
    have hflight := hviews.conserved.flight l hl
    rw [inFlight, htasks, hup, hdown] at hflight
    exact List.map_eq_nil_iff.mp hflight.eq_nil
  · have hleads := (hviews.links l hl).up
    rw [hup, filterMap_change_cons] at hleads
    exact hleads.receive.1

/-- A node is subscribed to, sends an indication, and has yet to hear of the deletion. -/
theorem views_agree_indication : ∃ s : E2Sys, ∃ l ∈ s.links,
    l.down = [.subscriptionDelete ⟨0, 0, 142⟩] ∧ l.up = [.indication ⟨⟨0, 0, 142⟩, 0⟩] ∧
    ⟨0, 0, 142⟩ ∈ l.settled s.ric := by
  have hrun := Machine.ReachedBy.exists_of_run (M := linkMachine) (C := ViewCond)
    [.connect ⟨.gnb 1, [], []⟩ .local, .ric (.reportService (.gnb 1) 142 (some 5)) [⟨0, .report⟩],
      .deliver 0 (.periodic 10) 9 (0, 0), .receive 0, .handle 0 0 (0, 0),
      .agent 0 (.timer 9 true 0 true),
      .ric (.fwdSubscriptionDelete (.gnb 1) ⟨0, 0, 142⟩ (some 6)) []]
    (fun s => s.links.any fun l => l.down == [.subscriptionDelete ⟨0, 0, 142⟩] &&
      l.up == [.indication ⟨⟨0, 0, 142⟩, 0⟩])
    (by decide)
  obtain ⟨s, hs, hend⟩ := hrun
  obtain ⟨l, hl, hboth⟩ := List.any_eq_true.mp hend
  simp only [Bool.and_eq_true, beq_iff_eq] at hboth
  exact ⟨s, l, hl, hboth.1, hboth.2, (views_agree hs).2.2 l hl _ _ hboth.2⟩

end E2Sys

end FlexRic
