import FlexRic.Lib.Delay
import FlexRic.Link.Procedures
import FlexRic.Ric.Subscriptions

/-!
# FlexRic.Link.Views

What the near-RT RIC and an E2 node know of the node's subscriptions.

* `known`, `held` and `wanted`: the subscriptions that the RIC has an answer for, those in the
  table of the agent, and those that are left once all requests are handled.
* `settled`: what the RIC knows once its workers have handled what they have.
* `handleRequest_held`: a request that is handled changes the table, and its answer what the RIC
  will know.
-/

namespace FlexRic

open Set

namespace E2Request

/-- What a request does to the table of the agent. -/
def change : E2Request → Option (Change RicGenId)
  | subscription sr => some (.add sr.ricId)
  | subscriptionDelete id => some (.remove id)
  | control _ => none

end E2Request

namespace E2Answer

/-- What a message does to what the RIC knows. -/
def change : E2Answer → Option (Change RicGenId)
  | subscription resp => some (.add resp.ricId)
  | subscriptionDelete id => some (.remove id)
  | control _ => none
  | indication ind => some (.use ind.ricId)

/-- What a message that others may overtake tells: an indication tells nothing then. -/
def update : E2Answer → Option (Change RicGenId)
  | indication _ => none
  | m => m.change

/-- Only answers that are positive change the view. -/
theorem update_eq_some {m : E2Answer} {c : Change RicGenId} (h : m.update = some c) :
    (∃ id, m.key = some ⟨.subscriptionRequest, id⟩ ∧ c = .add id) ∨
      ∃ id, m.key = some ⟨.subscriptionDeleteRequest, id⟩ ∧ c = .remove id := by
  cases m with
  | subscription resp =>
    cases h
    exact .inl ⟨resp.ricId, rfl, rfl⟩
  | subscriptionDelete id =>
    cases h
    exact .inr ⟨id, rfl, rfl⟩
  | control id => cases h
  | indication ind => cases h

end E2Answer

namespace E2Link

variable {l : E2Link} {r : RicSys} {id : RicGenId}

/-- The subscriptions at the node that have been answered and not deleted. -/
def known (l : E2Link) (r : RicSys) : Set RicGenId :=
  {id | ∃ q ∈ r.subs, l.serves q.node = true ∧ q.id = id}

/-- Those that are asked for. -/
def asked (l : E2Link) (r : RicSys) : Set RicGenId :=
  {id | ∃ p ∈ r.procs, p.ev = .subscriptionRequest ∧ l.serves p.req.node = true ∧ p.req.id = id}

/-- The subscriptions of which a deletion is asked for. -/
def leaving (r : RicSys) : Set RicGenId :=
  {id | ∃ p ∈ r.procs, p.ev = .subscriptionDeleteRequest ∧ p.req.id = id}

/-- What the RIC knows once its workers have handled what they have. -/
def settled (l : E2Link) (r : RicSys) : Set RicGenId :=
  (l.tasks.filterMap E2Answer.update).foldl Change.after (l.known r)

/-- What the node has once it has handled all requests. -/
def wanted (l : E2Link) (r : RicSys) : Set RicGenId := (l.known r ∪ l.asked r) \ leaving r

end E2Link

/-- The subscriptions in the agent's table. -/
def AgentSys.held (a : AgentSys) : Set RicGenId := {id | ∃ x ∈ a.ag.indEvent.right, x.1.ricId = id}

/-! ## What the RIC wants -/

namespace E2Link

variable {l : E2Link} {r r' : RicSys} {req : Req} {ev : PendingEvent} {fd : Fd} {ric : NearRic}
  {p : Proc} {k : Nat}

/-- A request changes nothing of what is known. -/
theorem known_opened : l.known (r.opened ric req ev fd) = l.known r := rfl

/-- A subscription request adds to what was asked. -/
theorem asked_opened : l.asked (r.opened ric req ev fd) =
    l.asked r ∪ {id | ev = .subscriptionRequest ∧ l.serves req.node = true ∧ req.id = id} := by
  ext id
  simp only [asked, RicSys.opened, List.mem_append, List.mem_singleton, mem_ofPred_eq, mem_union]
  constructor
  · rintro ⟨p, hp | rfl, h⟩
    · exact .inl ⟨p, hp, h⟩
    · exact .inr h
  · rintro (⟨p, hp, h⟩ | h)
    · exact ⟨p, .inl hp, h⟩
    · exact ⟨⟨req, ev, fd⟩, .inr rfl, h⟩

/-- A deletion request adds to what is leaving. -/
theorem leaving_opened : leaving (r.opened ric req ev fd) =
    leaving r ∪ {id | ev = .subscriptionDeleteRequest ∧ req.id = id} := by
  ext id
  simp only [leaving, RicSys.opened, List.mem_append, List.mem_singleton, mem_ofPred_eq, mem_union]
  constructor
  · rintro ⟨p, hp | rfl, h⟩
    · exact .inl ⟨p, hp, h⟩
    · exact .inr h
  · rintro (⟨p, hp, h⟩ | h)
    · exact ⟨p, .inl hp, h⟩
    · exact ⟨⟨req, ev, fd⟩, .inr rfl, h⟩

/-- What is known is held as a subscription. -/
theorem exists_of_known {id : RicGenId} (h : r.SubsOk) (hid : id ∈ l.known r ∪ l.asked r) :
    ∃ q ∈ r.live, q.type = .subscription ∧ l.serves q.node = true ∧ q.id = id ∧
      (id ∈ l.known r → q ∈ r.subs) := by
  by_cases hknown : id ∈ l.known r
  · obtain ⟨q, hq, hserves, rfl⟩ := hknown
    exact ⟨q, RicSys.mem_live_of_subs hq, h.subs q hq, hserves, rfl, fun _ => hq⟩
  · obtain ⟨p, hp, hev, hserves, rfl⟩ := hid.resolve_left hknown
    exact ⟨p.req, RicSys.mem_live_of_procs hp, (h.opening p hp hev).1, hserves, rfl,
      fun hk => absurd hk hknown⟩

/-- What is leaving was subscribed. -/
theorem leaving_subs {id : RicGenId} (h : r.SubsOk) (hid : id ∈ leaving r) :
    ∃ q ∈ r.subs, q.id = id := by
  obtain ⟨p, hp, hev, rfl⟩ := hid
  exact ⟨p.req, h.closing p hp hev, rfl⟩

/-- A request of the RIC changes what it wants of the node it goes to. -/
theorem wanted_opened (h : r.SubsOk) (ho : r.OpensFor req ev)
    (hother : ∀ p ∈ r.procs, p.ev = ev → p.req.id ≠ req.id) {action : List RicAction}
    {m : E2Request} (hm : E2Request.ofProc ⟨req, ev, fd⟩ action = some m)
    (hserves : l.serves req.node = true) :
    Leads (l.wanted r) m.change.toList (l.wanted (r.opened ric req ev fd)) := by
  simp only [wanted, known_opened, asked_opened, leaving_opened]
  cases ho with
  | subscription kind type new =>
    subst kind
    cases hm
    have hnotLeaving : req.id ∉ leaving r := by
      intro hl
      obtain ⟨q, hq, hid⟩ := leaving_subs h hl
      exact new q (RicSys.mem_live_of_subs hq) (h.subs q hq) hid
    refine ⟨fun hmem => ?_, ?_⟩
    · obtain ⟨q, hq, htype, -, hid, -⟩ := exists_of_known h hmem.1
      exact new q hq htype hid
    · ext id
      simp only [Change.after, mem_insert_iff, mem_sdiff, mem_union, mem_ofPred_eq]
      by_cases hid : id = req.id
      · subst hid
        simp [hserves, hnotLeaving]
      · simp [hid, Ne.symm hid]
  | deletion kind held =>
    subst kind
    cases hm
    refine ⟨⟨.inl ⟨req, held, hserves, rfl⟩, ?_⟩, ?_⟩
    · rintro ⟨p, hp, hev, hid⟩
      exact hother p hp hev hid
    · ext id
      simp only [Change.after, mem_sdiff, mem_union, mem_ofPred_eq, mem_singleton_iff]
      by_cases hid : id = req.id
      · subst hid
        simp
      · simp [hid, Ne.symm hid]
  | control kind type =>
    subst kind
    cases hm
    show _ = _
    simp

/-- A request changes what is wanted of no other node. -/
theorem wanted_opened_other (h : r.SubsOk) (ho : r.OpensFor req ev)
    (hserves : l.serves req.node = false) : l.wanted (r.opened ric req ev fd) = l.wanted r := by
  simp only [wanted, known_opened, asked_opened, leaving_opened]
  cases ho with
  | subscription kind type new => simp [kind, hserves]
  | control kind type => simp [kind]
  | deletion kind held =>
    subst kind
    have hnot : req.id ∉ l.known r ∪ l.asked r := by
      intro hid
      obtain ⟨q, hq, htype, hq', hqid, -⟩ := exists_of_known h hid
      have heq := h.unique q hq req (RicSys.mem_live_of_subs held) htype (h.subs req held) hqid
      rw [heq, hserves] at hq'
      cases hq'
    ext id
    by_cases hid : id = req.id
    · subst hid
      simp only [mem_sdiff, mem_union] at hnot ⊢
      simp [hnot]
    · simp [hid]

/-! ## What the RIC knows -/

/-- What the RIC knows after an answer. -/
theorem mem_known_answered (h : r.SubsOk) (hp : p ∈ r.procs) {id : RicGenId} :
    id ∈ l.known (r.answered ric k p) ↔
      (id ∈ l.known r ∧ (p.ev = .subscriptionDeleteRequest → id ≠ p.req.id)) ∨
        p.ev = .subscriptionRequest ∧ l.serves p.req.node = true ∧ p.req.id = id := by
  simp only [known, mem_ofPred_eq, RicSys.mem_subs_answered]
  constructor
  · rintro ⟨q, ⟨hq, hne⟩ | ⟨hev, rfl⟩, hserves, rfl⟩
    · refine .inl ⟨⟨q, hq, hserves, rfl⟩, fun hev hid => hne hev ?_⟩
      have hheld := h.closing p hp hev
      exact h.unique q (RicSys.mem_live_of_subs hq) _ (RicSys.mem_live_of_subs hheld)
        (h.subs q hq) (h.subs _ hheld) hid
    · exact .inr ⟨hev, hserves, rfl⟩
  · rintro (⟨⟨q, hq, hserves, rfl⟩, hne⟩ | ⟨hev, hserves, rfl⟩)
    · exact ⟨q, .inl ⟨hq, fun hev heq => hne hev (by rw [heq])⟩, hserves, rfl⟩
    · exact ⟨p.req, .inr ⟨hev, rfl⟩, hserves, rfl⟩

/-- An answer changes what the RIC knows of the node it came from. -/
theorem known_answered (h : r.SubsOk) (hp : p ∈ r.procs) {m : E2Answer}
    (hkey : m.key = some p.key) (hserves : l.serves p.req.node = true) :
    l.known (r.answered ric k p) = m.update.toList.foldl Change.after (l.known r) := by
  cases m with
  | subscription resp =>
    obtain ⟨hev, hid⟩ : .subscriptionRequest = p.ev ∧ resp.ricId = p.req.id := by
      simpa [E2Answer.key, Proc.key] using hkey
    ext id
    rw [mem_known_answered h hp]
    simp [E2Answer.update, E2Answer.change, Change.after, hid, ← hev, hserves, eq_comm, or_comm]
  | subscriptionDelete id' =>
    obtain ⟨hev, rfl⟩ : .subscriptionDeleteRequest = p.ev ∧ id' = p.req.id := by
      simpa [E2Answer.key, Proc.key] using hkey
    ext id
    rw [mem_known_answered h hp]
    simp [E2Answer.update, E2Answer.change, Change.after, ← hev]
  | control id' =>
    obtain ⟨hev, -⟩ : .controlRequest = p.ev ∧ id' = p.req.id := by
      simpa [E2Answer.key, Proc.key] using hkey
    ext id
    rw [mem_known_answered h hp]
    simp [E2Answer.update, E2Answer.change, ← hev]
  | indication ind => cases hkey

/-- An answer changes what is known of no other node. -/
theorem known_answered_other (h : r.SubsOk) (hp : p ∈ r.procs)
    (hserves : l.serves p.req.node = false) : l.known (r.answered ric k p) = l.known r := by
  ext id
  rw [mem_known_answered h hp]
  constructor
  · rintro (⟨hid, -⟩ | ⟨-, hp', -⟩)
    · exact hid
    · rw [hserves] at hp'
      cases hp'
  · refine fun hid => .inl ⟨hid, fun hev heq => ?_⟩
    obtain ⟨q, hq, hq', rfl⟩ := hid
    have hheld := h.closing p hp hev
    rw [h.unique q (RicSys.mem_live_of_subs hq) _ (RicSys.mem_live_of_subs hheld) (h.subs q hq)
      (h.subs _ hheld) heq, hserves] at hq'
    cases hq'

/-- An answer leaves what the RIC wants as it is. -/
theorem wanted_answered (h : r.SubsOk) (hp : r.procs[k]? = some p) :
    l.wanted (r.answered ric k p) = l.wanted r := by
  obtain ⟨hlt, hget⟩ := List.getElem?_eq_some_iff.mp hp
  have hmem : p ∈ r.procs := List.mem_of_getElem? hp
  have hprocs (q : Proc) : q ∈ r.procs ↔ q = p ∨ q ∈ r.procs.eraseIdx k := by
    rw [← (List.getElem_cons_eraseIdx_perm hlt).mem_iff, hget, List.mem_cons]
  have hasked : l.asked r = l.asked (r.answered ric k p) ∪
      {id | p.ev = .subscriptionRequest ∧ l.serves p.req.node = true ∧ p.req.id = id} := by
    ext id
    simp only [asked, RicSys.answered, mem_ofPred_eq, mem_union, hprocs, or_and_right, exists_or,
      exists_eq_left]
    exact or_comm
  have hleaving : leaving r = leaving (r.answered ric k p) ∪
      {id | p.ev = .subscriptionDeleteRequest ∧ p.req.id = id} := by
    ext id
    simp only [leaving, RicSys.answered, mem_ofPred_eq, mem_union, hprocs, or_and_right, exists_or,
      exists_eq_left]
    exact or_comm
  -- a subscription whose deletion is answered was not asked for
  have hnot : p.ev = .subscriptionDeleteRequest → p.req.id ∉ l.asked (r.answered ric k p) := by
    rintro hev ⟨q, hq, hqev, -, hid⟩
    exact h.opening_ne_closing (List.mem_of_mem_eraseIdx hq) hqev hmem hev hid
  ext id
  simp only [wanted, hasked, hleaving, mem_sdiff, mem_union, mem_known_answered h hmem,
    mem_ofPred_eq, not_or, not_and]
  constructor
  · rintro ⟨(⟨hknown, hne⟩ | hnew) | hasks, hstays⟩
    · exact ⟨.inl hknown, hstays, fun hev heq => hne hev heq.symm⟩
    · exact ⟨.inr (.inr hnew), hstays, fun hev => by rw [hnew.1] at hev; cases hev⟩
    · refine ⟨.inr (.inl hasks), hstays, fun hev heq => ?_⟩
      exact hnot hev (heq ▸ hasks)
  · rintro ⟨hknown | hasks | hnew, hstays, hne⟩
    · exact ⟨.inl (.inl ⟨hknown, fun hev heq => hne hev heq.symm⟩), hstays⟩
    · exact ⟨.inr hasks, hstays⟩
    · exact ⟨.inl (.inr hnew), hstays⟩

end E2Link

/-! ## What the agent holds -/

namespace AgentSys

variable {a a' : AgentSys} {e : AgentEvent} {id : RicGenId}

/-- What the agent holds are its subscriptions. -/
theorem mem_held (h : a.LiveOk) : id ∈ a.held ↔ ∃ p ∈ a.subs, p.2.ricId = id := by
  constructor
  · rintro ⟨x, hx, rfl⟩
    exact ⟨x.swap, h.entries.mem_iff.mp (h.mirror.mem.mpr hx), rfl⟩
  · rintro ⟨p, hp, rfl⟩
    exact ⟨p.swap, h.mirror.mem.mp (h.entries.mem_iff.mpr hp), rfl⟩

/-- The ids of the subscriptions are different. -/
def DistinctIds (a : AgentSys) : Prop := (a.subs.map fun p => p.2.ricId).Nodup

/-- An id is that of one at most. -/
theorem DistinctIds.named (h : a.DistinctIds) (id : RicGenId) :
    (a.subs.filter fun p => p.2.ricId == id).length ≤ 1 := by
  have hcount := List.nodup_iff_count_le_one.mp h id
  rwa [List.count, List.countP_map, List.countP_eq_length_filter] at hcount

/-- The agent's own steps keep its subscriptions. -/
theorem own_subs (hown : e.isOwn = true) (hs : a.step e = .next a') : a'.subs = a.subs := by
  cases table_cases hs with
  | registered sr ans fd key ev ag event registered id eq =>
    subst event
    cases hown
  | notFound id picks event absent eq =>
    subst event
    cases hown
  | stopped id picks key ag event stopped eq =>
    subst event
    cases hown
  | expired fd value newTimer encodes ag event isOpen notInd pend handled eq => rw [eq]
  | setUp picks ag event handled eq => rw [eq]
  | shutDown fdTimer ag event handled eq => rw [eq]
  | quiet same => exact same.subs

/-- What the agent does on its own leaves the table, and what it sends is of the table. -/
theorem own_held (h : a.LiveOk) (hown : e.isOwn = true) (hs : a.step e = .next a') :
    a'.LiveOk ∧ a'.held = a.held ∧ ∀ ind ∈ a.sentBy a', ind.ricId ∈ a.held := by
  have hc : a.DeleteCond e := by
    cases e with
    | subscriptionDelete id picks => cases hown
    | _ => trivial
  have hlive := h.step hc hs
  refine ⟨hlive, ?_, fun ind hind => ?_⟩
  · ext id
    rw [mem_held hlive, mem_held h, own_subs hown hs]
  · obtain ⟨p, hp, hid, -⟩ := h.sendsLive hs ind hind
    exact (mem_held h).mpr ⟨p, hp, hid⟩

/-- **A request is handled**: the table changes as it says, and so will what the RIC knows. -/
theorem handleRequest_held {ans : SubscriptionAns} {fd : Fd} {picks : Picks} {m : E2Request}
    {answer : E2Answer} {cs : List (Change RicGenId)} {B : Set RicGenId} (h : a.LiveOk)
    (hids : a.DistinctIds) (hleads : Leads a.held (m.change.toList ++ cs) B)
    (hwaits : ∀ id, m = .subscriptionDelete id →
      (∀ ev ∈ a.awaiting, ev.ricId ≠ id) ∧ a.searching = false)
    (hs : a.handleRequest ans fd picks m = .next (answer, a')) :
    a'.LiveOk ∧ a'.DistinctIds ∧ Leads a'.held cs B ∧
      Leads a.held answer.change.toList a'.held := by
  cases m with
  | subscription sr =>
    simp only [handleRequest, Outcome.bind_eq_next, Outcome.pure_eq, Outcome.next_inj] at hs
    obtain ⟨⟨resp, entry, ag⟩, hh, a₁, hstep, heq⟩ := hs
    cases heq
    have hlive := h.step (e := .subscription sr ans fd) trivial hstep
    simp only [step, Outcome.bind_eq_next, Outcome.pure_eq, Outcome.next_inj, hh] at hstep
    obtain ⟨_, -, _, rfl, rfl⟩ := hstep
    obtain ⟨-, hid, rfl⟩ := E2Agent.handleSubscriptionRequest_eq_next hh
    obtain ⟨hnew, hrest⟩ := hleads.receive
    have hafter : insert sr.ricId a.held = held { a with ag, subs := entry :: a.subs } := by
      ext id
      rw [mem_held hlive, mem_insert_iff, mem_held h]
      simp [hid, eq_comm]
    refine ⟨hlive, ?_, hafter ▸ hrest, hnew, hafter⟩
    have hfresh : entry.2.ricId ∉ a.subs.map fun p => p.2.ricId := by
      rw [hid]
      intro hmem
      obtain ⟨p, hp, hpid⟩ := List.mem_map.mp hmem
      exact hnew ((mem_held h).mpr ⟨p, hp, hpid⟩)
    exact List.nodup_cons.mpr ⟨hfresh, hids⟩
  | subscriptionDelete id =>
    simp only [handleRequest, E2Agent.handleSubscriptionDeleteRequest, Outcome.bind_eq_next,
      Outcome.pure_eq, Outcome.next_inj] at hs
    obtain ⟨⟨id', ag'⟩, ⟨⟨_, _⟩, -, hid⟩, a₁, hstep, heq⟩ := hs
    cases hid
    cases heq
    have hlive := h.step (e := .subscriptionDelete id picks)
      ⟨hids.named id, hwaits id rfl⟩ hstep
    simp only [step, Outcome.bind_eq_next, Outcome.pure_eq, Outcome.next_inj] at hstep
    obtain ⟨_, -, ⟨_, ag⟩, -, rfl⟩ := hstep
    obtain ⟨hmem, hrest⟩ := hleads.receive
    have hafter : a.held \ {id} =
        held
          { a with
            ag
            calls := a.callsDuring id
            subs := a.subs.filter fun p => p.2.ricId != id } := by
      ext id'
      rw [mem_held hlive, mem_sdiff, mem_singleton_iff, mem_held h]
      constructor
      · rintro ⟨⟨p, hp, rfl⟩, hne⟩
        exact ⟨p, List.mem_filter.mpr ⟨hp, bne_iff_ne.mpr hne⟩, rfl⟩
      · rintro ⟨p, hp, rfl⟩
        obtain ⟨hp, hne⟩ := List.mem_filter.mp hp
        exact ⟨⟨p, hp, rfl⟩, bne_iff_ne.mp hne⟩
    refine ⟨hlive, ?_, hafter ▸ hrest, hmem, hafter⟩
    exact hids.sublist (List.filter_sublist.map _)
  | control id =>
    simp only [handleRequest, Outcome.bind_eq_next, Outcome.pure_eq, Outcome.next_inj] at hs
    obtain ⟨_, -, _, -, heq⟩ := hs
    cases heq
    exact ⟨h, hids, hleads, .nil _⟩

end AgentSys

end FlexRic
