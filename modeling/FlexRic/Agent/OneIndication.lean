import FlexRic.Agent.RicAgents

/-!
# FlexRic.Agent.OneIndication

What becomes of the events that the RAN raises for all RICs.

* `work`: what is left to do for the events.  Each step of a call or of a loop
  makes it less, and only a new event makes it more.
* `Told`: a loop that has something to do is told so by its pipe.
* `goesOn`: so while an event waits, a call or a loop has a step.
* `one_indication`: an event gets one indication, of a subscription that the RIC
  it goes to has made, and its data is freed once.
-/

namespace FlexRic

/-! ## What is left to do -/

/-- What a call has left to do: more for each search that may fail, and for the
event that it pushes. -/
def Call.work (c : Call) : Nat :=
  match c.phase with
  | .looking tries => 2 * (10 - tries) + 8
  | .searching tries _ => 2 * (10 - tries) + 7
  | .found _ => 6
  | .writing => 1

@[simp] theorem Call.work_disturbed (c : Call) : c.disturbed.work = c.work := by
  obtain ⟨thread, ricReqId, indData, phase⟩ := c
  cases phase <;> rfl

/-- What a loop has left to do with the events in its hands. -/
def Loop.work : Loop → Nat
  | .serving _ rest => 3 * rest.length + 3
  | .consuming rest _ => 3 * rest.length + 1
  | .waiting | .returned _ | .exited _ => 0

/-- A loop that waits has nothing left to do. -/
@[simp] theorem Loop.work_waiting : Loop.waiting.work = 0 := rfl

@[simp] theorem Loop.work_consuming (rest : List AindEvent) (sent : Bool) :
    (Loop.consuming rest sent).work = 3 * rest.length + 1 := rfl

@[simp] theorem Loop.work_exited (rest : List AindEvent) : (Loop.exited rest).work = 0 := rfl

/-- Three steps for each event. -/
@[simp] theorem Loop.work_next (evs : List AindEvent) : (Loop.next evs).work = 3 * evs.length := by
  cases evs <;> rfl

namespace AgentSys

variable {a a' : AgentSys} {e : AgentEvent}

/-- What an agent has left to do for the events given to it. -/
def work (a : AgentSys) : Nat :=
  (a.calls.map Call.work).sum + 4 * a.ag.aind.length + a.loop.work

/-- Steps elsewhere add nothing to do. -/
theorem work_same (hs : SameQueue a a') : a'.work = a.work := by
  rw [work, work, hs.calls, hs.aind, hs.loop]

/-- The end of a search is a step forward: the subscription is found, or a try is gone. -/
theorem work_look {k : Nat} (hs : a.step (.look k) = .next a') : a'.work < a.work := by
  obtain ⟨c, tries, stale, hc, hphase, hl⟩ := step_look hs
  have hwork : c.work = 2 * (10 - tries) + 7 := by simp [Call.work, hphase]
  obtain ⟨-, ⟨ev, -, rfl⟩ | ⟨-, htries, rfl⟩⟩ := look_eq_next hl
  · have hsum := sum_map_set_add (f := Call.work)
      (b := { c with phase := .found ⟨ev.ricId, ev.sm, ev.actionId, c.indData⟩ }) hc
    simp only [work, Call.work] at hsum hwork ⊢
    omega
  · have hsum := sum_map_set_add (f := Call.work) (b := { c with phase := .looking (tries + 1) }) hc
    simp only [work, Call.work] at hsum hwork ⊢
    omega

/-- **A step on the way of an event leaves less to do**, and no other step but a new call more. -/
theorem work_step (hs : a.step e = .next a') (hcall : ∀ thread id d, e ≠ .call thread id d) :
    a'.work ≤ a.work ∧ (Aperiodic e → a'.work < a.work) := by
  have hless (h : a'.work < a.work) : a'.work ≤ a.work ∧ (Aperiodic e → a'.work < a.work) :=
    ⟨Nat.le_of_lt h, fun _ => h⟩
  cases queue_cases hs with
  | called thread ricReqId indData event eq => exact absurd event (hcall _ _ _)
  | locked k c tries event call was eq =>
    subst eq
    have hsum := sum_map_set_add (f := Call.work)
      (b := { c with phase := .searching tries false }) call
    refine hless ?_
    simp only [work, Call.work, was] at hsum ⊢
    omega
  | looked k c tries phase event call was new eq =>
    clear eq
    subst event
    exact hless (work_look hs)
  | pushed k c ev event call was eq =>
    subst eq
    have hsum := sum_map_set_add (f := Call.work) (b := { c with phase := .writing }) call
    refine hless ?_
    simp only [work, Call.work, was, List.length_append, List.length_singleton] at hsum ⊢
    omega
  | written k c event call was eq =>
    subst eq
    have hsum := sum_map_eraseIdx_add (f := Call.work) call
    refine hless ?_
    simp only [work, Call.work, was] at hsum ⊢
    omega
  | woken event was edge readable nonempty eq =>
    subst eq
    refine hless ?_
    have hpos := List.length_pos_iff.mpr nonempty
    simp only [work, was, Loop.work_next, Loop.work_waiting, List.length_nil]
    omega
  | served ev rest value event was eq =>
    subst eq
    refine hless ?_
    unfold serve
    split <;> simp only [work, was, Loop.work] <;> omega
  | consumed rest sent event was readable eq =>
    subst eq
    refine hless ?_
    cases sent <;> simp [work, was]
  | disturbed id picks event same =>
    have hsame : a'.work = a.work := by
      rw [work_same same]
      simp [work, Function.comp_def]
    exact ⟨Nat.le_of_eq hsame, fun haper => (event ▸ haper : Aperiodic (.subscriptionDelete _ _)).elim⟩
  | quiet same other => exact ⟨Nat.le_of_eq (work_same same), fun haper => absurd haper other⟩

/-! ## A loop with something to do -/

/-- A loop that waits with events in its queue is told so by the pipe, or by a call that is about
to write to it; one that has woken up finds something to read, and ends the process then. -/
structure Told (a : AgentSys) : Prop where
  pos : ∀ d ∈ a.pipe, 0 < d
  loop : match a.loop with
    | .waiting => (a.edge = false → a.pipe = []) ∧
        (a.ag.aind ≠ [] → a.pipe ≠ [] ∨ 0 < writers a.calls)
    | .serving _ _ => a.pipe ≠ []
    | .consuming _ sent => sent = true ∧ a.pipe ≠ []
    | .returned _ => False
    | .exited _ => True

/-- At the start the loop waits, with nothing in the queue. -/
theorem Told.init (cfg : AgentConfig) : Told (.init cfg) :=
  ⟨nofun, fun _ => rfl, fun h => absurd rfl h⟩

/-- A step elsewhere keeps the loop told of what is there. -/
theorem Told.same (h : Told a) (hs : SameQueue a a') : Told a' := by
  refine ⟨by rw [hs.pipe]; exact h.pos, ?_⟩
  rw [hs.loop, hs.edge, hs.pipe, hs.aind, hs.calls]
  exact h.loop

/-- As many calls write, or more. -/
theorem Told.calls (h : Told a) {calls : List Call} (hw : writers a.calls ≤ writers calls) :
    Told { a with calls } := by
  refine ⟨h.pos, ?_⟩
  have hloop := h.loop
  cases hcase : a.loop with
  | waiting =>
    rw [hcase] at hloop
    exact ⟨hloop.1, fun hne => (hloop.2 hne).imp id (Nat.lt_of_lt_of_le · hw)⟩
  | _ =>
    rw [hcase] at hloop
    exact hloop

/-- A call that does not write before the step writes after it, or not. -/
theorem writers_set_le {calls : List Call} {k : Nat} {c : Call} (c' : Call)
    (hc : calls[k]? = some c) (hnot : c.phase ≠ .writing) :
    writers calls ≤ writers (calls.set k c') := by
  have hset := writers_set c' hc
  rw [if_neg hnot] at hset
  omega

/-- A read leaves no notification of no bytes. -/
theorem pos_readBytes {n : Nat} {pipe : List Nat} (hpos : ∀ d ∈ pipe, 0 < d) :
    ∀ d ∈ readBytes n pipe, 0 < d := by
  induction pipe generalizing n with
  | nil => exact nofun
  | cons x xs ih =>
    have hrest : ∀ d ∈ xs, 0 < d := fun d hd => hpos d (List.mem_cons_of_mem x hd)
    intro d hd
    rw [readBytes] at hd
    split at hd
    · exact ih hrest d hd
    · obtain rfl | hd := List.mem_cons.mp hd
      · omega
      · exact hrest d hd

/-- The event in the loop's hands has data and is for RC, which always has something to send. -/
theorem Told.step (h : Told a) (hs : a.step e = .next a') (hadm : a.admits e = true)
    (hrc : ∀ ev ∈ a.loop.inHand, ev.sm = smRcId ∧ ev.indData ≠ none) : Told a' := by
  cases queue_cases hs with
  | called thread ricReqId indData event eq =>
    subst event
    cases hadm
  | locked k c tries event call was eq =>
    subst eq
    exact h.calls (writers_set_le _ call (by simp [was]))
  | looked k c tries phase event call was new eq =>
    subst eq
    exact h.calls (writers_set_le _ call (by simp [was]))
  | pushed k c ev event call was eq =>
    subst eq
    have hset := writers_set { c with phase := .writing } call
    rw [if_neg (by simp [was]), if_pos rfl] at hset
    have hloop := h.loop
    refine ⟨h.pos, ?_⟩
    cases hcase : a.loop with
    | waiting =>
      rw [hcase] at hloop
      exact ⟨hloop.1, fun _ => .inr (by simp only; omega)⟩
    | _ =>
      rw [hcase] at hloop
      exact hloop
  | written k c event call was eq =>
    subst eq
    refine ⟨fun d hd => ?_, ?_⟩
    · obtain hd | hd := List.mem_append.mp hd
      · exact h.pos d hd
      · exact List.mem_singleton.mp hd ▸ notificationLen_pos _
    · have hloop := h.loop
      have hne : a.pipe ++ [notificationLen c.ricReqId] ≠ [] := by simp
      cases hcase : a.loop with
      | waiting => exact ⟨nofun, fun _ => .inl hne⟩
      | serving ev rest => exact hne
      | consuming rest sent =>
        rw [hcase] at hloop
        exact ⟨hloop.1, hne⟩
      | returned rest =>
        rw [hcase] at hloop
        exact hloop
      | exited rest => trivial
  | woken event was edge readable nonempty eq =>
    subst eq
    refine ⟨h.pos, ?_⟩
    have hpipe : a.pipe ≠ [] := by
      intro hnil
      simp [hnil] at readable
    obtain ⟨ev, rest, haind⟩ := List.exists_cons_of_ne_nil nonempty
    simp only [haind]
    exact hpipe
  | served ev rest value event was eq =>
    subst event eq
    have hloop := h.loop
    rw [was] at hloop
    rw [was] at hrc
    obtain ⟨hsm, hdata⟩ := hrc ev List.mem_cons_self
    obtain rfl : value = true := by simpa [admits, was, hsm] using hadm
    rw [serve, if_neg hdata]
    exact ⟨h.pos, rfl, hloop⟩
  | consumed rest sent event was readable eq =>
    subst eq
    have hloop := h.loop
    rw [was] at hloop
    rw [if_pos hloop.1]
    exact ⟨pos_readBytes h.pos, trivial⟩
  | disturbed id picks event same =>
    have hcalls : Told { a with calls := a.calls.map Call.disturbed } :=
      h.calls (Nat.le_of_eq writers_disturbed.symm)
    exact hcalls.same same
  | quiet same other => exact h.same same

/-! ## Steps that are there to take -/

/-- A loop that has been told has a step. -/
theorem Told.loop_goes (h : Told a) (hread : a.pipe ≠ []) (hnot : a.loop.hasExited = false) :
    ∃ e, Aperiodic e ∧ a.admits e = true ∧ a.step e ≠ .blocked := by
  have hloop := h.loop
  have hsum := sum_pos_of_ne_nil h.pos hread
  cases hcase : a.loop with
  | waiting =>
    rw [hcase] at hloop
    have hedge : a.edge = true := by
      rw [← Bool.not_eq_false]
      exact fun hf => hread (hloop.1 hf)
    refine ⟨.wake, trivial, rfl, ?_⟩
    by_cases hnil : a.ag.aind = [] <;>
      simp [AgentSys.step, hcase, hedge, hsum, hnil, Outcome.await, Outcome.assert]
  | serving ev rest => exact ⟨.serve true, trivial, rfl, by simp [AgentSys.step, hcase]⟩
  | consuming rest sent =>
    refine ⟨.consume, trivial, rfl, ?_⟩
    by_cases hone : min 4 a.pipe.sum = 1 <;>
      simp [AgentSys.step, hcase, consume, hsum, hone, Outcome.await, Outcome.assert]
  | returned rest =>
    rw [hcase] at hloop
    exact hloop.elim
  | exited rest =>
    rw [hcase] at hnot
    cases hnot

/-- An agent that was given an event can go on: its loop, or the call that is about to tell it. -/
theorem Told.handed_goes (h : Told a) (hne : a.handed ≠ []) (hnot : a.loop.hasExited = false) :
    ∃ e, Aperiodic e ∧ a.admits e = true ∧ a.step e ≠ .blocked := by
  by_cases hread : a.pipe = []
  · have hloop := h.loop
    have hwriters : 0 < writers a.calls := by
      cases hcase : a.loop with
      | waiting =>
        rw [hcase] at hloop
        have haind : a.ag.aind ≠ [] := by
          intro hnil
          simp [handed, hcase, hnil] at hne
        exact (hloop.2 haind).resolve_left fun hpipe => hpipe hread
      | serving ev rest =>
        rw [hcase] at hloop
        exact absurd hread hloop
      | consuming rest sent =>
        rw [hcase] at hloop
        exact absurd hread hloop.2
      | returned rest =>
        rw [hcase] at hloop
        exact hloop.elim
      | exited rest =>
        rw [hcase] at hnot
        cases hnot
    obtain ⟨k, hk⟩ := write_of_writers hnot hread hwriters
    exact ⟨.write k, trivial, rfl, hk⟩
  · exact h.loop_goes hread hnot

/-- The only call of an agent has a step, or, with the pipe full, its loop has. -/
theorem Told.call_goes (h : Told a) {x : Call} (hx : a.calls = [x])
    (hnot : a.loop.hasExited = false) :
    ∃ e, Aperiodic e ∧ a.admits e = true ∧ a.step e ≠ .blocked := by
  obtain ⟨thread, ricReqId, indData, phase⟩ := x
  cases phase with
  | looking tries =>
    refine ⟨.lock 0, trivial, rfl, ?_⟩
    simp [AgentSys.step, hx, hnot, searching, Call.searching, Outcome.await]
  | searching tries stale =>
    refine ⟨.look 0, trivial, rfl, ?_⟩
    cases stale with
    | true => simp [AgentSys.step, look, hx, hnot, Outcome.await, Outcome.assert]
    | false =>
      cases hfind : a.ag.findRicReqId ricReqId with
      | some ev => simp [AgentSys.step, look, hx, hnot, hfind, Outcome.await, Outcome.assert]
      | none =>
        by_cases htries : tries + 1 < 10 <;>
          simp [AgentSys.step, look, hx, hnot, hfind, htries, Outcome.await, Outcome.assert]
  | found ev =>
    exact ⟨.push 0, trivial, rfl, by simp [AgentSys.step, hx, hnot, Outcome.await]⟩
  | writing =>
    by_cases hroom : a.pipe.sum + notificationLen ricReqId ≤ pipeCapacity
    · exact ⟨.write 0, trivial, rfl, by simp [AgentSys.step, hx, hnot, hroom, Outcome.await]⟩
    · refine h.loop_goes (fun hnil => hroom ?_) hnot
      rw [hnil]
      exact Nat.le_trans (Nat.le_of_eq (Nat.zero_add _))
        (Nat.le_trans (notificationLen_le ricReqId) (by decide))

/-- A call stays with its agent until it writes. -/
theorem calls_ne_nil (hs : a.step e = .next a') (hwrite : ∀ k, e ≠ .write k)
    (hne : a.calls ≠ []) : a'.calls ≠ [] := by
  cases queue_cases hs with
  | called thread ricReqId indData event eq => simp [eq]
  | locked k c tries event call was eq => simpa [eq] using hne
  | looked k c tries phase event call was new eq => simpa [eq] using hne
  | pushed k c ev event call was eq => simpa [eq] using hne
  | written k c event call was eq => exact absurd event (hwrite k)
  | woken event was edge readable nonempty eq => simpa [eq] using hne
  | served ev rest value event was eq =>
    rw [eq]
    unfold serve
    split <;> exact hne
  | consumed rest sent event was readable eq => simpa [eq] using hne
  | disturbed id picks event same => simpa [same.calls] using hne
  | quiet same other => rwa [same.calls]

end AgentSys

/-! ## All runs -/

/-- What `async_event_agent_api` has left to do, of `n` agents: what a call of each of them has. -/
def EventCall.work (n : Nat) (c : EventCall) : Nat :=
  if c.inside then 40 * (n - (c.idx + 1)) + 2 else 40 * (n - c.idx) + 1

namespace RicAgents

open AgentSys (AgentEvent)

variable {s s' : RicAgents} {a a' : AgentSys} {i : Nat} {e : RicEvent}

/-- The steps on the way of an event, of `async_event_agent_api` and of the agents. -/
def Furthers : RicEvent → Prop
  | .advance => True
  | .agent _ e => AgentSys.Aperiodic e
  | _ => False

/-- What is left to do for the events raised. -/
def work (s : RicAgents) : Nat :=
  (s.agents.map AgentSys.work).sum + (s.call.map (EventCall.work s.agents.length)).getD 0

/-- **What an event produces**: it waits, or it has got one indication, of a subscription with its
`ric_req_id` that the RIC it went to has made, and its data is freed once; in the end none waits,
and no search ends the process.  While one waits, a call or a loop can take a step, and there are
no more such steps than the work says until a new event is raised. -/
structure OneIndication (s : RicAgents) : Prop where
  events : ∀ d id, s.raised[d]? = some id →
    (s.sentFor d = [] ∧ s.freed.count d = 0 ∧ s.Waits d) ∨
      ∃ x, s.sentFor d = [x] ∧ s.freed.count d = 1 ∧ x.ind.ricId.ricReqId = id ∧
        s.Made x.agent x.ind.ricId x.ind.actionId
  only : ∀ x ∈ s.sent, ∃ d < s.raised.length, x.indData = some d
  ended : s.exited = true → ∀ d < s.raised.length, s.sentFor d ≠ []
  noAbort : ∀ i k, s.EventCond (.agent i (.look k)) → ¬ (s.step (.agent i (.look k))).Aborts
  goesOn : ∀ d, s.Waits d → s.exited = false → ∃ e, Furthers e ∧ s.step e ≠ .blocked
  less : ∀ e s', s.step e = .next s' → Furthers e → s'.work < s.work
  noMore : ∀ e s', s.step e = .next s' → (∀ thread id, e ≠ .raise thread id) → s'.work ≤ s.work

/-- A call's next write leaves it less to do. -/
theorem work_next (n : Nat) (c : EventCall) : c.next.work n ≤ c.work n := by
  obtain ⟨thread, ricReqId, indData, idx, inside⟩ := c
  cases inside with
  | false =>
    simp [EventCall.work, EventCall.next]
    omega
  | true => simp [EventCall.work, EventCall.next]

/-- The step of an agent counts for the process as it does for the agent. -/
theorem work_agent {f : AgentEvent} (ha : s.agents[i]? = some a) :
    ({ s with agents := s.agents.set i a' }.report i a a' f).work + a.work ≤ s.work + a'.work := by
  obtain ⟨hagents, -, -⟩ := @report_agents { s with agents := s.agents.set i a' } a a' i f
  have hsum := sum_map_set_add (f := AgentSys.work) (b := a') ha
  have hcall : (({ s with agents := s.agents.set i a' }.report i a a' f).call.map
      (EventCall.work s.agents.length)).getD 0 ≤
        (s.call.map (EventCall.work s.agents.length)).getD 0 := by
    obtain heq | ⟨-, heq⟩ := @report_call { s with agents := s.agents.set i a' } a a' i f
    · rw [heq]
    · rw [heq]
      cases s.call with
      | none => exact Nat.le_refl _
      | some c => exact work_next _ c
  simp only [work, hagents, List.length_set]
  omega

/-- **Only a new event makes the work more**, and each step on the way of one makes it less. -/
theorem work_step (hs : s.step e = .next s') :
    ((∀ thread id, e ≠ .raise thread id) → s'.work ≤ s.work) ∧ (Furthers e → s'.work < s.work) := by
  cases e with
  | start cfg =>
    simp only [step, Outcome.bind_eq_next, Outcome.await_eq_next, Outcome.pure_eq,
      Outcome.next_inj, Bool.and_eq_true, Option.isNone_iff_eq_none] at hs
    obtain ⟨⟨⟩, ⟨⟨-, hnone⟩, -⟩, ⟨⟩, -, rfl⟩ := hs
    refine ⟨fun _ => ?_, False.elim⟩
    simp [work, hnone, AgentSys.work, AgentSys.init]
  | raise thread ricReqId => exact ⟨fun h => absurd rfl (h thread ricReqId), False.elim⟩
  | advance =>
    simp only [step, Outcome.bind_eq_next, Outcome.await_eq_next, Outcome.awaitSome_eq_next,
      Bool.not_eq_true'] at hs
    obtain ⟨⟨⟩, -, c, hcc, ⟨⟩, hinside, hs⟩ := hs
    suffices hless : s'.work < s.work from ⟨fun _ => Nat.le_of_lt hless, fun _ => hless⟩
    have hwork : s.work = (s.agents.map AgentSys.work).sum + (40 * (s.agents.length - c.idx) + 1) := by
      simp [work, hcc, EventCall.work, hinside]
    rw [hwork]
    split at hs
    · cases hs
      simp only [work, Option.map_none, Option.getD_none]
      omega
    · rename_i a ha
      have hlt := (List.getElem?_eq_some_iff.mp ha).1
      split at hs
      · simp only [AgentSys.step, Outcome.bind_eq_next, Outcome.pure_eq, Outcome.next_inj] at hs
        obtain ⟨a', ⟨⟨⟩, -, rfl⟩, rfl⟩ := hs
        have hsum := sum_map_set_add (f := AgentSys.work)
          (b := { a with calls := a.calls ++ [⟨c.thread, c.ricReqId, some c.indData, .looking 0⟩] }) ha
        simp [work, EventCall.work, AgentSys.work, Call.work] at hsum ⊢
        omega
      · cases hs
        simp [work, EventCall.work, EventCall.next]
        omega
  | agent i f =>
    simp only [step, Outcome.bind_eq_next, Outcome.await_eq_next, Outcome.awaitSome_eq_next,
      Outcome.pure_eq, Outcome.next_inj] at hs
    obtain ⟨⟨⟩, -, a, ha, ⟨⟩, hadm, a', hs, rfl⟩ := hs
    have hcall : ∀ thread id d, f ≠ .call thread id d := by
      rintro thread id d rfl
      cases hadm
    have hagent := @work_agent s a a' i f ha
    obtain ⟨hle, hlt⟩ := AgentSys.work_step hs hcall
    exact ⟨fun _ => by omega, fun hf => by have := hlt hf; omega⟩

/-- Every loop with something to do has been told, and a call that is inside an agent is one of the
agent's. -/
structure Going (s : RicAgents) : Prop where
  told : ∀ a ∈ s.agents, a.Told
  entered : ∀ c ∈ s.call, c.inside = true → ∃ a, s.agents[c.idx]? = some a ∧ a.calls ≠ []

/-- What the loop has in its hands has data and is for RC. -/
theorem AgentOk.inHand (h : s.AgentOk i a) :
    ∀ ev ∈ a.loop.inHand, ev.sm = smRcId ∧ ev.indData ≠ none := by
  intro ev hev
  obtain ⟨hsm, -, d, hd, -⟩ := h.waiting ev (AgentSys.mem_awaiting.mpr (.inr (.inl hev)))
  exact ⟨hsm, by simp [hd]⟩

/-- An agent's step keeps the process going. -/
theorem Going.agent {f : AgentEvent} (h : Going s) (hids : Ids s) (ha : s.agents[i]? = some a)
    (hadm : a.admits f = true) (hs : a.step f = .next a') :
    Going ({ s with agents := s.agents.set i a' }.report i a a' f) := by
  obtain ⟨hagents, -, -⟩ := @report_agents { s with agents := s.agents.set i a' } a a' i f
  have hcall := @report_call { s with agents := s.agents.set i a' } a a' i f
  refine ⟨fun b hb => ?_, fun c hc hinside => ?_⟩
  · rw [hagents] at hb
    obtain hb | rfl := List.mem_or_eq_of_mem_set hb
    · exact h.told b hb
    · exact (h.told a (List.mem_of_getElem? ha)).step hs hadm (hids.agents i a ha).inHand
  · by_cases hwrite : ∃ k, f = .write k
    · -- the call has left the agent
      obtain ⟨k, rfl⟩ := hwrite
      obtain ⟨c', -, rfl⟩ := Option.map_eq_some_iff.mp (show s.call.map EventCall.next = some c from hc)
      cases hinside
    · rw [hcall.resolve_right fun hk => hwrite hk.1] at hc
      rw [hagents]
      obtain ⟨b, hb, hne⟩ := h.entered c hc hinside
      by_cases hidx : c.idx = i
      · subst hidx
        obtain rfl := Option.some.inj (ha.symm.trans hb)
        refine ⟨a', List.getElem?_set_self (List.getElem?_eq_some_iff.mp ha).1, ?_⟩
        exact AgentSys.calls_ne_nil hs (fun k hk => hwrite ⟨k, hk⟩) hne
      · exact ⟨b, by rw [List.getElem?_set_ne (Ne.symm hidx)]; exact hb, hne⟩

/-- **Every step of the process keeps it going.** -/
theorem Going.step (h : Going s) (hids : Ids s) (hs : s.step e = .next s') : Going s' := by
  cases e with
  | start cfg =>
    simp only [RicAgents.step, Outcome.bind_eq_next, Outcome.await_eq_next, Outcome.pure_eq,
      Outcome.next_inj, Bool.and_eq_true, Option.isNone_iff_eq_none] at hs
    obtain ⟨⟨⟩, ⟨⟨-, hnone⟩, -⟩, ⟨⟩, -, rfl⟩ := hs
    refine ⟨fun b hb => ?_, by simp [hnone]⟩
    obtain hb | hb := List.mem_append.mp hb
    · exact h.told b hb
    · exact List.mem_singleton.mp hb ▸ .init cfg
  | raise thread ricReqId =>
    simp only [RicAgents.step, Outcome.bind_eq_next, Outcome.await_eq_next, Outcome.pure_eq,
      Outcome.next_inj] at hs
    obtain ⟨⟨⟩, -, rfl⟩ := hs
    exact ⟨h.told, by simp⟩
  | advance =>
    simp only [RicAgents.step, Outcome.bind_eq_next, Outcome.await_eq_next,
      Outcome.awaitSome_eq_next] at hs
    obtain ⟨⟨⟩, -, c, hcc, ⟨⟩, -, hs⟩ := hs
    split at hs
    · cases hs
      exact ⟨h.told, by simp⟩
    · rename_i a ha
      split at hs
      · simp only [AgentSys.step, Outcome.bind_eq_next, Outcome.pure_eq, Outcome.next_inj] at hs
        obtain ⟨a', ⟨⟨⟩, -, rfl⟩, rfl⟩ := hs
        refine ⟨fun b hb => ?_, fun c' hc' _ => ?_⟩
        · obtain hb | rfl := List.mem_or_eq_of_mem_set hb
          · exact h.told b hb
          · refine (h.told a (List.mem_of_getElem? ha)).calls ?_
            simp [AgentSys.writers]
        · cases hc'
          refine ⟨_, List.getElem?_set_self (List.getElem?_eq_some_iff.mp ha).1, ?_⟩
          simp
      · cases hs
        exact ⟨h.told, by simp [EventCall.next]⟩
  | agent i f =>
    simp only [RicAgents.step, Outcome.bind_eq_next, Outcome.await_eq_next,
      Outcome.awaitSome_eq_next, Outcome.pure_eq, Outcome.next_inj] at hs
    obtain ⟨⟨⟩, -, a, ha, ⟨⟩, hadm, a', hs, rfl⟩ := hs
    exact h.agent hids ha hadm hs

/-- The process keeps going in every run under the condition. -/
theorem going (h : ricAgentsMachine.ReachedBy EventCond s) : Going s := by
  have h0 : Going .init := ⟨nofun, nofun⟩
  refine (h.invariant (P := fun s => (Ids s ∧ Once s) ∧ Going s) ⟨runOk .init, h0⟩ ?_).2
  exact fun _ _ _ _ hp hc hs => ⟨runOk_step hp.1.1 hp.1.2 hc hs, hp.2.step hp.1.1 hs⟩

/-- A step that the agent can take is one of the process. -/
theorem step_agent_ne_blocked {f : AgentEvent} (hex : s.exited = false)
    (ha : s.agents[i]? = some a) (hadm : a.admits f = true) (hf : a.step f ≠ .blocked) :
    s.step (.agent i f) ≠ .blocked := by
  cases hs : a.step f with
  | blocked => exact absurd hs hf
  | next a' => simp [RicAgents.step, hex, ha, hadm, hs, Outcome.await, Outcome.awaitSome]
  | abort => simp [RicAgents.step, hex, ha, hadm, hs, Outcome.await, Outcome.awaitSome]

/-- **While an event waits, a call or a loop can take a step.** -/
theorem Going.goesOn (h : Going s) (hids : Ids s) {d : Nat} (hw : s.Waits d)
    (hex : s.exited = false) : ∃ e, Furthers e ∧ s.step e ≠ .blocked := by
  have hagent {i : Nat} {a : AgentSys} (ha : s.agents[i]? = some a)
      (hgoes : ∃ f, AgentSys.Aperiodic f ∧ a.admits f = true ∧ a.step f ≠ .blocked) :
      ∃ e, Furthers e ∧ s.step e ≠ .blocked := by
    obtain ⟨f, hf, hadm, hstep⟩ := hgoes
    exact ⟨.agent i f, hf, step_agent_ne_blocked hex ha hadm hstep⟩
  obtain hcalling | ⟨a, ha, had⟩ := hw
  · obtain ⟨c, hcc, -⟩ := Option.map_eq_some_iff.mp hcalling
    cases hinside : c.inside with
    | false =>
      refine ⟨.advance, trivial, ?_⟩
      cases ha : s.agents[c.idx]? with
      | none => simp [RicAgents.step, hex, hcc, hinside, ha, Outcome.await, Outcome.awaitSome]
      | some a =>
        have hnot := not_exited hex ha
        have hnil : a.calls = [] := hids.calls_nil (fun c' hc' hinside' => by
          cases hcc.symm.trans hc'
          exact absurd hinside' (ne_true_of_eq_false hinside)) ha
        cases hact : a.active with
        | false =>
          simp [RicAgents.step, hex, hcc, hinside, ha, hact, Outcome.await, Outcome.awaitSome]
        | true =>
          simp [RicAgents.step, AgentSys.step, hex, hcc, hinside, ha, hact, hnot, hnil,
            Outcome.await, Outcome.awaitSome]
    | true =>
      obtain ⟨a, ha, hne⟩ := h.entered c hcc hinside
      obtain ⟨x, hx⟩ := List.length_eq_one_iff.mp
        (Nat.le_antisymm (hids.agents _ a ha).one (List.length_pos_iff.mpr hne))
      exact hagent ha ((h.told a (List.mem_of_getElem? ha)).call_goes hx (not_exited hex ha))
  · obtain ⟨i, ha'⟩ := List.getElem?_of_mem ha
    exact hagent ha' ((h.told a ha).handed_goes (List.ne_nil_of_mem had) (not_exited hex ha'))

/-- What the invariants say of a run is one indication for each event. -/
theorem oneIndication_of_runOk (hids : Ids s) (honce : Once s) (hgoing : Going s) :
    OneIndication s := by
  refine ⟨fun d id hid => ?_, fun x hx => ?_, fun hex d hd => ?_, fun i k hc => ?_,
    fun d hw hex => ?_, fun _ _ hs hf => (work_step hs).2 hf, fun _ _ hs hr => (work_step hs).1 hr⟩
  · by_cases hsent : ∃ x ∈ s.sent, x.indData = some d
    · obtain ⟨x, hx, hxd⟩ := hsent
      obtain ⟨hmade, d', hd', hid'⟩ := hids.sent x hx
      cases hxd.symm.trans hd'
      have hone := honce.sent_once hx hxd
      refine .inr ⟨x, hone, by rw [honce.count_freed, hone]; rfl, ?_, hmade⟩
      exact Option.some.inj (hid'.symm.trans hid)
    · have hnone : s.sentFor d = [] := List.filter_eq_nil_iff.mpr fun x hx hxd =>
        hsent ⟨x, hx, by simpa using hxd⟩
      refine .inl ⟨hnone, by rw [honce.count_freed, hnone]; rfl, ?_⟩
      obtain hgiven | hcalling := honce.all d (List.getElem?_eq_some_iff.mp hid).1
      · exact .inr ((mem_given.mp hgiven).resolve_left hsent)
      · exact .inl hcalling
  · obtain ⟨-, d, hd, hid⟩ := hids.sent x hx
    exact ⟨d, (List.getElem?_eq_some_iff.mp hid).1, hd⟩
  · obtain ⟨hempty, hcalling⟩ := honce.idle hex
    have hgiven : some d ∈ s.given := (honce.all d hd).elim id (hcalling d)
    obtain ⟨x, hx, hxd⟩ | ⟨a, ha, had⟩ := mem_given.mp hgiven
    · rw [honce.sent_once hx hxd]
      exact List.cons_ne_nil _ _
    · rw [hempty a ha] at had
      cases had
  · simp only [step, Outcome.bind_aborts, Outcome.await_not_aborts,
      Outcome.awaitSome_not_aborts, false_or]
    rintro ⟨⟨⟩, -, a, ha, ⟨⟩, -, habort | ⟨a', -, habort⟩⟩
    · exact AgentSys.look_not_aborts (hc a (Outcome.awaitSome_eq_next.mp ha)) habort
    · exact Outcome.next_not_aborts habort
  · exact hgoing.goesOn hids hw hex

/-- Two RICs that chose the same id, and an event for it: both agents serve it before the first has
ended the process. -/
def sameId : List RicEvent :=
  [.start .local, .start { AgentConfig.local with
      initRicAddr := "127.0.0.2", ricAddrs := ["127.0.0.2"], known := List.mem_singleton.mpr rfl },
    .agent 0 (.subscription ⟨⟨1021, 0, 3⟩, [⟨0, .report⟩]⟩ .aperiodic 0),
    .agent 1 (.subscription ⟨⟨1021, 0, 3⟩, [⟨0, .report⟩]⟩ .aperiodic 0),
    .raise 1 1021,
    .advance, .agent 0 (.lock 0), .agent 0 (.look 0), .agent 0 (.push 0), .agent 0 (.write 0),
    .advance, .agent 1 (.lock 0), .agent 1 (.look 0), .agent 1 (.push 0), .agent 1 (.write 0),
    .agent 0 .wake, .agent 0 (.serve true), .agent 1 .wake, .agent 1 (.serve true)]

end RicAgents

end FlexRic
