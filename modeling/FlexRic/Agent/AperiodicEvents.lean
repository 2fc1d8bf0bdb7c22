import FlexRic.Agent.System
import FlexRic.Lib.Count

/-!
# FlexRic.Agent.AperiodicEvents

The aperiodic events on their way from the RAN threads to the E2 interface:
a queue that hands over the events, and a pipe that tells the event loop to
look at it.

* `queueOk`: in every run the events are served in the order in which they
  were pushed, none is lost between the queue and the loop, and each one
  with something to send is sent once; the loop sends at most one, and then
  ends the process;
* `Aligned`: while each read of the pipe takes the notification of one event
  and nothing is sent, there are as many notifications as events, written or
  about to be;
* `aperiodic_events`: in such runs the loop never wakes up to an empty queue
  and never stops while an event is waiting.
-/

namespace FlexRic

namespace AgentSys

variable {cfg : AgentConfig} {s s' : AgentSys} {e : AgentEvent}

/-! ## What an event can do to the queue and to the pipe -/

/-- A step that brings an event further: one of the loop, or the
notification of a call. -/
def Delivery : AgentEvent → Prop
  | .write _ => True
  | .wake => True
  | .serve _ => True
  | .consume => True
  | _ => False

/-- A step on the way of an aperiodic event. -/
def Aperiodic : AgentEvent → Prop
  | .call _ _ _ => True
  | .lock _ => True
  | .look _ => True
  | .push _ => True
  | e => Delivery e

/-- The queue, the pipe, the loop and the calls are as before. -/
structure SameQueue (s s' : AgentSys) : Prop where
  aind : s'.ag.aind = s.ag.aind
  pipe : s'.pipe = s.pipe
  edge : s'.edge = s.edge
  loop : s'.loop = s.loop
  calls : s'.calls = s.calls
  pushed : s'.pushed = s.pushed
  served : s'.served = s.served
  sentAind : s'.sentAind = s.sentAind

/-- What one event can do to them. -/
inductive QueueEffect (s : AgentSys) (e : AgentEvent) (s' : AgentSys) : Prop
  | called (thread : Nat) (ricReqId : UInt32) (indData : Option Nat)
      (event : e = .call thread ricReqId indData)
      (eq : s' = { s with calls := s.calls ++ [⟨thread, ricReqId, indData, .looking 0⟩] })
  | locked (k : Nat) (c : Call) (tries : Nat) (event : e = .lock k)
      (call : s.calls[k]? = some c) (was : c.phase = .looking tries)
      (eq : s' = { s with calls := s.calls.set k { c with phase := .searching tries false } })
  | looked (k : Nat) (c : Call) (tries : Nat) (phase : CallPhase) (event : e = .look k)
      (call : s.calls[k]? = some c) (was : c.phase = .searching tries false)
      (new : phase ≠ .writing) (eq : s' = { s with calls := s.calls.set k { c with phase } })
  | pushed (k : Nat) (c : Call) (ev : AindEvent) (event : e = .push k)
      (call : s.calls[k]? = some c) (was : c.phase = .found ev)
      (eq : s' =
        { s with
          ag.aind := s.ag.aind ++ [ev]
          calls := s.calls.set k { c with phase := .writing }
          pushed := s.pushed ++ [(c.thread, ev)] })
  | written (k : Nat) (c : Call) (event : e = .write k)
      (call : s.calls[k]? = some c) (was : c.phase = .writing)
      (eq : s' =
        { s with
          pipe := s.pipe ++ [notificationLen c.ricReqId]
          edge := true
          calls := s.calls.eraseIdx k })
  | woken (event : e = .wake) (was : s.loop = .waiting) (edge : s.edge = true)
      (readable : 0 < s.pipe.sum) (nonempty : s.ag.aind ≠ [])
      (eq : s' = { s with ag.aind := [], loop := .next s.ag.aind, edge := false })
  | served (ev : AindEvent) (rest : List AindEvent) (value : Bool) (event : e = .serve value)
      (was : s.loop = .serving ev rest) (eq : s' = s.serve ev rest value)
  | consumed (rest : List AindEvent) (sent : Bool) (event : e = .consume)
      (was : s.loop = .consuming rest sent) (readable : 0 < s.pipe.sum)
      (eq : s' =
        { s with pipe := readBytes 4 s.pipe, loop := if sent then .exited rest else .next rest })
  | disturbed (id : RicGenId) (picks : Picks) (event : e = .subscriptionDelete id picks)
      (same : SameQueue { s with calls := s.calls.map Call.disturbed } s')
  | quiet (same : SameQueue s s') (other : ¬ Aperiodic e)

end AgentSys

namespace E2Agent

variable {ag ag' : E2Agent}

/-- The queue of aperiodic events and the table of subscriptions are as before. -/
structure SameEvents (ag ag' : E2Agent) : Prop where
  aind : ag'.aind = ag.aind
  indEvent : ag'.indEvent = ag.indEvent

/-- What is not touched twice is not touched. -/
theorem SameEvents.trans {ag'' : E2Agent} (h : SameEvents ag ag') (h' : SameEvents ag' ag'') :
    SameEvents ag ag'' :=
  ⟨h'.aind.trans h.aind, h'.indEvent.trans h.indEvent⟩

/-- Closing a descriptor leaves the queue and the pipe alone. -/
theorem close_sameEvents (fd : Fd) : SameEvents ag (ag.close fd) := by
  unfold close
  split <;> exact ⟨rfl, rfl⟩

/-- Closing several descriptors leaves the queue and the pipe alone. -/
theorem foldl_close_sameEvents (fds : List Fd) : SameEvents ag (fds.foldl close ag) := by
  induction fds generalizing ag with
  | nil => exact ⟨rfl, rfl⟩
  | cons fd fds ih =>
    rw [List.foldl_cons]
    exact (close_sameEvents fd).trans ih

/-- An expired setup timer leaves the queue and the pipe alone. -/
theorem handlePendingEvent_sameEvents {newTimer : Fd} {encodes : Bool}
    (h : ag.handlePendingEvent newTimer encodes = .next ag') : SameEvents ag ag' := by
  unfold handlePendingEvent at h
  split at h
  · simp only [Outcome.bind_eq_next, Outcome.pure_eq, Outcome.next_inj] at h
    obtain ⟨ag₁, harm, rfl⟩ := h
    obtain ⟨-, -, rfl⟩ := armSetupTimer_eq_next harm
    have hclosed : SameEvents ag ((ag.pending.left.map Prod.fst).foldl close ag) :=
      foldl_close_sameEvents _
    cases encodes with
    | true => exact ⟨hclosed.aind, hclosed.indEvent⟩
    | false =>
      refine SameEvents.trans ⟨hclosed.aind, hclosed.indEvent⟩ ?_
      exact ⟨(close_sameEvents newTimer).aind, (close_sameEvents newTimer).indEvent⟩
  · cases h
    exact ⟨rfl, rfl⟩

/-- The setup response leaves the queue and the pipe alone. -/
theorem handleSetupResponse_sameEvents {picks : Picks}
    (h : ag.handleSetupResponse picks = .next ag') : SameEvents ag ag' := by
  simp only [handleSetupResponse, stopPendingEvent, Outcome.bind_eq_next, Outcome.pure_eq,
    Outcome.next_inj] at h
  obtain ⟨ag₁, ⟨⟨fd, m⟩, -, ⟨⟩, -, hrm⟩, ⟨⟩, -, rfl⟩ := h
  obtain ⟨-, rfl⟩ := rmFd_eq_next hrm
  exact ⟨rfl, rfl⟩

end E2Agent

namespace AgentSys

variable {cfg : AgentConfig} {s s' : AgentSys} {e : AgentEvent}

/-- **The effect of an event on the queue and the pipe.** -/
theorem queue_cases (h : s.step e = .next s') : QueueEffect s e s' := by
  cases e with
  | subscription sr ans fd =>
    simp only [step, Outcome.bind_eq_next, Outcome.pure_eq, Outcome.next_inj] at h
    obtain ⟨⟨⟩, -, ⟨resp, ⟨key, ev⟩, ag⟩, hh, rfl⟩ := h
    obtain ⟨hreg, -, -⟩ := E2Agent.handleSubscriptionRequest_eq_next hh
    exact .quiet ⟨by rw [hreg.rest], rfl, rfl, rfl, rfl, rfl, rfl, rfl⟩ id
  | subscriptionDelete id picks =>
    simp only [step, E2Agent.handleSubscriptionDeleteRequest, Outcome.bind_eq_next,
      Outcome.pure_eq, Outcome.next_inj] at h
    obtain ⟨⟨⟩, -, ⟨resp, ag⟩, ⟨⟨found, ag₁⟩, hs, heq⟩, rfl⟩ := h
    cases heq
    have haind : ag₁.aind = s.ag.aind := by
      obtain ⟨-, rfl, -⟩ | ⟨-, key, hst⟩ := E2Agent.stopIndEvent_eq_next hs
      · rfl
      · rw [hst.rest]
    cases hfound : s.ag.hasIndEvent id with
    | true =>
      exact .disturbed id picks rfl
        ⟨haind, rfl, rfl, rfl, by simp [callsDuring, hfound], rfl, rfl, rfl⟩
    | false =>
      exact .quiet ⟨haind, rfl, rfl, rfl, by simp [callsDuring, hfound], rfl, rfl, rfl⟩ fun h => h
  | timer fd value newTimer encodes =>
    simp only [step, timerExpired, Outcome.bind_eq_next] at h
    obtain ⟨⟨⟩, -, h⟩ := h
    split at h
    · cases h
      exact .quiet (by constructor <;> rfl) id
    · simp only [Outcome.bind_eq_next, Outcome.pure_eq, Outcome.next_inj] at h
      obtain ⟨⟨⟩, -, ag, hh, rfl⟩ := h
      have haind := ((E2Agent.close_sameEvents _).trans (E2Agent.handlePendingEvent_sameEvents hh)).aind
      exact .quiet ⟨haind, rfl, rfl, rfl, rfl, rfl, rfl, rfl⟩ id
  | setupResponse picks =>
    simp only [step, Outcome.bind_eq_next, Outcome.pure_eq, Outcome.next_inj] at h
    obtain ⟨⟨⟩, -, ag, hh, rfl⟩ := h
    exact .quiet ⟨(E2Agent.handleSetupResponse_sameEvents hh).aind, rfl, rfl, rfl, rfl, rfl, rfl,
      rfl⟩ id
  | shutdown fdTimer =>
    simp only [step, Outcome.bind_eq_next, Outcome.pure_eq, Outcome.next_inj] at h
    obtain ⟨⟨⟩, -, ag, hh, rfl⟩ := h
    obtain ⟨-, -, rfl⟩ := E2Agent.armSetupTimer_eq_next hh
    exact .quiet (by constructor <;> rfl) id
  | call thread ricReqId indData =>
    simp only [step, Outcome.bind_eq_next, Outcome.pure_eq, Outcome.next_inj] at h
    obtain ⟨⟨⟩, -, rfl⟩ := h
    exact .called thread ricReqId indData rfl rfl
  | lock k =>
    simp only [step, Outcome.bind_eq_next] at h
    obtain ⟨⟨⟩, -, h⟩ := h
    split at h
    · rename_i tries hc
      cases h
      exact .locked k _ tries rfl hc rfl rfl
    · contradiction
  | look k =>
    simp only [step, Outcome.bind_eq_next] at h
    obtain ⟨⟨⟩, -, h⟩ := h
    split at h
    · rename_i tries stale hc
      obtain ⟨rfl, ⟨ev, -, rfl⟩ | ⟨-, -, rfl⟩⟩ := look_eq_next h
      · exact .looked k _ tries (.found _) rfl hc rfl (by simp) rfl
      · exact .looked k _ tries (.looking (tries + 1)) rfl hc rfl (by simp) rfl
    · contradiction
  | push k =>
    simp only [step, Outcome.bind_eq_next] at h
    obtain ⟨⟨⟩, -, h⟩ := h
    split at h
    · rename_i ev hc
      cases h
      exact .pushed k _ ev rfl hc rfl rfl
    · contradiction
  | write k =>
    simp only [step, Outcome.bind_eq_next] at h
    obtain ⟨⟨⟩, -, h⟩ := h
    split at h
    · rename_i hc
      simp only [Outcome.bind_eq_next, Outcome.pure_eq, Outcome.next_inj] at h
      obtain ⟨⟨⟩, -, rfl⟩ := h
      exact .written k _ rfl hc rfl rfl
    · contradiction
  | wake =>
    simp only [step, Outcome.bind_eq_next, Outcome.pure_eq, Outcome.next_inj,
      Outcome.await_eq_next, Outcome.assert_eq_next, Bool.and_eq_true, beq_iff_eq,
      decide_eq_true_eq, Bool.not_eq_true', List.isEmpty_eq_false_iff] at h
    obtain ⟨⟨⟩, ⟨⟨hloop, hedge⟩, hread⟩, ⟨⟩, hne, rfl⟩ := h
    exact .woken rfl hloop hedge hread hne rfl
  | serve value =>
    simp only [step] at h
    split at h
    · rename_i ev rest hloop
      cases h
      exact .served ev rest value rfl hloop rfl
    · contradiction
  | consume =>
    simp only [step] at h
    split at h
    · rename_i rest sent hloop
      obtain ⟨hread, -, rfl⟩ := consume_eq_next h
      exact .consumed rest sent rfl hloop hread rfl
    · contradiction

/-! ## All runs -/

/-- The events pushed are those served, in the loop's hands and in the
queue, in this order; each one served with something to send was sent once;
and the loop that has sent one is about to end or has ended. -/
structure QueueOk (s : AgentSys) : Prop where
  order : s.pushed.map Prod.snd = s.served.map Prod.fst ++ (s.loop.inHand ++ s.ag.aind)
  sent : s.sentAind = (s.served.filter Prod.snd).map fun x => generateAindication x.1
  once : s.sentAind.length = if s.loop.sends then 1 else 0

/-- **The queue at the start** is empty. -/
theorem QueueOk.init (cfg : AgentConfig) : QueueOk (.init cfg) := ⟨rfl, rfl, rfl⟩

/-- The invariant is about the queue and the loop alone. -/
theorem QueueOk.same (h : QueueOk s) (hs : SameQueue s s') : QueueOk s' := by
  refine ⟨?_, ?_, ?_⟩
  · rw [hs.pushed, hs.served, hs.loop, hs.aind]
    exact h.order
  · rw [hs.sentAind, hs.served]
    exact h.sent
  · rw [hs.sentAind, hs.loop]
    exact h.once

/-- **Every step keeps the queue in order**, with no condition on it. -/
theorem QueueOk.step (h : QueueOk s) (hs : s.step e = .next s') : QueueOk s' := by
  obtain ⟨horder, hsent, honce⟩ := h
  cases queue_cases hs with
  | called thread ricReqId indData event eq => exact eq ▸ ⟨horder, hsent, honce⟩
  | locked k c tries event call was eq => exact eq ▸ ⟨horder, hsent, honce⟩
  | looked k c tries phase event call was new eq => exact eq ▸ ⟨horder, hsent, honce⟩
  | pushed k c ev event call was eq =>
    subst eq
    refine ⟨?_, hsent, honce⟩
    simp [horder]
  | written k c event call was eq => exact eq ▸ ⟨horder, hsent, honce⟩
  | woken event was edge readable nonempty eq =>
    subst eq
    rw [was] at horder honce
    refine ⟨?_, hsent, ?_⟩
    · simpa using horder
    · rw [Loop.sends_next]
      exact honce
  | served ev rest value event was eq =>
    subst eq
    rw [was] at horder honce
    have hnone : s.sentAind = [] := List.length_eq_zero_iff.mp honce
    unfold serve
    split
    · exact ⟨horder, hsent, honce⟩
    · refine ⟨?_, ?_, ?_⟩
      · simpa using horder
      · cases value with
        | false => simpa using hsent
        | true => simp [hsent]
      · cases value with
        | false => exact honce
        | true => simp [hnone]
  | consumed rest sent event was readable eq =>
    subst eq
    rw [was] at horder honce
    cases sent with
    | false =>
      refine ⟨?_, hsent, ?_⟩
      · simpa using horder
      · simpa using honce
    | true => exact ⟨horder, hsent, honce⟩
  | disturbed id picks event same =>
    have h : QueueOk { s with calls := s.calls.map Call.disturbed } := ⟨horder, hsent, honce⟩
    exact h.same same
  | quiet same => exact QueueOk.same ⟨horder, hsent, honce⟩ same

/-- **and every run does.** -/
theorem queueOk (h : (agentMachine cfg).Reachable s) : QueueOk s :=
  h.invariant (.init cfg) fun _ _ _ _ hp hs => hp.step hs

/-! ## Notifications and events -/

/-- A read of up to four bytes takes exactly one notification, of at least
two. -/
def WholeRead : List Nat → Prop
  | [] => True
  | d :: ds => 2 ≤ d ∧ d ≤ 4 ∧ (d = 4 ∨ ds = [])

instance (pipe : List Nat) : Decidable (WholeRead pipe) := by
  unfold WholeRead
  split <;> infer_instance

/-- Nothing was taken out of the table under the search of a call, and it
succeeds or is not the last one. -/
def Findable (s : AgentSys) : Option Call → Bool
  | some ⟨_, ricReqId, _, .searching tries stale⟩ =>
    !stale && ((s.ag.findRicReqId ricReqId).isSome || decide (tries + 1 < 10))
  | _ => true

/-- The steps on which the loop keeps serving: no subscription is deleted
under a search, the searches find theirs in time, no event is `NULL` or has
something to send, and each read of the pipe takes the notification of one
event. -/
def AperiodicCond (s : AgentSys) : AgentEvent → Prop
  | .look k => Findable s s.calls[k]? = true
  | .serve value => value = false ∧ (s.loop.inHand.head?.all fun ev => ev.indData.isSome) = true
  | .consume => WholeRead s.pipe
  | _ => True

instance (s : AgentSys) (e : AgentEvent) : Decidable (AperiodicCond s e) := by
  unfold AperiodicCond
  split <;> infer_instance

/-- The calls that have pushed their event and not written to the pipe. -/
def writers (calls : List Call) : Nat := calls.countP fun c => c.phase == .writing

/-- The number of writers changes with one call's phase. -/
theorem writers_set {calls : List Call} {k : Nat} {c : Call} (c' : Call)
    (hc : calls[k]? = some c) :
    writers (calls.set k c') + (if c.phase = .writing then 1 else 0) =
      writers calls + if c'.phase = .writing then 1 else 0 := by
  have hcount : writers (calls.set k c') + _ = writers calls + _ := countP_set_add hc
  have htoNat (b : Bool) : b.toNat = if b = true then 1 else 0 := by cases b <;> rfl
  simpa only [htoNat, beq_iff_eq] using hcount

/-- A call that ends is one writer less. -/
theorem writers_eraseIdx {calls : List Call} {k : Nat} {c : Call} (hc : calls[k]? = some c)
    (hw : c.phase = .writing) : writers calls = writers (calls.eraseIdx k) + 1 := by
  have hcount : writers calls = _ := countP_eraseIdx_add hc
  simpa [writers, hw] using hcount

/-- A deletion under a search leaves the calls that write. -/
theorem writers_disturbed {calls : List Call} :
    writers (calls.map Call.disturbed) = writers calls := by
  simp only [writers, List.countP_map, Function.comp_def, beq_eq_decide,
    Call.disturbed_writing]

/-- A notification is an octet at least. -/
theorem notificationLen_pos (ricReqId : UInt32) : 0 < notificationLen ricReqId :=
  Nat.length_toDigits_pos

/-- A notification is ten octets at most. -/
theorem notificationLen_le (ricReqId : UInt32) : notificationLen ricReqId ≤ 10 :=
  (Nat.length_toDigits_le_iff (by decide) (by decide)).mpr
    (Nat.lt_of_lt_of_le ricReqId.toNat_lt (by decide))

/-- To read no octets leaves the pipe as it is. -/
theorem readBytes_zero {pipe : List Nat} (hpos : ∀ d ∈ pipe, 0 < d) : readBytes 0 pipe = pipe := by
  cases pipe with
  | nil => rfl
  | cons d ds =>
    have := hpos d List.mem_cons_self
    rw [readBytes, if_neg (by omega), Nat.sub_zero]

/-- A read that takes one notification leaves the others. -/
theorem WholeRead.read {d : Nat} {ds : List Nat} (h : WholeRead (d :: ds))
    (hpos : ∀ x ∈ ds, 0 < x) : readBytes 4 (d :: ds) = ds := by
  obtain ⟨-, hle, rfl | rfl⟩ := h
  · rw [readBytes, if_pos (Nat.le_refl 4), Nat.sub_self, readBytes_zero hpos]
  · rw [readBytes, if_pos hle, readBytes]

/-- There are as many notifications, in the pipe or about to be written, as
events that the loop has not finished with; if the pipe was not written to
since the loop last saw it, the loop will read all of them. -/
structure Aligned (s : AgentSys) : Prop where
  running : s.loop.running = true
  count : s.pipe.length + writers s.calls = s.ag.aind.length + s.loop.reads
  edge : s.edge = false → s.pipe.length ≤ s.loop.reads
  pos : ∀ d ∈ s.pipe, 0 < d

/-- The loop has finished with an event and reads its notification. -/
theorem Aligned.read {rest : List AindEvent} (h : Aligned s) (was : s.loop = .consuming rest false)
    (hwhole : WholeRead s.pipe) (readable : 0 < s.pipe.sum) :
    Aligned { s with pipe := readBytes 4 s.pipe, loop := .next rest } := by
  obtain ⟨-, hcount, hedge, hpos⟩ := h
  cases hpipe : s.pipe with
  | nil => simp [hpipe] at readable
  | cons d ds =>
    rw [was, hpipe, Loop.reads_consuming, List.length_cons] at hcount hedge
    rw [hpipe] at hwhole hpos
    have hpos' : ∀ x ∈ ds, 0 < x := fun x hx => hpos x (List.mem_cons_of_mem _ hx)
    rw [hwhole.read hpos']
    refine ⟨Loop.running_next _, ?_, fun hf => ?_, hpos'⟩
    · simp only [Loop.reads_next]
      omega
    · have := hedge hf
      simp only [Loop.reads_next]
      omega

/-- What does not touch the queue keeps the pipe and the queue in step. -/
theorem Aligned.same (h : Aligned s) (hs : SameQueue s s') : Aligned s' := by
  obtain ⟨haind, hpipe, hedge, hloop, hcalls, -, -, -⟩ := hs
  refine ⟨?_, ?_, ?_, ?_⟩
  · rw [hloop]
    exact h.running
  · rw [hpipe, hcalls, haind, hloop]
    exact h.count
  · rw [hpipe, hedge, hloop]
    exact h.edge
  · rw [hpipe]
    exact h.pos

/-- **Every step under the condition keeps the pipe and the queue in step.** -/
theorem Aligned.step (h : Aligned s) (hc : AperiodicCond s e) (hs : s.step e = .next s') :
    Aligned s' := by
  obtain ⟨hrun, hcount, hedge, hpos⟩ := h
  cases queue_cases hs with
  | called thread ricReqId indData event eq =>
    subst eq
    refine ⟨hrun, ?_, hedge, hpos⟩
    simpa [writers] using hcount
  | locked k c tries event call was eq =>
    subst eq
    refine ⟨hrun, ?_, hedge, hpos⟩
    have hw : writers (s.calls.set k { c with phase := .searching tries false }) =
        writers s.calls := by
      simpa [was] using writers_set { c with phase := .searching tries false } call
    simpa [hw] using hcount
  | looked k c tries phase event call was new eq =>
    subst eq
    refine ⟨hrun, ?_, hedge, hpos⟩
    have hw : writers (s.calls.set k { c with phase }) = writers s.calls := by
      simpa [was, new] using writers_set { c with phase } call
    simpa [hw] using hcount
  | pushed k c ev event call was eq =>
    subst eq
    refine ⟨hrun, ?_, hedge, hpos⟩
    have hw : writers (s.calls.set k { c with phase := .writing }) = writers s.calls + 1 := by
      simpa [was] using writers_set { c with phase := .writing } call
    simp only [List.length_append, List.length_singleton, hw]
    omega
  | written k c event call was eq =>
    subst eq
    refine ⟨hrun, ?_, fun hf => by simp at hf, ?_⟩
    · have hw := writers_eraseIdx call was
      simp only [List.length_append, List.length_singleton]
      omega
    · intro d hd
      obtain hd | hd := List.mem_append.mp hd
      · exact hpos d hd
      · exact List.mem_singleton.mp hd ▸ notificationLen_pos _
  | woken event was edge readable nonempty eq =>
    subst eq
    rw [was] at hcount
    rw [Loop.reads_waiting] at hcount
    refine ⟨Loop.running_next _, ?_, fun _ => ?_, hpos⟩
    · simp only [Loop.reads_next, List.length_nil]
      omega
    · have hle : s.pipe.length ≤ s.ag.aind.length := by omega
      rwa [Loop.reads_next]
  | served ev rest value event was eq =>
    subst event eq
    obtain ⟨rfl, hdata⟩ := hc
    rw [was] at hdata hcount hedge
    have hne : ev.indData ≠ none := by
      intro hnone
      simp [hnone] at hdata
    rw [serve, if_neg hne]
    exact ⟨rfl, hcount, hedge, hpos⟩
  | consumed rest sent event was readable eq =>
    subst event eq
    cases sent with
    | true => simp [was, Loop.running] at hrun
    | false => exact Aligned.read ⟨hrun, hcount, hedge, hpos⟩ was hc readable
  | disturbed id picks event same =>
    have h : Aligned { s with calls := s.calls.map Call.disturbed } :=
      ⟨hrun, by rwa [writers_disturbed], hedge, hpos⟩
    exact h.same same
  | quiet same => exact Aligned.same ⟨hrun, hcount, hedge, hpos⟩ same

/-- An agent starts with an empty pipe and an empty queue. -/
theorem Aligned.init (cfg : AgentConfig) : Aligned (.init cfg) :=
  ⟨rfl, rfl, fun _ => Nat.le_refl _, fun _ h => absurd h List.not_mem_nil⟩

/-- **In every run under the condition each queued event has its notification.** -/
theorem aligned (h : (agentMachine cfg).ReachedBy AperiodicCond s) : Aligned s :=
  h.invariant (.init cfg) fun _ _ _ _ hp hc hs => hp.step hc hs

/-! ## The loop keeps serving -/

/-- The loop runs, does not wake up to an empty queue, and while an event is
in its hands or in the queue, some step brings one further. -/
structure Serving (s : AgentSys) : Prop where
  running : s.loop.running = true
  awake : s.loop = .waiting → s.edge = true → 0 < s.pipe.sum → s.ag.aind ≠ []
  goesOn : s.loop.reads ≠ 0 ∨ s.ag.aind ≠ [] → ∃ e, Delivery e ∧ s.step e ≠ .blocked

/-- A pipe with a write in it has octets. -/
theorem sum_pos_of_ne_nil {pipe : List Nat} (hpos : ∀ d ∈ pipe, 0 < d) (hne : pipe ≠ []) :
    0 < pipe.sum := by
  cases pipe with
  | nil => contradiction
  | cons d ds =>
    have := hpos d List.mem_cons_self
    rw [List.sum_cons]
    omega

theorem hasExited_of_running {l : Loop} (h : l.running = true) : l.hasExited = false := by
  cases l with
  | exited rest => contradiction
  | _ => rfl

/-- A call that has pushed its event can write to an empty pipe. -/
theorem write_of_writers (hnot : s.loop.hasExited = false) (hempty : s.pipe = [])
    (hw : 0 < writers s.calls) : ∃ k, s.step (.write k) ≠ .blocked := by
  obtain ⟨c, hc, hphase⟩ := List.countP_pos_iff.mp hw
  obtain ⟨k, hk⟩ := List.mem_iff_getElem?.mp hc
  obtain ⟨thread, ricReqId, indData, phase⟩ := c
  obtain rfl : phase = .writing := by simpa using hphase
  refine ⟨k, ?_⟩
  have hroom : notificationLen ricReqId ≤ pipeCapacity :=
    Nat.le_trans (notificationLen_le ricReqId) (by decide)
  simp [AgentSys.step, hnot, hk, hempty, hroom, Outcome.await]

/-- While an event waits the loop has something to read. -/
theorem Aligned.serving (h : Aligned s) : Serving s := by
  obtain ⟨hrun, hcount, hedge, hpos⟩ := h
  refine ⟨hrun, fun hloop _ hread hnil => ?_, fun hdue => ?_⟩
  · rw [hloop, hnil, Loop.reads_waiting, List.length_nil] at hcount
    have hempty : s.pipe = [] := List.length_eq_zero_iff.mp (by omega)
    simp [hempty] at hread
  · cases hloop : s.loop with
    | waiting =>
      rw [hloop, Loop.reads_waiting] at hcount hedge hdue
      have hne : s.ag.aind ≠ [] := by simpa using hdue
      have hlen := List.length_pos_iff.mpr hne
      by_cases hempty : s.pipe = []
      · rw [hempty, List.length_nil] at hcount
        obtain ⟨k, hk⟩ := write_of_writers (hasExited_of_running hrun) hempty (by omega)
        exact ⟨.write k, trivial, hk⟩
      · -- the notification was written after the loop last woke up
        have hread := sum_pos_of_ne_nil hpos hempty
        have hedge : s.edge = true := by
          cases hcase : s.edge with
          | true => rfl
          | false => exact absurd (List.length_eq_zero_iff.mp (Nat.le_zero.mp (hedge hcase))) hempty
        refine ⟨.wake, trivial, ?_⟩
        simp [AgentSys.step, hloop, hedge, hread, hne, Outcome.await, Outcome.assert]
    | serving ev rest =>
      exact ⟨.serve false, trivial, by simp [AgentSys.step, hloop]⟩
    | consuming rest sent =>
      rw [hloop, Loop.reads_consuming] at hcount
      by_cases hempty : s.pipe = []
      · rw [hempty, List.length_nil] at hcount
        obtain ⟨k, hk⟩ := write_of_writers (hasExited_of_running hrun) hempty (by omega)
        exact ⟨.write k, trivial, hk⟩
      · refine ⟨.consume, trivial, ?_⟩
        have hread := sum_pos_of_ne_nil hpos hempty
        by_cases hone : min 4 s.pipe.sum = 1 <;>
          simp [AgentSys.step, hloop, consume, hread, hone, Outcome.await, Outcome.assert]
    | returned rest => simp [hloop, Loop.running] at hrun
    | exited rest => simp [hloop, Loop.running] at hrun

/-- A search ends the process exactly when a node was freed under it, or when
it is the last one and fails. -/
theorem look_aborts_iff (hrun : s.loop.running = true) {k : Nat} :
    (s.step (.look k)).Aborts ↔ ¬ AperiodicCond s (.look k) := by
  have hexit := hasExited_of_running hrun
  cases hk : s.calls[k]? with
  | none => simp [AgentSys.step, AperiodicCond, Findable, hk, hexit, Outcome.await]
  | some c =>
    obtain ⟨thread, ricReqId, indData, phase⟩ := c
    cases phase with
    | looking tries => simp [AgentSys.step, AperiodicCond, Findable, hk, hexit, Outcome.await]
    | searching tries stale =>
      cases stale with
      | true =>
        simp [AgentSys.step, AperiodicCond, Findable, look, hk, hexit, Outcome.await,
          Outcome.assert]
      | false =>
        cases hfind : s.ag.findRicReqId ricReqId with
        | some ev =>
          simp [AgentSys.step, AperiodicCond, Findable, look, hk, hexit, hfind, Outcome.await,
            Outcome.assert]
        | none =>
          by_cases htries : tries + 1 < 10 <;>
            simp [AgentSys.step, AperiodicCond, Findable, look, hk, hexit, hfind, htries,
              Outcome.await, Outcome.assert]
    | found ev => simp [AgentSys.step, AperiodicCond, Findable, hk, hexit, Outcome.await]
    | writing => simp [AgentSys.step, AperiodicCond, Findable, hk, hexit, Outcome.await]

/-- After serving an event the loop runs on exactly when the event was not
`NULL` and had nothing to send. -/
theorem serve_running_iff {value : Bool} (hs : s.step (.serve value) = .next s') :
    s'.loop.running = true ↔ AperiodicCond s (.serve value) := by
  simp only [AgentSys.step] at hs
  split at hs
  · rename_i ev rest hloop
    cases hs
    cases hdata : ev.indData with
    | none => simp [serve, AperiodicCond, hloop, hdata, Loop.running]
    | some d => cases value <;> simp [serve, AperiodicCond, hloop, hdata, Loop.running]
  · contradiction

/-- Under the condition no step on the way of an event aborts. -/
theorem Aligned.not_aborts (h : Aligned s) (he : Aperiodic e) (hc : AperiodicCond s e) :
    ¬ (s.step e).Aborts := by
  cases e with
  | call thread ricReqId indData => simp [AgentSys.step, Outcome.bind_aborts]
  | lock k =>
    simp only [AgentSys.step, Outcome.bind_aborts, Outcome.await_not_aborts, false_or, not_exists,
      not_and]
    intro _ _
    split <;> simp
  | look k => exact fun ha => (look_aborts_iff h.running).mp ha hc
  | push k =>
    simp only [AgentSys.step, Outcome.bind_aborts, Outcome.await_not_aborts, false_or, not_exists,
      not_and]
    intro _ _
    split <;> simp
  | write k =>
    simp only [AgentSys.step, Outcome.bind_aborts, Outcome.await_not_aborts, false_or, not_exists,
      not_and]
    intro _ _
    split <;> simp [Outcome.bind_aborts]
  | wake =>
    simp only [AgentSys.step, Outcome.bind_aborts, Outcome.await_not_aborts, false_or, not_exists,
      not_and, Outcome.await_eq_next, Bool.and_eq_true, beq_iff_eq, decide_eq_true_eq]
    rintro - ⟨⟨hloop, hedge⟩, hread⟩
    have hne := h.serving.awake hloop hedge hread
    simp [hne]
  | serve value =>
    simp only [AgentSys.step]
    split <;> simp
  | consume =>
    simp only [AgentSys.step]
    split
    · have hwhole : min 4 s.pipe.sum ≠ 1 ∨ s.pipe.sum = 0 := by
        cases hpipe : s.pipe with
        | nil => exact .inr rfl
        | cons d ds =>
          have hw : WholeRead s.pipe := hc
          rw [hpipe] at hw
          have := hw.1
          rw [List.sum_cons]
          omega
      simp only [consume, Outcome.bind_aborts, Outcome.await_not_aborts, false_or, not_exists,
        not_and, Outcome.await_eq_next, decide_eq_true_eq]
      intro _ hread
      have hne : min 4 s.pipe.sum ≠ 1 := hwhole.resolve_right (by omega)
      simp [hne]
    · simp
  | _ => exact he.elim

/-- **Aperiodic events.** In every run the events are served in the order in
which they were pushed, each with something to send is sent exactly once,
and the loop sends at most one and then ends.  In every run in which no
subscription is deleted under a search, the searches find their
subscription in time, the events are not `NULL` and have nothing to send,
and the reads of the pipe take the notification of one event each, the loop
never finds the queue empty, no step aborts, and some step brings an event
further while there is one; a search or an event that does not meet this
condition ends the process or the loop. -/
theorem aperiodic_events (cfg : AgentConfig) (s : AgentSys) :
    ((agentMachine cfg).Reachable s → QueueOk s) ∧
      ((agentMachine cfg).ReachedBy AperiodicCond s →
        Serving s ∧
        (∀ e, Aperiodic e → AperiodicCond s e → ¬ (s.step e).Aborts) ∧
        (∀ k, (s.step (.look k)).Aborts ↔ ¬ AperiodicCond s (.look k)) ∧
        ∀ value s', s.step (.serve value) = .next s' →
          (s'.loop.running = true ↔ AperiodicCond s (.serve value))) := by
  refine ⟨queueOk, fun h => ?_⟩
  have hal := aligned h
  exact ⟨hal.serving, fun _ => hal.not_aborts, fun _ => look_aborts_iff hal.running,
    fun _ _ => serve_running_iff⟩

/-- Two RAN threads raise an event each for the subscription 1021, and both
events are in the queue when the loop wakes up. -/
def twoEvents : List AgentEvent :=
  [.subscription ⟨⟨1021, 0, 3⟩, [⟨0, .report⟩]⟩ .aperiodic 0,
    .call 1 1021 (some 0), .lock 0, .look 0, .push 0,
    .call 2 1021 (some 1), .lock 1, .look 1, .push 1, .write 0, .write 0, .wake]

/-- After the first event with something to send the process exits, and the
second event is never served. -/
theorem exits_after_sending :
    ¬ ∀ cfg s, (agentMachine cfg).Reachable s → Serving s := by
  intro hclaim
  obtain ⟨s, hr, hs⟩ := Machine.Reachable.exists_of_run (M := agentMachine .local)
    (twoEvents ++ [.serve true, .consume])
    (fun s => s.loop.hasExited && s.pushed.length == 2 && s.served.length == 1)
    (by decide)
  simp only [Bool.and_eq_true] at hs
  have hrun := hasExited_of_running (hclaim _ s hr).running
  rw [hs.1.1] at hrun
  contradiction

/-- Both events are served, in order, when neither has something to send. -/
theorem aperiodic_events_two_threads :
    ∃ s, s.pushed.map Prod.fst = [1, 2] ∧ s.served.length = 2 ∧ s.pipe = [] ∧ QueueOk s ∧
      Serving s := by
  obtain ⟨s, hr, hs⟩ := Machine.ReachedBy.exists_of_run (M := agentMachine .local)
    (C := AperiodicCond) (twoEvents ++ [.serve false, .consume, .serve false, .consume])
    (fun s => s.pushed.map Prod.fst == [1, 2] && s.served.length == 2 && s.pipe == [])
    (by decide)
  simp only [Bool.and_eq_true, beq_iff_eq] at hs
  obtain ⟨hall, hcond⟩ := aperiodic_events .local s
  exact ⟨s, hs.1.1, hs.1.2, hs.2, hall hr.reachable, (hcond hr).1⟩

end AgentSys

end FlexRic
