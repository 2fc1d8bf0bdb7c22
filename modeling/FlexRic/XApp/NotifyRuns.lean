import FlexRic.XApp.NotifyQueue

/-!
# FlexRic.XApp.NotifyRuns

The notification queue over whole runs: any number of pushes, the worker and the end of the queue,
in any order of their steps.

* `Inv`: what has been pushed is what was passed on, what the worker has in hand and what the ring
  holds; the worker sleeps only where nothing is left to do.
* `notifyQueue_delivers`: nothing is lost, doubled or reordered, and no check of the worker fails.
* `notifyQueue_ends`: after the signal of `free_tsnq` the worker returns within a few steps.
-/

namespace FlexRic

universe u

namespace QueueSys

variable {α : Type u} {c : Consumer} {s s' : QueueSys α}

/-- The ring stays below half of what 32 bits can count. -/
def Room (s : QueueSys α) : QueueEvent α → Prop
  | .push _ _ => s.q.r.size + 1 < 2 ^ 31
  | _ => True

instance (s : QueueSys α) : (e : QueueEvent α) → Decidable (Room s e)
  | .push _ _ => decidable_of_iff (s.q.r.size + 1 < 2 ^ 31) Iff.rfl
  | .look | .popBatch | .waitAndPop | .spurious | .emit | .setStopped | .leave | .setToken
  | .signal | .destroy | .join => decidable_of_iff True Iff.rfl

/-- The worker is before the section of `wait_and_pop_tsnq`. -/
def Ready (s : QueueSys α) : Prop := s.worker = .single ∨ s.worker = .waiting true

/-- The worker has seen `stop_token`. -/
def Stops (s : QueueSys α) : Prop :=
  s.worker = .stopping ∨ s.worker = .leaving ∨ s.worker = .returned

/-- `free_tsnq` has signalled. -/
def Ends (s : QueueSys α) : Prop :=
  s.closer = .spinning ∨ s.closer = .destroyed ∨ s.closer = .joined

/-! ## The invariant -/

/-- Nothing is lost, and the two threads agree about the end. -/
structure Inv (c : Consumer) (s : QueueSys α) : Prop where
  ok : s.q.r.Ok
  cap : s.q.r.cap ≤ 2 ^ 31
  account : s.pushed = s.emitted ++ s.worker.inHand ++ s.q.r.toList
  batch : ∀ n, s.worker = .batch n → 0 < n ∧ n < s.q.r.size
  hand : s.worker ≠ .emitting []
  token : s.q.stopToken = false ↔ s.closer = .inUse
  seen : s.Stops → s.q.stopToken = true
  stopped : s.q.stopped = true ↔ s.worker = .leaving ∨ s.worker = .returned
  asleep : s.worker = .waiting false → s.q.r.size = 0 ∧ ¬ s.Ends
  ended : s.closer = .destroyed ∨ s.closer = .joined → s.q.stopped = true
  freed : s.closer = .destroyed ∨ s.closer = .joined → c = .database → s.freed = s.q.r.toList
  joined : s.closer = .joined → s.worker = .returned

theorem Inv.cap_lt (h : Inv c s) : s.q.r.cap < 2 ^ 32 := Nat.lt_of_le_of_lt h.cap (by decide)

/-! ### Steps of the worker alone -/

/-- Where the worker is asks nothing of the ring, and it has not ended. -/
structure Free (s : QueueSys α) (pc : QueueWorker α) : Prop where
  batch : ∀ n, pc ≠ .batch n
  hand : pc ≠ .emitting []
  runs : pc ≠ .stopping ∧ pc ≠ .leaving ∧ pc ≠ .returned
  awake : pc ≠ .waiting false

/-- A worker that has not ended has not stopped. -/
theorem Inv.not_stopped (h : Inv c s) (hruns : s.worker ≠ .leaving ∧ s.worker ≠ .returned) :
    s.q.stopped = false ∧ s.closer ≠ .destroyed ∧ s.closer ≠ .joined := by
  have hstopped : s.q.stopped ≠ true := fun hs => by
    obtain hl | hr := h.stopped.mp hs
    · exact hruns.1 hl
    · exact hruns.2 hr
  exact ⟨Bool.eq_false_iff.mpr hstopped, fun hd => hstopped (h.ended (.inl hd)),
    fun hj => hstopped (h.ended (.inr hj))⟩

/-- The worker moves on, with a ring that has lost what it now has in hand. -/
theorem Inv.moved (h : Inv c s) {pc : QueueWorker α} {r : SeqRing α} {w : List α}
    (hruns : s.worker ≠ .leaving ∧ s.worker ≠ .returned) (hfree : Free s pc) (hok : r.Ok)
    (hcap : r.cap ≤ 2 ^ 31)
    (haccount : w ++ pc.inHand ++ r.toList = s.emitted ++ s.worker.inHand ++ s.q.r.toList) :
    Inv c { s with q.r := r, worker := pc, emitted := w } := by
  obtain ⟨hstopped, hdestroyed, hjoined⟩ := h.not_stopped hruns
  exact
    { ok := hok
      cap := hcap
      account := h.account.trans haccount.symm
      batch := fun n hn => absurd hn (hfree.batch n)
      hand := hfree.hand
      token := h.token
      seen := fun hs => by
        obtain hs | hs | hs := hs
        · exact absurd hs hfree.runs.1
        · exact absurd hs hfree.runs.2.1
        · exact absurd hs hfree.runs.2.2
      stopped := by
        show s.q.stopped = true ↔ _
        simp [hstopped, hfree.runs.2]
      asleep := fun hw => absurd hw hfree.awake
      ended := h.ended
      freed := fun hend => absurd hend (by simp [hdestroyed, hjoined])
      joined := fun hj => absurd hj hjoined }

theorem Inv.looked (h : Inv c s) {worker : QueueWorker α} (htop : s.worker = .top)
    (hnext : worker = .single ∨ ∃ n, worker = .batch n ∧ 0 < n ∧ n < s.q.r.size) :
    Inv c { s with worker } := by
  have hruns : s.worker ≠ .leaving ∧ s.worker ≠ .returned := by simp [htop]
  obtain ⟨hstopped, hdestroyed, hjoined⟩ := h.not_stopped hruns
  have haccount := h.account
  rw [htop] at haccount
  obtain rfl | ⟨n, rfl, hpos, hlt⟩ := hnext
  · exact h.moved (r := s.q.r) (w := s.emitted) hruns
      ⟨by simp, by simp, by simp, by simp⟩ h.ok h.cap (by rw [htop]; rfl)
  · exact
      { h with
        account := haccount
        batch := fun m hm => by
          cases hm
          exact ⟨hpos, hlt⟩
        hand := by simp
        seen := fun hs => by simp [Stops] at hs
        stopped := by simp [hstopped]
        asleep := fun hw => by cases hw
        joined := fun hj => absurd hj hjoined }

/-- A worker that is ready has not left. -/
theorem Ready.runs (h : s.Ready) : s.worker ≠ .leaving ∧ s.worker ≠ .returned := by
  obtain h | h := h <;> simp [h]

/-- A worker that is ready has nothing in its hands. -/
theorem Ready.inHand (h : s.Ready) : s.worker.inHand = [] := by
  obtain h | h := h <;> rw [h] <;> rfl

/-- A worker falls asleep while the ring is empty. -/
theorem Inv.slept (h : Inv c s) (hready : s.Ready) (hempty : s.q.r.size = 0)
    (htoken : s.q.stopToken = false) : Inv c { s with worker := .waiting false } := by
  obtain ⟨hstopped, hdestroyed, hjoined⟩ := h.not_stopped hready.runs
  have hinUse := h.token.mp htoken
  have haccount := h.account
  rw [hready.inHand] at haccount
  exact
    { h with
      account := haccount
      batch := fun n hn => by cases hn
      hand := by simp
      seen := fun hs => by simp [Stops] at hs
      stopped := by simp [hstopped]
      asleep := fun _ => ⟨hempty, by simp [Ends, hinUse]⟩
      joined := fun hj => absurd hj hjoined }

theorem Inv.stops (h : Inv c s) (hready : s.Ready ∨ ∃ n, s.worker = .batch n)
    (htoken : s.q.stopToken = true) : Inv c { s with worker := .stopping } := by
  have hruns : s.worker ≠ .leaving ∧ s.worker ≠ .returned := by
    obtain hready | ⟨n, hn⟩ := hready
    · exact hready.runs
    · simp [hn]
  have hhand : s.worker.inHand = [] := by
    obtain hready | ⟨n, hn⟩ := hready
    · exact hready.inHand
    · rw [hn]
      rfl
  obtain ⟨hstopped, hdestroyed, hjoined⟩ := h.not_stopped hruns
  have haccount := h.account
  rw [hhand] at haccount
  exact
    { h with
      account := haccount
      batch := fun n hn => by cases hn
      hand := by simp
      seen := fun _ => htoken
      stopped := by simp [hstopped]
      asleep := fun hw => by cases hw
      joined := fun hj => absurd hj hjoined }

/-- A worker that sleeps wakes up. -/
theorem Inv.woken (h : Inv c s) (hwaiting : s.worker = .waiting false) :
    Inv c { s with worker := .waiting true } :=
  h.moved (r := s.q.r) (w := s.emitted) (by simp [hwaiting])
    ⟨by simp, by simp, by simp, by simp⟩ h.ok h.cap (by rw [hwaiting]; rfl)

/-- What it hands over is taken out of its hands. -/
theorem Inv.emitted (h : Inv c s) {x : α} {rest : List α}
    (hdata : s.worker = .emitting (x :: rest)) :
    Inv c { s with worker := .emit rest, emitted := s.emitted ++ [x] } := by
  refine h.moved (r := s.q.r) (by simp [hdata]) ?_ h.ok h.cap ?_
  · obtain ⟨-, hemit⟩ | ⟨hne, hemit⟩ := QueueWorker.emit_cases rest
    · rw [hemit]
      exact ⟨by simp, by simp, by simp, by simp⟩
    · rw [hemit]
      exact ⟨by simp, by simpa using hne, by simp, by simp⟩
  · rw [QueueWorker.inHand_emit, hdata]
    simp [QueueWorker.inHand]

/-- The worker says that it has stopped, or returns. -/
theorem Inv.quits (h : Inv c s) {pc : QueueWorker α} (hstops : s.Stops)
    (hpc : pc = .leaving ∨ pc = .returned) (hjoined : s.closer = .joined → pc = .returned) :
    Inv c { s with q.stopped := true, worker := pc } := by
  have hhand : s.worker.inHand = [] := by
    obtain hs | hs | hs := hstops <;> rw [hs] <;> rfl
  have hhand' : pc.inHand = [] := by
    obtain rfl | rfl := hpc <;> rfl
  have haccount := h.account
  exact
    { ok := h.ok
      cap := h.cap
      account := by
        rw [hhand] at haccount
        show s.pushed = s.emitted ++ pc.inHand ++ s.q.r.toList
        rw [hhand']
        exact haccount
      batch := fun n hn => by obtain rfl | rfl := hpc <;> cases hn
      hand := by obtain rfl | rfl := hpc <;> simp
      token := h.token
      seen := fun _ => h.seen hstops
      stopped := iff_of_true rfl hpc
      asleep := fun hw => by obtain rfl | rfl := hpc <;> cases hw
      ended := fun _ => rfl
      freed := h.freed
      joined := hjoined }

/-- The closer sets the token. -/
theorem Inv.tokenSet (h : Inv c s) :
    Inv c { s with q.stopToken := true, closer := .tokenSet } :=
  { h with
    token := by simp
    seen := fun _ => rfl
    asleep := fun hw => ⟨(h.asleep hw).1, by simp [Ends]⟩
    ended := fun hend => by simp at hend
    freed := fun hend => by simp at hend
    joined := fun hj => by cases hj }

/-- The closer signals. -/
theorem Inv.signalled (h : Inv c s) (hset : s.closer = .tokenSet) :
    Inv c { s with worker := s.worker.signal, closer := .spinning } := by
  have htoken : s.q.stopToken = true := by
    rw [← Bool.not_eq_false, h.token, hset]
    simp
  have hsig := s.worker.signal_cases
  exact
    { ok := h.ok
      cap := h.cap
      account := by
        show s.pushed = s.emitted ++ s.worker.signal.inHand ++ s.q.r.toList
        rw [QueueWorker.inHand_signal, h.account]
      batch := fun n hn => by
        obtain ⟨heq, -⟩ | ⟨-, heq⟩ := hsig
        · exact h.batch n (heq ▸ hn)
        · rw [heq] at hn
          cases hn
      hand := fun hn => by
        obtain ⟨heq, -⟩ | ⟨-, heq⟩ := hsig
        · exact h.hand (heq ▸ hn)
        · rw [heq] at hn
          cases hn
      token := by simp [htoken]
      seen := fun _ => htoken
      stopped := by
        obtain ⟨heq, -⟩ | ⟨hw, heq⟩ := hsig
        · simp only [heq]
          exact h.stopped
        · have hnot := h.stopped
          rw [hw] at hnot
          show s.q.stopped = true ↔ s.worker.signal = .leaving ∨ s.worker.signal = .returned
          rw [heq]
          simpa using hnot
      asleep := fun hw => by
        obtain ⟨heq, hne⟩ | ⟨-, heq⟩ := hsig
        · exact absurd (heq ▸ hw) hne
        · rw [heq] at hw
          cases hw
      ended := fun hend => by simp at hend
      freed := fun hend => by simp at hend
      joined := fun hj => by cases hj }

/-- The queue is destroyed once the worker has stopped. -/
theorem Inv.destroyed (h : Inv c s) {freed : List α} (hspinning : s.closer = .spinning)
    (hstopped : s.q.stopped = true) (hfreed : c = .database → freed = s.q.r.toList) :
    Inv c { s with closer := .destroyed, freed } := by
  have htoken : s.q.stopToken = true := by
    rw [← Bool.not_eq_false, h.token, hspinning]
    simp
  exact
    { h with
      token := by simp [htoken]
      asleep := fun hw => by
        have hquit := h.stopped.mp hstopped
        have hasleep : s.worker = .waiting false := hw
        simp [hasleep] at hquit
      ended := fun _ => hstopped
      freed := fun _ => hfreed
      joined := fun hj => by cases hj }

/-- The closer joins the worker. -/
theorem Inv.joins (h : Inv c s) (hreturned : s.worker = .returned)
    (hdestroyed : s.closer = .destroyed) : Inv c { s with closer := .joined } := by
  have htoken : s.q.stopToken = true := by
    rw [← Bool.not_eq_false, h.token, hdestroyed]
    simp
  exact
    { h with
      token := by simp [htoken]
      asleep := fun hw => by simp [hreturned] at hw
      ended := fun _ => h.ended (.inl hdestroyed)
      freed := fun _ => h.freed (.inl hdestroyed)
      joined := fun _ => hreturned }

/-! ### What is left after the signal -/

/-- The steps that a worker which will see `stop_token` still takes. -/
def workerLeft : QueueWorker α → Nat
  | .returned => 0
  | .leaving => 1
  | .stopping => 2
  | .single | .waiting _ | .batch _ => 3
  | .top => 4
  | .emitting data => data.length + 4

/-- The steps that `free_tsnq` and `pthread_join` still take. -/
def closerLeft : QueueCloser → Nat
  | .inUse => 4
  | .tokenSet => 3
  | .spinning => 2
  | .destroyed => 1
  | .joined => 0

/-- The steps that are left after the signal. -/
def stepsLeft (s : QueueSys α) : Nat := workerLeft s.worker + closerLeft s.closer

theorem workerLeft_emit (data : List α) : workerLeft (.emit data) = data.length + 4 := by
  cases data <;> rfl

/-- **Six steps, and one for each element in hand**, are left after the signal. -/
theorem stepsLeft_le (hends : s.Ends) : s.stepsLeft ≤ s.worker.inHand.length + 6 := by
  have hworker : workerLeft s.worker ≤ s.worker.inHand.length + 4 := by
    cases hw : s.worker <;> simp [workerLeft, QueueWorker.inHand]
  have hcloser : closerLeft s.closer ≤ 2 := by
    obtain hc | hc | hc := hends <;> simp [hc, closerLeft]
  rw [stepsLeft]
  omega

/-- The end begins with the token. -/
theorem Inv.token_of_ends (h : Inv c s) (hends : s.Ends) : s.q.stopToken = true := by
  rw [← Bool.not_eq_false, h.token]
  obtain hc | hc | hc := hends <;> simp [hc]

variable [Inhabited α] {e : QueueEvent α}

/-! ## What an event can do -/

/-- What one event does to the queue, its worker and its end. -/
inductive Effect (c : Consumer) (s : QueueSys α) (e : QueueEvent α) : QueueSys α → Prop
  | pushed (val : α) (callocOk : Bool) (r : SeqRing α) (event : e = .push val callocOk)
      (inUse : s.closer = .inUse) (pushed : s.q.r.pushBack val callocOk = .next r) :
      Effect c s e { s with q.r := r, worker := s.worker.signal, pushed := s.pushed ++ [val] }
  | looked (worker : QueueWorker α) (top : s.worker = .top)
      (next : worker = .single ∨ ∃ n, worker = .batch n ∧ 0 < n ∧ n < s.q.r.size) :
      Effect c s e { s with worker }
  | batched (n : Nat) (r : SeqRing α) (data : List α) (batch : s.worker = .batch n)
      (token : s.q.stopToken = false) (popped : s.q.r.popFront n = .next (data, r)) :
      Effect c s e { s with q.r := r, worker := .emit data }
  | slept (ready : s.Ready) (empty : s.q.r.size = 0) (token : s.q.stopToken = false) :
      Effect c s e { s with worker := .waiting false }
  | stops (ready : s.Ready ∨ ∃ n, s.worker = .batch n) (token : s.q.stopToken = true) :
      Effect c s e { s with worker := .stopping }
  | popped (x : α) (r : SeqRing α) (ready : s.Ready) (token : s.q.stopToken = false)
      (popped : s.q.r.popOne = .next (x, r)) :
      Effect c s e { s with q.r := r, worker := .emitting [x] }
  | woken (waiting : s.worker = .waiting false) : Effect c s e { s with worker := .waiting true }
  | emitted (x : α) (rest : List α) (worker : s.worker = .emitting (x :: rest)) :
      Effect c s e { s with worker := .emit rest, emitted := s.emitted ++ [x] }
  | stopped (worker : s.worker = .stopping) :
      Effect c s e { s with q.stopped := true, worker := .leaving }
  | left (worker : s.worker = .leaving) :
      Effect c s e { s with q.stopped := true, worker := .returned }
  | tokenSet (inUse : s.closer = .inUse) :
      Effect c s e { s with q.stopToken := true, closer := .tokenSet }
  | signalled (tokenSet : s.closer = .tokenSet) :
      Effect c s e { s with worker := s.worker.signal, closer := .spinning }
  | dropped (spinning : s.closer = .spinning) (stopped : s.q.stopped = true)
      (dispatcher : c = .dispatcher) : Effect c s e { s with closer := .destroyed }
  | freed (data : List α) (spinning : s.closer = .spinning) (stopped : s.q.stopped = true)
      (visited : s.q.r.visit s.q.r.cap s.q.r.frontPos = some data) :
      Effect c s e { s with closer := .destroyed, freed := data }
  | joined (returned : s.worker = .returned) (destroyed : s.closer = .destroyed) :
      Effect c s e { s with closer := .joined }

/-- **What the worker's section can do.** -/
theorem section_cases (hready : s.Ready) (h : s.section_ = .next s') : Effect c s e s' := by
  simp only [section_] at h
  split at h
  · rename_i hwait
    simp only [Bool.and_eq_true, beq_iff_eq, Bool.not_eq_true'] at hwait
    cases h
    exact .slept hready hwait.1 hwait.2
  · split at h
    · rename_i htoken
      cases h
      exact .stops (.inl hready) htoken
    · rename_i htoken
      simp only [Outcome.bind_eq_next, Outcome.pure_eq, Outcome.next_inj] at h
      obtain ⟨⟨x, r⟩, hpop, rfl⟩ := h
      exact .popped x r hready (Bool.eq_false_iff.mpr htoken) hpop

/-- A worker takes a batch. -/
theorem popBatch_cases (h : s.popBatch = .next s') : Effect c s e s' := by
  simp only [popBatch] at h
  split at h
  · rename_i n hbatch
    split at h
    · rename_i htoken
      cases h
      exact .stops (.inr ⟨n, hbatch⟩) htoken
    · rename_i htoken
      simp only [Outcome.bind_eq_next, Outcome.pure_eq, Outcome.next_inj] at h
      obtain ⟨⟨data, r⟩, hpop, rfl⟩ := h
      exact .batched n r data hbatch (Bool.eq_false_iff.mpr htoken) hpop
  · cases h

/-- A worker looks at the ring. -/
theorem look_cases (h : s.look c = .next s') : Effect c s e s' := by
  simp only [look] at h
  split at h
  · rename_i htop
    cases h
    refine .looked _ htop ?_
    cases c with
    | dispatcher => exact .inl rfl
    | database =>
      by_cases hundred : 100 < s.q.r.size
      · exact .inr ⟨100, if_pos hundred, by decide, hundred⟩
      · by_cases hten : 10 < s.q.r.size
        · exact .inr ⟨10, by simp only [hundred, hten, if_false, if_true], by decide, hten⟩
        · exact .inl (by simp only [hundred, hten, if_false])
  · cases h

/-- **The effect of an event.** -/
theorem step_cases (h : step c s e = .next s') : Effect c s e s' := by
  cases e with
  | push val callocOk =>
    simp only [step, push, Outcome.bind_eq_next, Outcome.await_eq_next, beq_iff_eq, Outcome.pure_eq,
      Outcome.next_inj] at h
    obtain ⟨_, hinUse, r, hpush, rfl⟩ := h
    exact .pushed val callocOk r rfl hinUse hpush
  | look => exact look_cases h
  | popBatch => exact popBatch_cases h
  | waitAndPop =>
    simp only [step, waitAndPop] at h
    split at h
    · rename_i hsingle
      exact section_cases (.inl hsingle) h
    · rename_i hwoken
      exact section_cases (.inr hwoken) h
    · cases h
  | spurious =>
    simp only [step] at h
    split at h
    · rename_i hwaiting
      cases h
      exact .woken hwaiting
    · cases h
  | emit =>
    simp only [step] at h
    split at h
    · rename_i x rest hdata
      cases h
      exact .emitted x rest hdata
    · cases h
  | setStopped =>
    simp only [step] at h
    split at h
    · rename_i hstopping
      cases h
      exact .stopped hstopping
    · cases h
  | leave =>
    simp only [step] at h
    split at h
    · rename_i hleaving
      cases h
      exact .left hleaving
    · cases h
  | setToken =>
    simp only [step, Outcome.bind_eq_next, Outcome.await_eq_next, beq_iff_eq, Outcome.pure_eq,
      Outcome.next_inj] at h
    obtain ⟨_, hinUse, rfl⟩ := h
    exact .tokenSet hinUse
  | signal =>
    simp only [step, Outcome.bind_eq_next, Outcome.await_eq_next, beq_iff_eq, Outcome.pure_eq,
      Outcome.next_inj] at h
    obtain ⟨_, hset, rfl⟩ := h
    exact .signalled hset
  | destroy =>
    simp only [step, destroy, Outcome.bind_eq_next, Outcome.await_eq_next, Bool.and_eq_true,
      beq_iff_eq] at h
    obtain ⟨_, ⟨hspinning, hstopped⟩, h⟩ := h
    cases c with
    | dispatcher =>
      cases h
      exact .dropped hspinning hstopped rfl
    | database =>
      simp only [Outcome.bind_eq_next, Outcome.awaitSome_eq_next, Outcome.pure_eq,
        Outcome.next_inj] at h
      obtain ⟨data, hvisit, rfl⟩ := h
      exact .freed data hspinning hstopped hvisit
  | join =>
    simp only [step] at h
    split at h
    · rename_i hreturned
      simp only [Outcome.bind_eq_next, Outcome.await_eq_next, beq_iff_eq, Outcome.pure_eq,
        Outcome.next_inj] at h
      obtain ⟨_, hdestroyed, rfl⟩ := h
      exact .joined hreturned hdestroyed
    · cases h

/-! ## Every event -/

/-- **The empty queue keeps the invariant.** -/
theorem Inv.init : Inv c (init : QueueSys α) where
  ok := SeqRing.Ok.initOf .seqRing
  cap := by
    show 32 ≤ 2 ^ 31
    omega
  account := by
    have hsize : (SeqRing.initOf .seqRing : SeqRing α).size = 0 := by
      simp [SeqRing.size, SeqRing.initOf]
    show [] = (SeqRing.initOf .seqRing : SeqRing α).toList
    rw [SeqRing.toList, hsize]
    rfl
  batch := fun _ h => by cases h
  hand := fun h => by cases h
  token := iff_of_true rfl rfl
  seen := fun h => by simp [Stops, QueueSys.init] at h
  stopped := by simp [QueueSys.init]
  asleep := fun h => by cases h
  ended := fun h => by simp [QueueSys.init] at h
  freed := fun h => by simp [QueueSys.init] at h
  joined := fun h => by cases h

/-- An element is pushed where there is room. -/
theorem Inv.pushed (h : Inv c s) {val : α} {callocOk : Bool} {r : SeqRing α}
    (hroom : s.q.r.size + 1 < 2 ^ 31) (hinUse : s.closer = .inUse)
    (hpush : s.q.r.pushBack val callocOk = .next r) :
    Inv c { s with q.r := r, worker := s.worker.signal, pushed := s.pushed ++ [val] } := by
  obtain ⟨hok, hlist⟩ := h.ok.pushBack (Nat.lt_trans hroom (by decide)) hpush
  have hsize : r.size = s.q.r.size + 1 := by
    rw [← SeqRing.length_toList, hlist, List.length_append, SeqRing.length_toList]
    rfl
  have hsig := s.worker.signal_cases
  exact
    { ok := hok
      cap := h.ok.pushBack_cap h.cap hroom hpush
      account := by
        show s.pushed ++ [val] = s.emitted ++ s.worker.signal.inHand ++ r.toList
        rw [h.account, hlist, QueueWorker.inHand_signal, List.append_assoc _ _ [val]]
      batch := fun n hn => by
        obtain ⟨heq, -⟩ | ⟨-, heq⟩ := hsig
        · obtain ⟨hpos, hlt⟩ := h.batch n (heq ▸ hn)
          exact ⟨hpos, by rw [hsize]; omega⟩
        · rw [heq] at hn
          cases hn
      hand := fun hn => by
        obtain ⟨heq, -⟩ | ⟨-, heq⟩ := hsig
        · exact h.hand (heq ▸ hn)
        · rw [heq] at hn
          cases hn
      token := h.token
      seen := fun hs => by
        obtain ⟨heq, -⟩ | ⟨-, heq⟩ := hsig
        · simp only [Stops, heq] at hs
          exact h.seen hs
        · simp [Stops, heq] at hs
      stopped := by
        obtain ⟨heq, -⟩ | ⟨hw, heq⟩ := hsig
        · simp only [heq]
          exact h.stopped
        · have hnot := h.stopped
          rw [hw] at hnot
          show s.q.stopped = true ↔ s.worker.signal = .leaving ∨ s.worker.signal = .returned
          rw [heq]
          simpa using hnot
      asleep := fun hw => by
        obtain ⟨heq, hne⟩ | ⟨-, heq⟩ := hsig
        · exact absurd (heq ▸ hw) hne
        · rw [heq] at hw
          cases hw
      ended := h.ended
      freed := fun hend => by simp [hinUse] at hend
      joined := fun hj => by simp [hinUse] at hj }

/-- The first elements are taken out, which the checks allow. -/
theorem Inv.batched (h : Inv c s) {n : Nat} {r : SeqRing α} {data : List α}
    (hbatch : s.worker = .batch n) (hpop : s.q.r.popFront n = .next (data, r)) :
    Inv c { s with q.r := r, worker := .emit data } := by
  obtain ⟨hpos, hlt⟩ := h.batch n hbatch
  obtain ⟨r', hpop', hok, hcap, hlist⟩ := h.ok.popFront_eq h.cap_lt hpos (Nat.le_of_lt hlt)
  rw [hpop', Outcome.next_inj, Prod.mk.injEq] at hpop
  obtain ⟨rfl, rfl⟩ := hpop
  have hne : s.q.r.toList.take n ≠ [] := by
    rw [← List.length_pos_iff, List.length_take, SeqRing.length_toList]
    omega
  obtain ⟨hnil, -⟩ | ⟨-, hemit⟩ := QueueWorker.emit_cases (s.q.r.toList.take n)
  · exact absurd hnil hne
  · rw [hemit]
    refine h.moved (w := s.emitted) (by simp [hbatch]) ⟨by simp, by simpa using hne, by simp,
      by simp⟩ hok (hcap ▸ h.cap) ?_
    rw [hbatch, hlist]
    simp only [QueueWorker.inHand, List.append_nil, List.append_assoc, List.take_append_drop]

/-- An element is popped in its turn. -/
theorem Inv.popped (h : Inv c s) {x : α} {r : SeqRing α} (hready : s.Ready)
    (hsize : 0 < s.q.r.size) (hpop : s.q.r.popOne = .next (x, r)) :
    Inv c { s with q.r := r, worker := .emitting [x] } := by
  obtain ⟨x', r', hpop', hok, hcap, hlist⟩ := h.ok.popOne_eq h.cap_lt hsize
  rw [hpop', Outcome.next_inj, Prod.mk.injEq] at hpop
  obtain ⟨rfl, rfl⟩ := hpop
  refine h.moved (w := s.emitted) hready.runs ⟨by simp, by simp, by simp, by simp⟩ hok
    (hcap ▸ h.cap) ?_
  rw [hready.inHand, hlist]
  simp [QueueWorker.inHand]

/-- Every step keeps the invariant. -/
theorem Inv.step (h : Inv c s) (hroom : Room s e) (hstep : step c s e = .next s') : Inv c s' := by
  have hpos (hready : s.Ready) (hpop : ∃ x r, s.q.r.popOne = .next (x, r)) : 0 < s.q.r.size := by
    refine Nat.pos_of_ne_zero fun hzero => ?_
    obtain ⟨x, r, hpop⟩ := hpop
    have hend : s.q.r.frontPos = s.q.r.endPos := by
      rw [h.ok.frontPos_eq, h.ok.endPos_eq, hzero, Nat.add_zero]
    simp [SeqRing.popOne, hend, Outcome.assert] at hpop
  have heffect := step_cases hstep
  cases heffect with
  | pushed val callocOk r event inUse pushed =>
    subst event
    exact h.pushed hroom inUse pushed
  | looked worker top next => exact h.looked top next
  | batched n r data batch token popped => exact h.batched batch popped
  | slept ready empty token => exact h.slept ready empty token
  | stops ready token => exact h.stops ready token
  | popped x r ready token popped => exact h.popped ready (hpos ready ⟨x, r, popped⟩) popped
  | woken waiting => exact h.woken waiting
  | emitted x rest worker => exact h.emitted worker
  | stopped worker =>
    refine h.quits (.inl worker) (.inl rfl) fun hj => ?_
    have hreturned := h.joined hj
    simp [worker] at hreturned
  | left worker => exact h.quits (.inr (.inl worker)) (.inr rfl) fun _ => rfl
  | tokenSet inUse => exact h.tokenSet
  | signalled tokenSet => exact h.signalled tokenSet
  | dropped spinning stopped dispatcher =>
    exact h.destroyed spinning stopped fun hdb => by simp [dispatcher] at hdb
  | freed data spinning stopped visited =>
    refine h.destroyed spinning stopped fun _ => ?_
    rw [h.ok.visit_front h.cap_lt, Option.some_inj] at visited
    exact visited.symm
  | joined returned destroyed => exact h.joins returned destroyed

/-- **and every run with room.** -/
theorem reachedBy_inv (h : (queueMachine α c).ReachedBy Room s) : Inv c s :=
  h.invariant Inv.init fun _ _ _ _ hs hroom hstep => hs.step hroom hstep

/-! ## The checks of the worker -/

/-- `calloc` gives what is asked of it. -/
def Memory : QueueEvent α → Prop
  | .push _ callocOk => callocOk = true
  | _ => True

/-- The worker's checks hold. -/
theorem Inv.section_not_aborts (h : Inv c s) : ¬ s.section_.Aborts := by
  rw [section_]
  split
  · simp
  · rename_i hbusy
    split
    · simp
    · rename_i htoken
      have hsize : 0 < s.q.r.size := by
        refine Nat.pos_of_ne_zero fun hzero => hbusy ?_
        simp [hzero, Bool.eq_false_iff.mpr htoken]
      obtain ⟨x, r, hpop, -⟩ := h.ok.popOne_eq h.cap_lt hsize
      rw [hpop]
      simp

/-- **No check fails**, of the pushing thread, the worker or the end. -/
theorem Inv.not_aborts (h : Inv c s) (hroom : Room s e) (hmem : Memory e) :
    ¬ (QueueSys.step c s e).Aborts := by
  cases e with
  | push val callocOk =>
    simp only [Memory] at hmem
    subst hmem
    obtain ⟨r, hpush, -⟩ := h.ok.pushBack_eq (Nat.lt_trans hroom (by decide)) val
    simp only [QueueSys.step, push, hpush, Outcome.next_bind]
    simp [Outcome.bind_aborts]
  | look =>
    simp only [QueueSys.step, look]
    split <;> simp
  | popBatch =>
    simp only [QueueSys.step, popBatch]
    split
    · rename_i n hbatch
      obtain ⟨hpos, hlt⟩ := h.batch n hbatch
      obtain ⟨r, hpop, -⟩ := h.ok.popFront_eq h.cap_lt hpos (Nat.le_of_lt hlt)
      rw [hpop]
      split <;> simp
    · simp
  | waitAndPop =>
    simp only [QueueSys.step, waitAndPop]
    split
    · exact h.section_not_aborts
    · exact h.section_not_aborts
    · simp
  | destroy =>
    cases c with
    | dispatcher => simp [QueueSys.step, destroy, Outcome.bind_aborts]
    | database => simp [QueueSys.step, destroy, Outcome.bind_aborts]
  | join =>
    simp only [QueueSys.step]
    split <;> simp [Outcome.bind_aborts]
  | spurious | emit | setStopped | leave =>
    simp only [QueueSys.step]
    split <;> simp
  | setToken | signal => simp [QueueSys.step, Outcome.bind_aborts]

/-! ## After the signal -/

/-- **After the signal every event is a step towards the end.** -/
theorem Inv.stepsLeft_step (h : Inv c s) (hends : s.Ends)
    (hstep : QueueSys.step c s e = .next s') :
    s'.Ends ∧ s'.stepsLeft + 1 = s.stepsLeft ∧ s'.pushed = s.pushed ∧ s'.q.r = s.q.r := by
  have htoken := h.token_of_ends hends
  have hnot : s.closer ≠ .inUse ∧ s.closer ≠ .tokenSet := by
    obtain hc | hc | hc := hends <;> simp [hc]
  have heffect := step_cases hstep
  cases heffect with
  | pushed val callocOk r event inUse pushed => exact absurd inUse hnot.1
  | looked worker top next =>
    refine ⟨hends, ?_, rfl, rfl⟩
    obtain rfl | ⟨n, rfl, -⟩ := next <;> simp only [stepsLeft, top, workerLeft] <;> omega
  | batched n r data batch token popped => simp [htoken] at token
  | slept ready empty token => simp [htoken] at token
  | stops ready token =>
    refine ⟨hends, ?_, rfl, rfl⟩
    obtain (hw | hw) | ⟨n, hw⟩ := ready <;> simp only [stepsLeft, hw, workerLeft] <;> omega
  | popped x r ready token popped => simp [htoken] at token
  | woken waiting => exact absurd hends (h.asleep waiting).2
  | emitted x rest worker =>
    refine ⟨hends, ?_, rfl, rfl⟩
    simp only [stepsLeft, workerLeft_emit]
    simp only [worker, workerLeft, List.length_cons]
    omega
  | stopped worker =>
    refine ⟨hends, ?_, rfl, rfl⟩
    simp only [stepsLeft, worker, workerLeft]
    omega
  | left worker =>
    refine ⟨hends, ?_, rfl, rfl⟩
    simp only [stepsLeft, worker, workerLeft]
    omega
  | tokenSet inUse => exact absurd inUse hnot.1
  | signalled tokenSet => exact absurd tokenSet hnot.2
  | dropped spinning stopped dispatcher =>
    refine ⟨.inr (.inl rfl), ?_, rfl, rfl⟩
    simp only [stepsLeft, spinning, closerLeft]
  | freed data spinning stopped visited =>
    refine ⟨.inr (.inl rfl), ?_, rfl, rfl⟩
    simp only [stepsLeft, spinning, closerLeft]
  | joined returned destroyed =>
    refine ⟨.inr (.inr rfl), ?_, rfl, rfl⟩
    simp only [stepsLeft, destroyed, closerLeft]

/-- Before the end there is always something that can be done. -/
theorem Inv.live (h : Inv c s) (hends : s.Ends) (hjoined : s.closer ≠ .joined) :
    ∃ e s', QueueSys.step c s e = .next s' := by
  have htoken := h.token_of_ends hends
  cases hw : s.worker with
  | top => exact ⟨.look, _, by simp only [QueueSys.step, look, hw]; rfl⟩
  | batch n => exact ⟨.popBatch, _, by simp only [QueueSys.step, popBatch, hw, htoken]; rfl⟩
  | single =>
    exact ⟨.waitAndPop, _, by
      simp only [QueueSys.step, waitAndPop, section_, hw, htoken]; simp; rfl⟩
  | waiting woken =>
    cases woken with
    | false => exact absurd hends (h.asleep hw).2
    | true =>
      exact ⟨.waitAndPop, _, by
        simp only [QueueSys.step, waitAndPop, section_, hw, htoken]; simp; rfl⟩
  | emitting data =>
    cases data with
    | nil => exact absurd hw h.hand
    | cons x rest => exact ⟨.emit, _, by simp only [QueueSys.step, hw]; rfl⟩
  | stopping => exact ⟨.setStopped, _, by simp only [QueueSys.step, hw]; rfl⟩
  | leaving => exact ⟨.leave, _, by simp only [QueueSys.step, hw]; rfl⟩
  | returned =>
    obtain hc | hc | hc := hends
    · have hstopped := h.stopped.mpr (.inr hw)
      cases c with
      | dispatcher =>
        exact ⟨.destroy, _, by simp only [QueueSys.step, destroy, hc, hstopped]; rfl⟩
      | database =>
        have hvisit := h.ok.visit_front h.cap_lt
        exact ⟨.destroy, _, by
          simp only [QueueSys.step, destroy, hc, hstopped, hvisit]; rfl⟩
    · exact ⟨.join, _, by simp only [QueueSys.step, hw, hc]; rfl⟩
    · exact absurd hc hjoined

/-- A run after the signal. -/
theorem Inv.run_ends (h : Inv c s) (hends : s.Ends) {es : List (QueueEvent α)}
    (hrun : (queueMachine α c).run s es = some s') :
    Inv c s' ∧ s'.Ends ∧ s'.stepsLeft + es.length = s.stepsLeft ∧ s'.pushed = s.pushed ∧
      s'.q.r = s.q.r := by
  induction es generalizing s with
  | nil =>
    cases hrun
    exact ⟨h, hends, rfl, rfl, rfl⟩
  | cons e es ih =>
    obtain ⟨s₁, hstep, hrun⟩ := Machine.run_cons_eq_some.mp hrun
    obtain ⟨hends₁, hleft, hpushed, hring⟩ := h.stepsLeft_step hends hstep
    have hroom : Room s e := by
      cases e with
      | push val callocOk =>
        obtain ⟨_, hinUse, -⟩ := Outcome.bind_eq_next.mp hstep
        have hclosed : s.closer = .inUse := by simpa using hinUse
        simp [Ends, hclosed] at hends
      | _ => trivial
    obtain ⟨hinv, hends', hlen, hpushed', hring'⟩ := ih (h.step hroom hstep) hends₁ hrun
    refine ⟨hinv, hends', ?_, hpushed'.trans hpushed, hring'.trans hring⟩
    rw [List.length_cons]
    omega

end QueueSys

/-! ## The queue -/

variable {α : Type u} [Inhabited α] {c : Consumer} {s : QueueSys α}

/-- **Nothing is lost, doubled or reordered**, and no check fails where there is memory: what has
been pushed is what was passed on, what the worker has in hand and what the ring still holds. The
queue of the database gives what it still holds to its free function. -/
theorem notifyQueue_delivers (h : (queueMachine α c).ReachedBy QueueSys.Room s) :
    s.pushed = s.emitted ++ s.worker.inHand ++ s.q.r.toList ∧
    (∀ e, s.Room e → QueueSys.Memory e → ¬ ((queueMachine α c).step s e).Aborts) ∧
    (s.closer = .joined →
      s.worker = .returned ∧ (c = .database → s.pushed = s.emitted ++ s.freed)) := by
  have hinv := QueueSys.reachedBy_inv h
  refine ⟨hinv.account, fun e hroom hmem => hinv.not_aborts hroom hmem, fun hjoined => ?_⟩
  have hreturned := hinv.joined hjoined
  refine ⟨hreturned, fun hdb => ?_⟩
  have haccount := hinv.account
  rw [hreturned] at haccount
  rw [haccount, hinv.freed (.inr hjoined) hdb]
  simp [QueueWorker.inHand]

/-- Eleven elements, of which a batch of ten is passed on and the last is freed. -/
theorem notifyQueue_delivers_batch : ∃ s : QueueSys Nat,
    s.closer = .joined ∧ s.emitted = List.range 10 ∧ s.freed = [10] ∧
    s.pushed = s.emitted ++ s.freed := by
  have hrun := Machine.ReachedBy.exists_of_run (M := queueMachine Nat .database)
    (C := QueueSys.Room)
    ((List.range 11).map (fun val => QueueEvent.push val true) ++
      [.look, .popBatch] ++ List.replicate 10 .emit ++
      [.look, .setToken, .waitAndPop, .signal, .setStopped, .destroy, .leave, .join])
    (fun s => s.closer == .joined && s.emitted == List.range 10 && s.freed == [10])
    (by decide)
  obtain ⟨s, hs, hend⟩ := hrun
  simp only [Bool.and_eq_true, beq_iff_eq] at hend
  have hjoined := hend.1.1
  exact ⟨s, hjoined, hend.1.2, hend.2, ((notifyQueue_delivers hs).2.2 hjoined).2 rfl⟩

/-- **No wake-up is lost, and the end comes**: a worker that sleeps has passed everything on, and
once `free_tsnq` has signalled no order of the steps is longer than the data in hand and six more,
none of them stops before the thread is joined, and only what is in hand is still passed on. -/
theorem notifyQueue_ends (h : (queueMachine α c).ReachedBy QueueSys.Room s) :
    (s.worker = .waiting false → s.pushed = s.emitted ∧ ¬ s.Ends) ∧
    (s.Ends → ∀ es s', (queueMachine α c).run s es = some s' →
      es.length ≤ s.worker.inHand.length + 6 ∧
      s'.emitted ++ s'.worker.inHand = s.emitted ++ s.worker.inHand ∧
      (s'.closer = .joined ∨ ∃ e s'', (queueMachine α c).step s' e = .next s'')) := by
  have hinv := QueueSys.reachedBy_inv h
  refine ⟨fun hasleep => ?_, fun hends es s' hrun => ?_⟩
  · obtain ⟨hempty, hnot⟩ := hinv.asleep hasleep
    have hnil : s.q.r.toList = [] := by
      rw [← List.length_eq_zero_iff, SeqRing.length_toList, hempty]
    have haccount := hinv.account
    rw [hasleep, hnil] at haccount
    exact ⟨by simpa [QueueWorker.inHand] using haccount, hnot⟩
  · obtain ⟨hinv', hends', hlen, hpushed, hring⟩ := hinv.run_ends hends hrun
    have hle := s.stepsLeft_le hends
    have haccount := hinv'.account
    rw [hpushed, hring, hinv.account] at haccount
    refine ⟨by omega, (List.append_cancel_right haccount).symm, ?_⟩
    by_cases hjoined : s'.closer = .joined
    · exact .inl hjoined
    · exact .inr (hinv'.live hends' hjoined)

/-- With one element in hand when the signal comes, the seven steps. -/
theorem notifyQueue_ends_seven : ∃ s : QueueSys Nat, s.Ends ∧ s.worker.inHand = [0] ∧
    ∀ es s', (queueMachine Nat .dispatcher).run s es = some s' →
      es.length ≤ 7 ∧ s'.emitted ++ s'.worker.inHand = [0] := by
  have hrun := Machine.ReachedBy.exists_of_run (M := queueMachine Nat .dispatcher)
    (C := QueueSys.Room)
    [.look, .push 0 true, .push 1 true, .waitAndPop, .setToken, .signal]
    (fun s => s.closer == .spinning && s.worker.inHand == [0] && s.emitted == [])
    (by decide)
  obtain ⟨s, hs, hend⟩ := hrun
  simp only [Bool.and_eq_true, beq_iff_eq] at hend
  obtain ⟨⟨hspinning, hhand⟩, hemitted⟩ := hend
  have hends : s.Ends := .inl hspinning
  refine ⟨s, hends, hhand, fun es s' hes => ?_⟩
  obtain ⟨hlen, hsame, -⟩ := (notifyQueue_ends hs).2 hends es s' hes
  rw [hhand, hemitted] at hsame
  rw [hhand] at hlen
  exact ⟨hlen, hsame⟩

end FlexRic
