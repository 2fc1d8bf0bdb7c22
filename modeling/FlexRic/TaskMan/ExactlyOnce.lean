import FlexRic.TaskMan.Shutdown

/-!
# FlexRic.TaskMan.ExactlyOnce

What becomes of a task that is submitted.

* `tasks_exactly_once`: a worker runs it, once, or `free_task_manager` hands
  it to the clean function, once; and neither the calls nor the workers nor
  `free_task_manager` stop on the way.
* `no_args_lost`: but a task without arguments ends the process.
* `left_over_lost`: without a clean function what is left in the queues is
  lost, and a call that is at a queue in the middle of being freed is too late.
-/

namespace FlexRic

namespace TaskSys

variable {s : TaskSys} {k : Nat}

/-- The tasks in the queues, but for what has been cleaned. -/
def inQueues (s : TaskSys) : List Task := (List.range s.lenThr).flatMap s.left

/-- The tasks that workers have taken and not run. -/
def inBatches (s : TaskSys) : List Task := (List.range s.lenThr).flatMap fun k => (s.workers k).todo

/-- The tasks that calls have not put into a queue yet. -/
def inHands (s : TaskSys) : List Task := s.calls.filterMap AsyncCall.hand

/-- The tasks that are through: run, or cleaned. -/
def settled (s : TaskSys) : List Task := s.executed ++ s.cleaned

/-- **Exactly once**: each task submitted is in one place, and through when `free_task_manager` is
done; and nobody stops before that. -/
structure ExactlyOnce (s : TaskSys) : Prop where
  places : (s.settled ++ s.inQueues ++ s.inBatches ++ s.inHands).Perm s.submitted
  freed : s.freePc = .freed → s.settled.Perm s.submitted
  /-- a call of `async_task_manager` goes on until its task is in a queue and it has signalled -/
  calls : ∀ k c, s.calls[k]? = some c →
    ∀ locked, ∃ s', s.step (.call k locked true) = .next s' ∧ s'.callWork < s.callWork
  /-- a worker goes on, unless it sleeps -/
  workers : ∀ k < s.lenThr, s.workers k ≠ .asleep → s.workers k ≠ .exited →
    ∀ locked, ∃ s', s.step (.worker k locked) = .next s'
  /-- and it sleeps only on an empty queue, or a signal is on the way -/
  asleep : ∀ k, s.workers k = .asleep → s.freePc = .signalling k ∨ s.Awaited k
  /-- the worker that `free_task_manager` waits for gets to its end -/
  joins : ∀ k, s.freePc = .joining k → k < s.lenThr → s.workers k ≠ .exited →
    ∀ locked, ∃ s', s.step (.worker k locked) = .next s' ∧ Closer k s' s
  /-- and so does `free_task_manager` -/
  frees : s.freePc ≠ .alive → s.freePc ≠ .freed →
    (∀ k, s.freePc = .joining k → k < s.lenThr → s.workers k = .exited) →
    ∃ s', s.step .freeNext = .next s' ∧ FreeCloser s' s

/-- **Every task is at one place**: done, queued, in a batch or in a call. -/
theorem Inv.perm (h : Inv s) :
    (s.settled ++ s.inQueues ++ s.inBatches ++ s.inHands).Perm s.submitted := by
  rw [List.perm_iff_count]
  intro t
  have hleft : s.inQueues.count t = s.leftCount t := List.count_flatMap
  have htodo : s.inBatches.count t = s.todoCount t := List.count_flatMap
  have hhand : s.inHands.count t = handCount s.calls t := List.count_filterMap
  rw [h.balance t]
  simp only [settled, List.count_append, hleft, htodo, hhand]

/-- At the end nobody has a task any more. -/
theorem Inv.freed (h : Inv s) (hfreed : s.freePc = .freed) :
    s.inQueues = [] ∧ s.inBatches = [] ∧ s.inHands = [] := by
  refine ⟨?_, ?_, ?_⟩
  · rw [inQueues, List.flatMap_eq_nil_iff]
    intro i _
    rw [left, hfreed]
  · rw [inBatches, List.flatMap_eq_nil_iff]
    intro k hk
    rw [h.exited k (by rw [joinedUpTo, hfreed]; exact List.mem_range.mp hk)]
    rfl
  · have hnil : s.calls = [] := List.eq_nil_iff_forall_not_mem.mpr fun c hc => by
      have hlive := (h.calls c hc).live
      rw [releasing, hfreed] at hlive
      cases hlive
    rw [inHands, hnil, List.filterMap_nil]

/-- **Exactly once.** In every run with tasks that have arguments, in which no call is at a queue
that `free_task_manager` has come to, what is left in the queues has a clean function to go to, and
no queue holds more than 32 bits can count, with any number of workers and calls: each task is run
by a worker, or cleaned, and that once. -/
theorem tasks_exactly_once (numThreads : Nat) (s : TaskSys)
    (h : (machine numThreads).ReachedBy Cond s) : ExactlyOnce s := by
  have hi := inv h
  have hw := wakeful h
  refine ⟨hi.perm, fun hfreed => ?_, fun k c hc locked => call_progress hi hc locked,
    fun k hk hawake halive locked => worker_enabled hi hk hawake halive locked, hw.waiting,
    fun k hjoin hk halive locked => worker_progress hi hw hjoin hk halive locked,
    free_progress hi hw⟩
  obtain ⟨hqueues, hbatches, hhands⟩ := hi.freed hfreed
  simpa only [hqueues, hbatches, hhands, List.append_nil] using hi.perm

/-- The only worker has found its queue empty, and is about to look again
under its mutex. -/
def emptyHanded : List TaskEvent := List.replicate 4 (.worker 0 true)

/-- A call puts the task into the queue and returns. -/
def submit (t : Task) : List TaskEvent := [.async t, .call 0 true true, .call 0 true true]

/-- The queue is shut down, the worker leaves, and the queue is next to be
freed. -/
def shutDown (clean : Bool) : List TaskEvent :=
  [.free clean, .freeNext, .freeNext, .freeNext, .worker 0 true, .freeNext, .freeNext]

/-- One task is run by the worker, and one is handed to the clean function. -/
theorem tasks_exactly_once_two :
    ∃ s, (machine 1).ReachedBy Cond s ∧ s.executed = [⟨1, 1⟩] ∧ s.cleaned = [⟨2, 1⟩] ∧
      s.settled.Perm s.submitted := by
  obtain ⟨s, hr, hs⟩ := Machine.ReachedBy.exists_of_run (M := machine 1) (C := Cond)
    (submit ⟨1, 1⟩ ++ List.replicate 3 (.worker 0 true) ++ emptyHanded ++ submit ⟨2, 1⟩ ++
      shutDown true ++ [.freeNext, .freeNext, .freeNext, .freeNext])
    (fun s => s.freePc == .freed && s.executed == [⟨1, 1⟩] && s.cleaned == [⟨2, 1⟩])
    (by decide)
  simp only [Bool.and_eq_true, beq_iff_eq] at hs
  exact ⟨s, hr, hs.1.2, hs.2, (tasks_exactly_once 1 s hr).freed hs.1.1⟩

/-- Whatever the state, the first attempt to put a task without arguments into a queue fails its
assertion. -/
theorem no_args_aborts {c : AsyncCall} {locked callocOk : Bool} (hc : s.calls[k]? = some c)
    (hpc : c.pc = .trying 0) (hthreads : 0 < s.lenThr) (hargs : c.t.args = 0) :
    (s.step (.call k locked callocOk)).Aborts := by
  simp only [step, callStep, hc, Outcome.awaitSome, Outcome.next_bind, hpc, hthreads, if_true,
    Outcome.bind_aborts]
  cases hreleased : s.released (c.queueAt s.lenThr 0) with
  | true => exact .inl (by simp)
  | false => exact .inr ⟨⟨⟩, by simp, .inl (NotQ.tryPush_aborts hargs)⟩

/-- The call does not go on. -/
theorem no_args_lost : ¬ ∀ s, (machine 1).Reachable s → ExactlyOnce s := by
  intro hclaim
  obtain ⟨s, hr, hs⟩ := Machine.Reachable.exists_of_run (M := machine 1) [.async ⟨0, 1⟩]
    (fun s => s.calls == [⟨⟨0, 1⟩, 0, .trying 0⟩] && s.lenThr == 1) (by decide)
  simp only [Bool.and_eq_true, beq_iff_eq] at hs
  have hc : s.calls[0]? = some ⟨⟨0, 1⟩, 0, .trying 0⟩ := by rw [hs.1]; rfl
  obtain ⟨s', hs', -⟩ := (hclaim s hr).calls 0 _ hc true
  exact Outcome.not_aborts_of_next hs' (no_args_aborts hc rfl (by rw [hs.2]; decide) rfl)

/-- The worker leaves a task in its queue because it is done.  Without a clean
function, which is how the RIC stops, nothing happens to it; with one, a task
that comes while the queue is freed is lost; and a call that signals after
that comes to a queue that is gone. -/
theorem left_over_lost :
    (¬ ∀ s, (machine 1).Reachable s → s.freePc = .freed → s.settled.Perm s.submitted) ∧
    (¬ ∀ s, (machine 1).Reachable s → s.freePc = .freed → s.clean = true →
      (s.settled ++ s.inHands).Perm s.submitted) ∧
    ¬ ∀ s, (machine 1).Reachable s → s.settled.Perm s.submitted →
      ¬ (s.step (.call 0 true true)).Aborts := by
  refine ⟨fun hclaim => ?_, fun hclaim => ?_, fun hclaim => ?_⟩
  · obtain ⟨s, hr, hs⟩ := Machine.Reachable.exists_of_run (M := machine 1)
      (emptyHanded ++ submit ⟨1, 1⟩ ++ shutDown false ++ [.freeNext, .freeNext])
      (fun s => s.freePc == .freed && s.settled == [] && s.submitted == [⟨1, 1⟩])
      (by decide)
    simp only [Bool.and_eq_true, beq_iff_eq] at hs
    have hperm := hclaim s hr hs.1.1
    rw [hs.1.2, hs.2] at hperm
    exact absurd hperm.length_eq (by decide)
  · obtain ⟨s, hr, hs⟩ := Machine.Reachable.exists_of_run (M := machine 1)
      (emptyHanded ++ shutDown true ++ [.freeNext, .async ⟨1, 1⟩, .call 0 true true, .freeNext, .freeNext])
      (fun s => s.freePc == .freed && s.clean && (s.settled ++ s.inHands == []) &&
        s.submitted == [⟨1, 1⟩]) (by decide)
    simp only [Bool.and_eq_true, beq_iff_eq] at hs
    have hperm := hclaim s hr hs.1.1.1 hs.1.1.2
    rw [hs.1.2, hs.2] at hperm
    exact absurd hperm.length_eq (by decide)
  · obtain ⟨s, hr, hs⟩ := Machine.Reachable.exists_of_run (M := machine 1)
      ([.async ⟨1, 1⟩, .call 0 true true] ++ List.replicate 7 (.worker 0 true) ++ shutDown true ++
        [.freeNext, .freeNext])
      (fun s => s.settled == s.submitted && (s.step (.call 0 true true)).aborted)
      (by decide)
    simp only [Bool.and_eq_true, beq_iff_eq] at hs
    exact hclaim s hr (by rw [hs.1]) (Outcome.aborts_of_aborted hs.2)

end TaskSys

end FlexRic
