import FlexRic.TaskMan.System

/-!
# FlexRic.TaskMan.Steps

What a step of the task manager does, as one relation (`Move`): a task goes
from a call into a queue, from the front of a queue to a worker, from the
worker to the executed ones, from a queue that is freed to the cleaned ones;
or only somebody moves on.
-/

namespace FlexRic

/-- The tasks a worker has taken and not run. -/
def WorkerPc.todo : WorkerPc → List Task
  | .running todo => todo
  | _ => []

namespace TaskSys

variable {s s' : TaskSys} {e : TaskEvent} {k i j n : Nat}

/-- A call with a complete task, at a queue that is not being freed. -/
structure CallOk (s : TaskSys) (c : AsyncCall) : Prop where
  func : c.t.func ≠ 0
  args : c.t.args ≠ 0
  inside : c.queue s.lenThr < s.lenThr
  live : s.releasing (c.queue s.lenThr) = false

/-- The first queue of a call, and each later one, is one of the task manager's. -/
theorem queue_trying_lt {c : AsyncCall} (hpos : 0 < s.lenThr) (hpc : c.pc = .trying i) :
    c.queue s.lenThr < s.lenThr := by
  simp only [AsyncCall.queue, hpc]
  split <;> exact Nat.mod_lt _ hpos

/-- What a step does to a task manager whose rings are well formed. -/
inductive Move (s : TaskSys) : TaskSys → Prop
  | submit (t : Task) (threads : 0 < s.lenThr) (ok : s.CallOk ⟨t, s.index, .trying 0⟩) : Move s
      { s with
        index := s.index + 1
        calls := s.calls ++ [⟨t, s.index, .trying 0⟩]
        submitted := s.submitted ++ [t] }
  | retry {k i : Nat} {c : AsyncCall} (call : s.calls[k]? = some c) (pc : c.pc = .trying i)
      (callOk : s.CallOk { c with pc := .trying (i + 1) }) :
      Move s (s.setCall k { c with pc := .trying (i + 1) })
  | put {k i j : Nat} {c : AsyncCall} {q : NotQ} (call : s.calls[k]? = some c)
      (pc : c.pc = .trying i) (inside : j < s.lenThr) (live : s.releasing j = false)
      (callOk : s.CallOk { c with pc := .signalling j }) (ok : q.r.Ok) (list : q.toList = (s.queues j).toList ++ [c.t])
      (done : q.done = (s.queues j).done) :
      Move s ((s.setQueue j q).setCall k { c with pc := .signalling j })
  | signalled {k j : Nat} {c : AsyncCall} (call : s.calls[k]? = some c)
      (pc : c.pc = .signalling j) : Move s { s.signal j with calls := s.calls.eraseIdx k }
  | take {k j : Nat} {q : NotQ} {ts : List Task} (worker : k < s.lenThr) (inside : j < s.lenThr)
      (todo : (s.workers k).todo = []) (alive : s.workers k ≠ .exited)
      (taken : (s.queues j).Taken ts q) :
      Move s ((s.setQueue j q).setWorker k (.running ts))
  | turn {k : Nat} {pc : WorkerPc} (todo : (s.workers k).todo = []) (alive : s.workers k ≠ .exited)
      (todo' : pc.todo = []) (sleep : pc = .asleep → (s.queues k).waits = true)
      (exit : pc = .exited → (s.queues k).done = true) : Move s (s.setWorker k pc)
  | run {k : Nat} {t : Task} {todo : List Task} (worker : k < s.lenThr)
      (pc : s.workers k = .running (t :: todo)) :
      Move s { s.setWorker k (.running todo) with executed := s.executed ++ [t] }
  | start (clean : Bool) (at_ : s.freePc = .alive) : Move s { s with freePc := .marking 0, clean }
  | mark {i : Nat} (at_ : s.freePc = .marking i) (inside : i < s.lenThr) :
      Move s { s.setQueue i { s.queues i with done := true } with freePc := .signalling i }
  | marked {i : Nat} (at_ : s.freePc = .marking i) (all : s.lenThr ≤ i) :
      Move s { s with freePc := .joining 0 }
  | markSignal {i : Nat} (at_ : s.freePc = .signalling i) :
      Move s { s.signal i with freePc := .marking (i + 1) }
  | join {i : Nat} (at_ : s.freePc = .joining i) (exited : s.workers i = .exited) :
      Move s { s with freePc := .joining (i + 1) }
  | joined {i : Nat} (at_ : s.freePc = .joining i) (all : s.lenThr ≤ i) :
      Move s { s with freePc := .freeing 0 }
  | clean {i : Nat} (at_ : s.freePc = .freeing i) (inside : i < s.lenThr)
      (apart : ∀ c ∈ s.calls, c.queue s.lenThr ≠ i) (walkable : (s.queues i).Walkable) :
      Move s { s with freePc := .cleaning i (s.queues i).r.frontPos (s.queues i).r.endPos }
  | cleanNext {i it stop : Nat} (at_ : s.freePc = .cleaning i it stop) (ne : it ≠ stop)
      (inside : it < (s.queues i).r.cap) (counts : it + 1 < 2 ^ 32) :
      Move s { s with
        freePc := .cleaning i ((s.queues i).r.nextPos it) stop
        cleaned := s.cleaned ++ [(s.queues i).r.array it] }
  | cleaned {i it : Nat} (at_ : s.freePc = .cleaning i it it) :
      Move s { s with freePc := .freeing (i + 1) }
  | drop {i : Nat} (at_ : s.freePc = .freeing i) (inside : i < s.lenThr)
      (apart : ∀ c ∈ s.calls, c.queue s.lenThr ≠ i) (empty : (s.queues i).toList = []) :
      Move s { s with freePc := .freeing (i + 1) }
  | freed {i : Nat} (at_ : s.freePc = .freeing i) (all : s.lenThr ≤ i) :
      Move s { s with freePc := .freed }

@[simp] theorem signal_lenThr : (s.signal j).lenThr = s.lenThr := by unfold signal; split <;> rfl
@[simp] theorem signal_queues : (s.signal j).queues = s.queues := by unfold signal; split <;> rfl
@[simp] theorem signal_freePc : (s.signal j).freePc = s.freePc := by unfold signal; split <;> rfl
@[simp] theorem signal_clean : (s.signal j).clean = s.clean := by unfold signal; split <;> rfl
@[simp] theorem signal_cleaned : (s.signal j).cleaned = s.cleaned := by unfold signal; split <;> rfl

/-- A signal only wakes somebody up. -/
theorem signal_eq (s : TaskSys) (j : Nat) :
    s.signal j = s ∨ s.workers j = .asleep ∧ s.signal j = s.setWorker j .popping := by
  unfold signal
  split
  · exact .inr ⟨‹_›, rfl⟩
  · exact .inl rfl

@[simp] theorem setQueue_self (s : TaskSys) (i : Nat) : s.setQueue i (s.queues i) = s := by
  rw [setQueue, Function.update_eq_self]

/-- **What a call does is one of the moves.** -/
theorem call_move (hok : ∀ i, (s.queues i).r.Ok) (hcalls : ∀ c ∈ s.calls, s.CallOk c)
    {locked callocOk : Bool} (hc : Cond s (.call k locked callocOk))
    (hs : s.callStep k locked callocOk = .next s') : Move s s' := by
  simp only [callStep, Outcome.bind_eq_next, Outcome.awaitSome_eq_next] at hs
  obtain ⟨c, hcall, hs⟩ := hs
  obtain ⟨hfunc, hargs, hin, hlive⟩ := hcalls c (List.mem_of_getElem? hcall)
  have hc : s.CallCond c locked := hc c hcall
  cases hpc : c.pc with
  | trying i =>
    simp only [AsyncCall.queue, hpc] at hin hlive
    simp only [CallCond, AsyncCall.queue, hpc] at hc
    simp only [hpc] at hs
    split at hs
    · rename_i hi
      simp only [hi, if_true, true_and] at hin hlive hc
      simp only [Outcome.bind_eq_next, Prod.exists] at hs
      obtain ⟨-, -, pushed, q, hpush, hs⟩ := hs
      have hroom (hlocked : locked = true) : (s.queues (c.queueAt s.lenThr i)).Room := by
        simpa [hlocked] using hc
      obtain ⟨hlocked, rfl, rfl⟩ | ⟨rfl, hok', hlist, hdone⟩ :=
        NotQ.tryPush_eq_next (hok _) hroom hpush
      · simp only [Bool.false_eq_true, if_false, setQueue_self] at hs
        cases hs
        refine .retry hcall hpc ⟨hfunc, hargs, ?_, ?_⟩
        · exact queue_trying_lt (Nat.lt_of_le_of_lt (Nat.zero_le i) hi) rfl
        · simpa [hlocked, AsyncCall.queue] using hc
      · cases hs
        exact .put hcall hpc hin hlive ⟨hfunc, hargs, hin, hlive⟩ hok' hlist hdone
    · rename_i hi
      simp only [hi, if_false, false_and] at hin hlive hc
      simp only [Outcome.bind_eq_next, Outcome.pure_eq, Outcome.next_inj] at hs
      obtain ⟨-, -, q, hpush, rfl⟩ := hs
      obtain ⟨hok', hlist, hdone⟩ := NotQ.push_eq_next (hok _) hc hpush
      exact .put hcall hpc hin hlive ⟨hfunc, hargs, hin, hlive⟩ hok' hlist hdone
  | signalling j =>
    simp only [hpc, Outcome.bind_eq_next, Outcome.pure_eq, Outcome.next_inj] at hs
    obtain ⟨-, -, rfl⟩ := hs
    exact .signalled hcall hpc

/-- What a worker does is one of the moves. -/
theorem worker_move (hok : ∀ i, (s.queues i).r.Ok) {locked : Bool}
    (hs : s.workerStep k locked = .next s') : Move s s' := by
  simp only [workerStep, Outcome.bind_eq_next, Outcome.await_eq_next, decide_eq_true_eq] at hs
  obtain ⟨-, hk, hs⟩ := hs
  cases hpc : s.workers k with
  | stealing i =>
    have htodo : (s.workers k).todo = [] := by rw [hpc]; rfl
    have halive : s.workers k ≠ .exited := by simp [hpc]
    simp only [hpc] at hs
    split at hs
    · have hin : i % s.lenThr < s.lenThr := Nat.mod_lt _ (Nat.lt_of_le_of_lt (Nat.zero_le k) hk)
      simp only [Outcome.bind_eq_next, Prod.exists] at hs
      obtain ⟨ret, q, hpop, hs⟩ := hs
      obtain ⟨rfl, rfl⟩ | ⟨ts, rfl, htaken, -⟩ := NotQ.tryPop_eq_next (hok _) hpop
      · cases hs
        rw [setQueue_self]
        exact .turn htodo halive rfl (by simp) (by simp)
      · cases hs
        exact .take hk hin htodo halive htaken
    · cases hs
      exact .turn htodo halive rfl (by simp) (by simp)
  | popping =>
    have htodo : (s.workers k).todo = [] := by rw [hpc]; rfl
    have halive : s.workers k ≠ .exited := by simp [hpc]
    simp only [hpc] at hs
    split at hs
    · rename_i hwaits
      cases hs
      exact .turn htodo halive rfl (fun _ => hwaits) (by simp)
    · simp only [Outcome.bind_eq_next, Prod.exists] at hs
      obtain ⟨ret, q, hpop, hs⟩ := hs
      obtain ⟨hdone, rfl, rfl⟩ | ⟨ts, rfl, htaken⟩ := NotQ.pop_eq_next (hok _) hpop
      · cases hs
        rw [setQueue_self]
        exact .turn htodo halive rfl (by simp) fun _ => hdone
      · cases hs
        exact .take hk hk htodo halive htaken
  | asleep => simp [hpc] at hs
  | running todo =>
    cases todo with
    | nil =>
      simp only [hpc] at hs
      cases hs
      exact .turn (by rw [hpc]; rfl) (by simp [hpc]) rfl (by simp) (by simp)
    | cons t todo =>
      simp only [hpc] at hs
      cases hs
      exact .run hk hpc
  | exited => simp [hpc] at hs

/-- What the shutdown does is one of the moves. -/
theorem free_move (hc : Cond s .freeNext)
    (hwalk : ∀ i it stop, s.freePc = .cleaning i it stop → it = stop ∨ it + 1 < 2 ^ 32)
    (hs : s.freeStep = .next s') : Move s s' := by
  cases hpc : s.freePc with
  | alive => simp [freeStep, hpc] at hs
  | marking i =>
    simp only [freeStep, hpc] at hs
    split at hs
    · rename_i hi
      cases hs
      exact .mark hpc hi
    · rename_i hi
      cases hs
      exact .marked hpc (Nat.not_lt.mp hi)
  | signalling i =>
    simp only [freeStep, hpc] at hs
    cases hs
    exact .markSignal hpc
  | joining i =>
    simp only [freeStep, hpc] at hs
    split at hs
    · simp only [Outcome.bind_eq_next, Outcome.await_eq_next, beq_iff_eq] at hs
      obtain ⟨-, hexited, hs⟩ := hs
      cases hs
      exact .join hpc hexited
    · rename_i hi
      cases hs
      exact .joined hpc (Nat.not_lt.mp hi)
  | freeing i =>
    simp only [Cond, hpc] at hc
    simp only [freeStep, hpc] at hs
    split at hs
    · rename_i hi
      obtain ⟨hapart, hc⟩ := hc hi
      simp only [Outcome.bind_eq_next] at hs
      obtain ⟨-, -, hs⟩ := hs
      split at hs
      · rename_i hclean
        cases hs
        exact .clean hpc hi hapart (by simpa [hclean] using hc)
      · rename_i hclean
        cases hs
        exact .drop hpc hi hapart (by simpa [hclean] using hc)
    · rename_i hi
      cases hs
      exact .freed hpc (Nat.not_lt.mp hi)
  | cleaning i it stop =>
    simp only [freeStep, hpc] at hs
    split at hs
    · rename_i heq
      subst heq
      cases hs
      exact .cleaned hpc
    · rename_i hne
      simp only [Outcome.bind_eq_next, Outcome.assert_eq_next, decide_eq_true_eq] at hs
      obtain ⟨-, hin, hs⟩ := hs
      cases hs
      exact .cleanNext hpc hne hin ((hwalk i it stop hpc).resolve_left hne)
  | freed => simp [freeStep, hpc] at hs

/-- Every step is one of these. -/
theorem step_move (hok : ∀ i, (s.queues i).r.Ok) (hcalls : ∀ c ∈ s.calls, s.CallOk c)
    (hwalk : ∀ i it stop, s.freePc = .cleaning i it stop → it = stop ∨ it + 1 < 2 ^ 32)
    (hc : Cond s e) (hs : s.step e = .next s') : Move s s' := by
  cases e with
  | async t =>
    simp only [step, async, Outcome.bind_eq_next, Outcome.assert_eq_next, decide_eq_true_eq,
      bne_iff_ne, Outcome.pure_eq, Outcome.next_inj] at hs
    obtain ⟨-, hthreads, -, hfunc, rfl⟩ := hs
    exact .submit t hthreads ⟨hfunc, hc.1, queue_trying_lt hthreads rfl, hc.2⟩
  | call k locked callocOk => exact call_move hok hcalls hc hs
  | worker k locked => exact worker_move hok hs
  | wakeUp k =>
    simp only [step, Outcome.bind_eq_next, Outcome.await_eq_next, beq_iff_eq, Outcome.pure_eq,
      Outcome.next_inj] at hs
    obtain ⟨-, hasleep, rfl⟩ := hs
    exact .turn (by rw [hasleep]; rfl) (by simp [hasleep]) rfl (by simp) (by simp)
  | free clean =>
    simp only [step, Outcome.bind_eq_next, Outcome.await_eq_next, beq_iff_eq, Outcome.pure_eq,
      Outcome.next_inj] at hs
    obtain ⟨-, halive, rfl⟩ := hs
    exact .start clean halive
  | freeNext => exact free_move hc hwalk hs

end TaskSys

end FlexRic
