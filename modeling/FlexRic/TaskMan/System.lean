import FlexRic.TaskMan.NotQ

/-!
# FlexRic.TaskMan.System

The task manager: `lenThr` queues with a worker each, any number of calls of
`async_task_manager` under way, and one call of `free_task_manager`.

A step is what one thread does while it holds one mutex, or between two of
them.  `pthread_mutex_trylock` may fail at any step, since somebody may be
at the queue; a worker in `pthread_cond_wait` goes on after a signal, or for
no reason.  Whoever comes to a queue that has been freed has no defined
behaviour and ends the run.
-/

namespace FlexRic

/-- Where a worker is in `worker_thread`. -/
inductive WorkerPc where
  /-- in the loop over the queues, with `i` to be tried next -/
  | stealing (i : Nat)
  /-- before the mutex of `pop_not_q`, or woken up in it -/
  | popping
  /-- in `pthread_cond_wait` -/
  | asleep
  /-- with the rest of a batch to run -/
  | running (todo : List Task)
  | exited
  deriving DecidableEq

/-- Where a call of `async_task_manager` is. -/
inductive CallPc where
  /-- in the loop over the queues, or past it and before `push_not_q` -/
  | trying (i : Nat)
  /-- it has put the task into a queue, and signals next -/
  | signalling (queue : Nat)
  deriving DecidableEq

/-- A call of `async_task_manager`. -/
structure AsyncCall where
  t : Task
  index : UInt64
  pc : CallPc
  deriving DecidableEq

/-- The queue that the `i`-th attempt of a call goes to. -/
def AsyncCall.queueAt (c : AsyncCall) (lenThr i : Nat) : Nat := (i.toUInt64 + c.index).toNat % lenThr

/-- The queue that a call is at: the one it tries next, or has to signal to. -/
def AsyncCall.queue (c : AsyncCall) (lenThr : Nat) : Nat :=
  match c.pc with
  | .trying i => if i < lenThr then c.queueAt lenThr i else c.queueAt lenThr 0
  | .signalling j => j

/-- Where the call of `free_task_manager` is. -/
inductive FreePc where
  /-- not called yet -/
  | alive
  /-- before the mutex of `done_not_q` -/
  | marking (i : Nat)
  /-- in `done_not_q`, before the signal -/
  | signalling (i : Nat)
  /-- before `pthread_join` -/
  | joining (i : Nat)
  /-- before `free_not_q` -/
  | freeing (i : Nat)
  /-- in the loop of `seq_ring_free`, at the position `it` -/
  | cleaning (i it stop : Nat)
  | freed
  deriving DecidableEq

/-- `task_manager_t`, its threads, and what has become of the tasks. -/
structure TaskSys where
  lenThr : Nat
  index : UInt64
  queues : Nat → NotQ
  workers : Nat → WorkerPc
  calls : List AsyncCall
  freePc : FreePc
  /-- `free_task_manager` has been given a clean function -/
  clean : Bool
  /-- one entry for each call of `async_task_manager` -/
  submitted : List Task
  /-- run by a worker -/
  executed : List Task
  /-- handed to the clean function -/
  cleaned : List Task

namespace TaskSys

inductive TaskEvent where
  /-- `async_task_manager` is called -/
  | async (t : Task)
  /-- the `k`-th call takes its next step -/
  | call (k : Nat) (locked callocOk : Bool)
  /-- the `k`-th worker takes its next step -/
  | worker (k : Nat) (locked : Bool)
  /-- the `k`-th worker wakes up for no reason -/
  | wakeUp (k : Nat)
  /-- `free_task_manager` is called -/
  | free (clean : Bool)
  /-- it takes its next step -/
  | freeNext
  deriving DecidableEq

/-- After `init_task_manager`, which asks for 1 to 32 threads. -/
def init (numThreads : Nat) : TaskSys where
  lenThr := numThreads
  index := 0
  queues := fun _ => .init
  workers := fun i => .stealing i
  calls := []
  freePc := .alive
  clean := false
  submitted := []
  executed := []
  cleaned := []

def setQueue (s : TaskSys) (i : Nat) (q : NotQ) : TaskSys :=
  { s with queues := Function.update s.queues i q }

def setWorker (s : TaskSys) (k : Nat) (pc : WorkerPc) : TaskSys :=
  { s with workers := Function.update s.workers k pc }

def setCall (s : TaskSys) (k : Nat) (c : AsyncCall) : TaskSys :=
  { s with calls := s.calls.set k c }

/-- `pthread_cond_signal` on the condition variable of the `i`-th queue. -/
def signal (s : TaskSys) (i : Nat) : TaskSys :=
  if s.workers i = .asleep then s.setWorker i .popping else s

/-- The `i`-th queue has been freed. -/
def released (s : TaskSys) (i : Nat) : Bool :=
  match s.freePc with
  | .freeing j => decide (i < j)
  | .cleaning j _ _ => decide (i < j)
  | .freed => true
  | _ => false

/-- `async_task_manager`, up to its loop. -/
def async (s : TaskSys) (t : Task) : Outcome TaskSys := do
  .assert (0 < s.lenThr) "man->len_thr > 0"
  .assert (t.func != 0) "t.func != NULL"
  return { s with
    index := s.index + 1
    calls := s.calls ++ [⟨t, s.index, .trying 0⟩]
    submitted := s.submitted ++ [t] }

/-- The loop of `async_task_manager` and what follows it. -/
def callStep (s : TaskSys) (k : Nat) (locked callocOk : Bool) : Outcome TaskSys := do
  let c ← .awaitSome s.calls[k]?
  match c.pc with
  | .trying i =>
    if i < s.lenThr then do
      let j := c.queueAt s.lenThr i
      .assert (!s.released j) "use after free"
      let (pushed, q) ← (s.queues j).tryPush c.t locked callocOk
      if pushed then return (s.setQueue j q).setCall k { c with pc := .signalling j }
      else return (s.setQueue j q).setCall k { c with pc := .trying (i + 1) }
    else do
      let j := c.queueAt s.lenThr 0
      .assert (!s.released j) "use after free"
      let q ← (s.queues j).push c.t callocOk
      return (s.setQueue j q).setCall k { c with pc := .signalling j }
  | .signalling j => do
    .assert (!s.released j) "use after free"
    return { s.signal j with calls := s.calls.eraseIdx k }

/-- The loop of `worker_thread`. -/
def workerStep (s : TaskSys) (k : Nat) (locked : Bool) : Outcome TaskSys := do
  .await (k < s.lenThr)
  match s.workers k with
  | .stealing i =>
    if i < 3 * (s.lenThr + k) then do
      let j := i % s.lenThr
      let (ret, q) ← (s.queues j).tryPop locked
      match ret with
      | some ts => return (s.setQueue j q).setWorker k (.running ts)
      | none => return (s.setQueue j q).setWorker k (.stealing (i + 1))
    else return s.setWorker k .popping
  | .popping =>
    if (s.queues k).waits then return s.setWorker k .asleep
    else do
      let (ret, q) ← (s.queues k).pop
      match ret with
      | some ts => return (s.setQueue k q).setWorker k (.running ts)
      | none => return (s.setQueue k q).setWorker k .exited
  | .asleep => .blocked
  | .running (t :: todo) =>
    return { s.setWorker k (.running todo) with executed := s.executed ++ [t] }
  | .running [] => return s.setWorker k (.stealing k)
  | .exited => .blocked

/-- The loops of `free_task_manager`. -/
def freeStep (s : TaskSys) : Outcome TaskSys :=
  match s.freePc with
  | .alive => .blocked
  | .marking i =>
    if i < s.lenThr then
      return { s.setQueue i { s.queues i with done := true } with freePc := .signalling i }
    else return { s with freePc := .joining 0 }
  | .signalling i => return { s.signal i with freePc := .marking (i + 1) }
  | .joining i =>
    if i < s.lenThr then do
      .await (s.workers i == .exited)
      return { s with freePc := .joining (i + 1) }
    else return { s with freePc := .freeing 0 }
  | .freeing i =>
    if i < s.lenThr then do
      let q := s.queues i
      .assert q.done "q->done == 1"
      if s.clean then return { s with freePc := .cleaning i q.r.frontPos q.r.endPos }
      else return { s with freePc := .freeing (i + 1) }
    else return { s with freePc := .freed }
  | .cleaning i it stop =>
    if it = stop then return { s with freePc := .freeing (i + 1) }
    else do
      let q := s.queues i
      .assert (it < q.r.cap) "out of bounds"
      return { s with
        freePc := .cleaning i (q.r.nextPos it) stop
        cleaned := s.cleaned ++ [q.r.array it] }
  | .freed => .blocked

def step (s : TaskSys) : TaskEvent → Outcome TaskSys
  | .async t => s.async t
  | .call k locked callocOk => s.callStep k locked callocOk
  | .worker k locked => s.workerStep k locked
  | .wakeUp k => do
    .await (s.workers k == .asleep)
    return s.setWorker k .popping
  | .free clean => do
    .await (s.freePc == .alive)
    return { s with freePc := .marking 0, clean }
  | .freeNext => s.freeStep

def machine (numThreads : Nat) : Machine TaskSys TaskEvent := ⟨init numThreads, step⟩

/-! ## Where it goes wrong -/

/-- `free_task_manager` is freeing the `i`-th queue, or has freed it. -/
def releasing (s : TaskSys) (i : Nat) : Bool :=
  match s.freePc with
  | .freeing j => decide (i < j)
  | .cleaning j _ _ => decide (i ≤ j)
  | .freed => true
  | _ => false

/-- What a call must find: room for its task, or, where the mutex is not to be had, a next queue that
is not being freed. -/
def CallCond (s : TaskSys) (c : AsyncCall) (locked : Bool) : Prop :=
  match c.pc with
  | .trying i =>
    if i < s.lenThr ∧ locked = false then
      s.releasing (AsyncCall.queue { c with pc := .trying (i + 1) } s.lenThr) = false
    else (s.queues (c.queue s.lenThr)).Room
  | .signalling _ => True

instance (s : TaskSys) (c : AsyncCall) (locked : Bool) : Decidable (CallCond s c locked) := by
  unfold CallCond
  split <;> infer_instance

/-- The tasks have arguments; no call is at a queue when `free_task_manager` comes to it, or comes
to one of those after it; what is left in a queue has a clean function to go to; and no queue holds
more than 32 bits can count. -/
def Cond (s : TaskSys) : TaskEvent → Prop
  | .async t =>
    t.args ≠ 0 ∧ s.releasing (AsyncCall.queue ⟨t, s.index, .trying 0⟩ s.lenThr) = false
  | .call k locked _ => ∀ c ∈ s.calls[k]?, s.CallCond c locked
  | .freeNext =>
    match s.freePc with
    | .freeing i => i < s.lenThr →
      (∀ c ∈ s.calls, c.queue s.lenThr ≠ i) ∧
        if s.clean then (s.queues i).Walkable else (s.queues i).toList = []
    | _ => True
  | _ => True

instance (s : TaskSys) (e : TaskEvent) : Decidable (Cond s e) := by
  unfold Cond
  split
  · infer_instance
  · infer_instance
  · split <;> infer_instance
  · infer_instance

end TaskSys

end FlexRic
