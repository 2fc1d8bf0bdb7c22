import FlexRic.Ds.RingFifo

/-!
# FlexRic.XApp.NotifyQueue

The notification queue (`tsnq_t`) between the threads of an xApp that receive indications and the
worker that passes them on: to the callbacks (`msg_dispatcher_xapp.c`) or to the database (`db.c`).

* What stands between a lock and its unlock is one event: of what is shared, only `stop_token` is
  touched outside such a section too, and each section acts upon one read of it.
* The signal of a condition variable is a part of the waiting thread's place in the program.
* `emitted` and `freed` are what the worker has passed on and what `free_tsnq` was left with; they
  are only written.
-/

namespace FlexRic

universe u

/-- `tsnq_t`. -/
structure Tsnq (α : Type u) where
  r : SeqRing α
  stopToken : Bool
  stopped : Bool

/-- The two workers of an xApp. -/
inductive Consumer where
  | dispatcher
  | database
  deriving DecidableEq, Repr

/-- Where the worker is. -/
inductive QueueWorker (α : Type u) where
  /-- at the top of its loop -/
  | top
  /-- before `pop_tsnq_10` or `pop_tsnq_100` -/
  | batch (n : Nat)
  /-- before `wait_and_pop_tsnq` -/
  | single
  /-- in `pthread_cond_wait`, woken or not -/
  | waiting (woken : Bool)
  /-- with data that it passes on one by one -/
  | emitting (data : List α)
  /-- out of the queue's section, having seen `stop_token` -/
  | stopping
  /-- out of its loop -/
  | leaving
  | returned

/-- Where the thread that ends the queue is. -/
inductive QueueCloser where
  /-- the queue is in use -/
  | inUse
  /-- `free_tsnq` has set `stop_token` -/
  | tokenSet
  /-- it has signalled, and waits for `stopped` -/
  | spinning
  /-- it has returned -/
  | destroyed
  /-- `pthread_join` has returned -/
  | joined
  deriving DecidableEq, Repr

namespace QueueWorker

variable {α : Type u}

/-- `pthread_cond_signal`, for this thread. -/
def signal : QueueWorker α → QueueWorker α
  | waiting _ => waiting true
  | pc => pc

/-- The data is passed on, or there is none left. -/
def emit : List α → QueueWorker α
  | [] => top
  | x :: xs => emitting (x :: xs)

/-- What has been taken out and not been passed on. -/
def inHand : QueueWorker α → List α
  | emitting data => data
  | _ => []

/-- A signal takes nothing out of the worker's hands. -/
@[simp] theorem inHand_signal (pc : QueueWorker α) : pc.signal.inHand = pc.inHand := by
  cases pc <;> rfl

/-- A worker that emits has what is left to hand over in its hands. -/
@[simp] theorem inHand_emit (data : List α) : (emit data).inHand = data := by
  cases data <;> rfl

/-- A signal wakes the worker, and changes nothing else. -/
theorem signal_cases (pc : QueueWorker α) :
    pc.signal = pc ∧ pc ≠ waiting false ∨ pc = waiting false ∧ pc.signal = waiting true := by
  cases pc with
  | waiting woken => cases woken <;> simp [signal]
  | _ => simp [signal]

theorem emit_cases (data : List α) :
    data = [] ∧ emit data = top ∨ data ≠ [] ∧ emit data = emitting data := by
  cases data <;> simp [emit]

end QueueWorker

/-- The queue, its worker, and the thread that ends them. -/
structure QueueSys (α : Type u) where
  q : Tsnq α
  worker : QueueWorker α
  closer : QueueCloser
  pushed : List α
  emitted : List α
  freed : List α

inductive QueueEvent (α : Type u) where
  /-- `push_tsnq`, and whether there is memory for a larger ring -/
  | push (val : α) (callocOk : Bool)
  /-- the worker looks how much there is, if it does -/
  | look
  | popBatch
  | waitAndPop
  /-- `pthread_cond_wait` returns without a signal -/
  | spurious
  /-- the worker passes an element on -/
  | emit
  | setStopped
  | leave
  | setToken
  | signal
  | destroy
  | join

namespace SeqRing

variable {α : Type u}

/-- The loop of `pop_tsnq_10` and `pop_tsnq_100`, over `k` of `n` rounds, with the counter of
`create_val_10` and `create_val_100`; the copies, and the iterator behind them. -/
def copyBatch (r : SeqRing α) (n : Nat) : Nat → Nat → Nat → Outcome (List α × Nat)
  | 0, _, it => return ([], it)
  | k + 1, val, it => do
    .assert (decide (val + 1 < n + 1)) "val_n < n + 1"
    let (rest, next) ← r.copyBatch n k (val + 1) (r.nextPos it)
    return (r.array it :: rest, next)

/-- The end of `pop_tsnq_10` and `pop_tsnq_100`. -/
def popFront [Inhabited α] (r : SeqRing α) (n : Nat) : Outcome (List α × SeqRing α) := do
  .assert (decide (n ≤ r.size)) "seq_size(&q->r) >= n"
  .assert (r.frontPos != r.endPos) "it != seq_end(&q->r)"
  let (data, next) ← r.copyBatch n n 0 r.frontPos
  let r ← r.erase r.frontPos next
  return (data, r)

/-- The end of `wait_and_pop_tsnq`. -/
def popOne [Inhabited α] (r : SeqRing α) : Outcome (α × SeqRing α) := do
  .assert (r.frontPos != r.endPos) "it != seq_end(&q->r)"
  let r' ← r.erase r.frontPos (r.nextPos r.frontPos)
  return (r.array r.frontPos, r')

end SeqRing

namespace QueueSys

variable {α : Type u}

/-- `init_tsnq`, and the worker has been started. -/
def init [Inhabited α] : QueueSys α where
  q := ⟨SeqRing.initOf .seqRing, false, false⟩
  worker := .top
  closer := .inUse
  pushed := []
  emitted := []
  freed := []

/-- `push_tsnq`. -/
def push [Inhabited α] (s : QueueSys α) (val : α) (callocOk : Bool) : Outcome (QueueSys α) := do
  .await (s.closer == .inUse)
  let r ← s.q.r.pushBack val callocOk
  return { s with q.r := r, worker := s.worker.signal, pushed := s.pushed ++ [val] }

/-- The front of `worker_thread`: only that of the database asks for the size. -/
def look (c : Consumer) (s : QueueSys α) : Outcome (QueueSys α) :=
  match s.worker with
  | .top =>
    let sz := s.q.r.size
    .next { s with
      worker :=
        match c with
        | .dispatcher => .single
        | .database => if 100 < sz then .batch 100 else if 10 < sz then .batch 10 else .single }
  | _ => .blocked

/-- `pop_tsnq_10` and `pop_tsnq_100`. -/
def popBatch [Inhabited α] (s : QueueSys α) : Outcome (QueueSys α) :=
  match s.worker with
  | .batch n =>
    if s.q.stopToken then return { s with worker := .stopping }
    else do
      let (data, r) ← s.q.r.popFront n
      return { s with q.r := r, worker := .emit data }
  | _ => .blocked

/-- The section of `wait_and_pop_tsnq`, from the start or after a wait. -/
def section_ [Inhabited α] (s : QueueSys α) : Outcome (QueueSys α) :=
  if s.q.r.size == 0 && !s.q.stopToken then return { s with worker := .waiting false }
  else if s.q.stopToken then return { s with worker := .stopping }
  else do
    let (elm, r) ← s.q.r.popOne
    return { s with q.r := r, worker := .emitting [elm] }

/-- `wait_and_pop_tsnq`. -/
def waitAndPop [Inhabited α] (s : QueueSys α) : Outcome (QueueSys α) :=
  match s.worker with
  | .single => s.section_
  | .waiting true => s.section_
  | _ => .blocked

/-- The elements that `free_tsnq` is left with. -/
def destroy (c : Consumer) (s : QueueSys α) : Outcome (QueueSys α) := do
  .await (s.closer == .spinning && s.q.stopped)
  match c with
  | .dispatcher => return { s with closer := .destroyed }
  | .database =>
    let freed ← .awaitSome (s.q.r.visit s.q.r.cap s.q.r.frontPos)
    return { s with closer := .destroyed, freed }

def step [Inhabited α] (c : Consumer) (s : QueueSys α) : QueueEvent α → Outcome (QueueSys α)
  | .push val callocOk => s.push val callocOk
  | .look => s.look c
  | .popBatch => s.popBatch
  | .waitAndPop => s.waitAndPop
  | .spurious =>
    match s.worker with
    | .waiting false => .next { s with worker := .waiting true }
    | _ => .blocked
  | .emit =>
    match s.worker with
    | .emitting (x :: rest) => .next { s with worker := .emit rest, emitted := s.emitted ++ [x] }
    | _ => .blocked
  | .setStopped =>
    match s.worker with
    | .stopping => .next { s with q.stopped := true, worker := .leaving }
    | _ => .blocked
  | .leave =>
    match s.worker with
    | .leaving => .next { s with q.stopped := true, worker := .returned }
    | _ => .blocked
  | .setToken => do
    .await (s.closer == .inUse)
    return { s with q.stopToken := true, closer := .tokenSet }
  | .signal => do
    .await (s.closer == .tokenSet)
    return { s with worker := s.worker.signal, closer := .spinning }
  | .destroy => s.destroy c
  | .join =>
    match s.worker with
    | .returned => do
      .await (s.closer == .destroyed)
      return { s with closer := .joined }
    | _ => .blocked

end QueueSys

/-- The queue of the one worker or of the other. -/
def queueMachine (α : Type u) [Inhabited α] (c : Consumer) : Machine (QueueSys α) (QueueEvent α) :=
  ⟨QueueSys.init, QueueSys.step c⟩

/-! ## Taking elements out of the ring -/

namespace SeqRing

variable {α : Type u} {r : SeqRing α} {i k n v : Nat}

/-- The iterator behind the element at `i`. -/
theorem Ok.nextPos_atPos (h : Ok r) (hcap : r.cap < 2 ^ 32) (hi : i < r.size) :
    r.nextPos (r.atPos i.toUInt32) = r.atPos (i + 1).toUInt32 := by
  have hsize := h.size_lt
  rw [h.atPos_eq (by omega), h.atPos_eq (by omega)]
  have hlt : (r.tail.toNat + i) % r.cap < r.cap := Nat.mod_lt _ h.cap_pos
  rw [nextPos_eq hlt (by omega), Nat.mod_add_mod, Nat.add_assoc]

/-- **The ring from one position on**: its element, and the ones behind it. -/
theorem drop_toList (hi : i < r.size) :
    r.toList.drop i = r.array (r.atPos i.toUInt32) :: r.toList.drop (i + 1) := by
  have hlen : i < r.toList.length := by rwa [length_toList]
  rw [List.drop_eq_getElem_cons hlen]
  congr 1
  simp [toList]

/-- The copies of a batch, which the counter allows. -/
theorem Ok.copyBatch_eq (h : Ok r) (hcap : r.cap < 2 ^ 32) (hik : i + k ≤ r.size)
    (hval : v + k ≤ n) : r.copyBatch n k v (r.atPos i.toUInt32) =
      .next ((r.toList.drop i).take k, r.atPos (i + k).toUInt32) := by
  induction k generalizing i v with
  | zero => rfl
  | succ k ih =>
    have hnext := h.nextPos_atPos hcap (i := i) (by omega)
    rw [copyBatch, Outcome.assert_of (decide_eq_true (by omega)), Outcome.next_bind, hnext,
      ih (i := i + 1) (by omega) (by omega), Outcome.next_bind, drop_toList (i := i) (by omega),
      List.take_succ_cons, Nat.add_assoc i 1 k, Nat.add_comm 1 k]
    rfl

/-- The front is the position 0. -/
theorem Ok.frontPos_eq_atPos (h : Ok r) : r.frontPos = r.atPos (0 : Nat).toUInt32 := by
  rw [h.frontPos_eq, h.atPos_eq (by decide), Nat.add_zero]

/-- An erasure keeps the buffer. -/
theorem erase_cap [Inhabited α] {r' : SeqRing α} {start stop : Nat}
    (h : r.erase start stop = .next r') : r'.cap = r.cap := by
  simp only [erase, Outcome.bind_eq_next, Outcome.assert_eq_next] at h
  obtain ⟨_, -, h⟩ := h
  split at h
  · cases h
    rfl
  · simp only [Outcome.bind_eq_next, Outcome.assert_eq_next] at h
    obtain ⟨_, -, _, -, h⟩ := h
    cases h
    split <;> rfl

/-- **A batch** is the front of the queue, and its checks pass. -/
theorem Ok.popFront_eq [Inhabited α] (h : Ok r) (hcap : r.cap < 2 ^ 32) (hpos : 0 < n)
    (hn : n ≤ r.size) : ∃ r', r.popFront n = .next (r.toList.take n, r') ∧ Ok r' ∧
      r'.cap = r.cap ∧ r'.toList = r.toList.drop n := by
  obtain ⟨r', herase, hok, hlist, -⟩ := h.erase_eq hn
  have hne : r.frontPos ≠ r.endPos := h.frontPos_eq_atPos ▸ h.atPos_ne_endPos (by omega)
  refine ⟨r', ?_, hok, erase_cap herase, hlist⟩
  have hcopy := h.copyBatch_eq hcap (i := 0) (k := n) (v := 0) (n := n) (by omega) (by omega)
  rw [← h.frontPos_eq_atPos, Nat.zero_add, List.drop_zero] at hcopy
  rw [popFront, Outcome.assert_of (decide_eq_true hn), Outcome.next_bind,
    Outcome.assert_of (bne_iff_ne.mpr hne), Outcome.next_bind, hcopy, Outcome.next_bind]
  simp only [herase, Outcome.next_bind]
  rfl

/-- **One element** is the first of the queue. -/
theorem Ok.popOne_eq [Inhabited α] (h : Ok r) (hcap : r.cap < 2 ^ 32) (hpos : 0 < r.size) :
    ∃ x r', r.popOne = .next (x, r') ∧ Ok r' ∧ r'.cap = r.cap ∧ r.toList = x :: r'.toList := by
  obtain ⟨r', herase, hok, hlist, -⟩ := h.erase_eq (n := 1) hpos
  have hne : r.frontPos ≠ r.endPos := h.frontPos_eq_atPos ▸ h.atPos_ne_endPos hpos
  have hnext := h.nextPos_atPos hcap hpos
  rw [← h.frontPos_eq_atPos, Nat.zero_add] at hnext
  refine ⟨r.array r.frontPos, r', ?_, hok, erase_cap herase, ?_⟩
  · rw [popOne, Outcome.assert_of (bne_iff_ne.mpr hne), Outcome.next_bind, hnext, herase]
    rfl
  · have hdrop := drop_toList hpos
    rw [List.drop_zero, ← h.frontPos_eq_atPos] at hdrop
    rw [hdrop, hlist]

/-- What a walk from front to end visits is the queue. -/
theorem Ok.visit_front (h : Ok r) (hcap : r.cap < 2 ^ 32) :
    r.visit r.cap r.frontPos = some r.toList := by
  have hahead := h.ahead_front
  have hsize := h.size_lt
  rw [visit_eq h hcap h.frontPos_lt (by rw [hahead, length_toList]; omega), hahead]

/-- The buffer of a ring that stays below half of what 32 bits can count. -/
theorem Ok.pushBack_cap [Inhabited α] {r' : SeqRing α} {x : α} {callocOk : Bool} (h : Ok r)
    (hcap : r.cap ≤ 2 ^ 31) (hroom : r.size + 1 < 2 ^ 31)
    (hpush : r.pushBack x callocOk = .next r') : r'.cap ≤ 2 ^ 31 := by
  cases hfull : r.full with
  | false =>
    simp only [SeqRing.pushBack, hfull, Bool.false_eq_true, if_false, Outcome.next_bind,
      Outcome.pure_eq, Outcome.next_inj] at hpush
    exact hpush ▸ hcap
  | true =>
    have hsize := (full_iff h).mp hfull
    simp only [SeqRing.pushBack, hfull, if_true, Outcome.bind_eq_next, enlargeBuffer,
      Outcome.assert_eq_next, Outcome.pure_eq, Outcome.next_inj] at hpush
    obtain ⟨_, ⟨_, -, _, -, rfl⟩, rfl⟩ := hpush
    obtain ⟨k, -, hk⟩ := h.pow
    -- a power of two below `2 ^ 31` is at most half of it
    have hk31 : k < 31 := (Nat.pow_lt_pow_iff_right (a := 2) (by decide)).mp (by omega)
    have hle : 2 ^ k ≤ 2 ^ 30 := Nat.pow_le_pow_right (by decide) (by omega)
    show r.cap * 2 ≤ 2 ^ 31
    omega

end SeqRing

end FlexRic
