import FlexRic.Lib.Count
import FlexRic.TaskMan.Steps

/-!
# FlexRic.TaskMan.Invariants

Every task that is submitted is in one place: in the hands of the call that
submits it, in a queue, in the batch of a worker, or among the executed or the
cleaned ones (`Inv.balance`).  The tasks are counted one by one, each step
moves them from one place to another.
-/

namespace FlexRic

/-- The task a call has still to put into a queue. -/
def AsyncCall.hand (c : AsyncCall) : Option Task :=
  match c.pc with
  | .trying _ => some c.t
  | .signalling _ => none

namespace TaskSys

variable {s s' : TaskSys} {e : TaskEvent} {k i j n : Nat} {q : NotQ} {pc : WorkerPc} {t : Task}

/-- The tasks in the `i`-th queue that have not been cleaned. -/
def left (s : TaskSys) (i : Nat) : List Task :=
  match s.freePc with
  | .freeing j => if i < j then [] else (s.queues i).toList
  | .cleaning j it stop =>
    if i < j then [] else if i = j then (s.queues i).r.ahead it stop else (s.queues i).toList
  | .freed => []
  | _ => (s.queues i).toList

/-- So many workers have been joined. -/
def joinedUpTo (s : TaskSys) : Nat :=
  match s.freePc with
  | .joining j => j
  | .freeing _ => s.lenThr
  | .cleaning _ _ _ => s.lenThr
  | .freed => s.lenThr
  | _ => 0

/-! ## Counting a task -/

def leftCount (s : TaskSys) (t : Task) : Nat :=
  ((List.range s.lenThr).map fun i => (s.left i).count t).sum

def todoCount (s : TaskSys) (t : Task) : Nat :=
  ((List.range s.lenThr).map fun k => (s.workers k).todo.count t).sum

def handCount (calls : List AsyncCall) (t : Task) : Nat := calls.countP (·.hand == some t)

/-- The task is where it was submitted to, executed or cleaned. -/
def Balance (s : TaskSys) (t : Task) : Prop :=
  s.submitted.count t =
    s.executed.count t + s.cleaned.count t + s.leftCount t + s.todoCount t + handCount s.calls t

structure Inv (s : TaskSys) : Prop where
  ring : ∀ i, (s.queues i).r.Ok
  calls : ∀ c ∈ s.calls, s.CallOk c
  exited : ∀ k, k < s.joinedUpTo → s.workers k = .exited
  shutting : ∀ i, s.freePc = .signalling i → i < s.lenThr
  walk : ∀ i it stop, s.freePc = .cleaning i it stop →
    i < s.lenThr ∧ it < (s.queues i).r.cap ∧ stop = (s.queues i).r.endPos ∧
      (it ≤ stop ∨ (s.queues i).r.cap < 2 ^ 32)
  balance : ∀ t, s.Balance t

theorem Inv.init (n : Nat) : Inv (init n) where
  ring _ := .init
  calls := nofun
  exited := by simp [TaskSys.init, joinedUpTo]
  shutting := nofun
  walk := nofun
  balance t := by
    simp [Balance, TaskSys.init, leftCount, todoCount, handCount, left, NotQ.toList, NotQ.init,
      WorkerPc.todo]

/-! ## What changes the counts -/

/-- A queue that is in use has all of its tasks left. -/
theorem left_of_live (h : s.releasing i = false) : s.left i = (s.queues i).toList := by
  unfold releasing at h
  unfold left
  cases hpc : s.freePc with
  | freeing j => simp_all
  | cleaning j it stop =>
    simp only [hpc, decide_eq_false_iff_not, Nat.not_le] at h
    simp only
    rw [if_neg (by omega), if_neg (by omega)]
  | freed => simp_all
  | _ => rfl

/-- Only the queue that a step works on differs. -/
theorem left_setQueue_ne (hij : i ≠ j) : (s.setQueue j q).left i = s.left i := by
  simp only [left, setQueue, Function.update_of_ne hij]

theorem left_setQueue_self (h : s.releasing j = false) : (s.setQueue j q).left j = q.toList := by
  rw [left_of_live (s := s.setQueue j q) h]
  simp only [setQueue, Function.update_self]

/-- A queue that is not being freed gets other contents. -/
theorem leftCount_setQueue (hj : j < s.lenThr) (hlive : s.releasing j = false) (t : Task) :
    (s.setQueue j q).leftCount t + (s.queues j).toList.count t =
      s.leftCount t + q.toList.count t := by
  have hsum := sum_range_update (f := fun i => (s.left i).count t)
    (g := fun i => ((s.setQueue j q).left i).count t) hj
    fun i hi => by simp only [left_setQueue_ne hi]
  simp only [left_setQueue_self hlive, left_of_live hlive] at hsum
  exact hsum

/-- A worker's tasks are counted with those of the others. -/
theorem todoCount_setWorker (pc : WorkerPc) (hk : k < s.lenThr) (t : Task) :
    (s.setWorker k pc).todoCount t + (s.workers k).todo.count t =
      s.todoCount t + pc.todo.count t := by
  have hsum := sum_range_update (f := fun i => (s.workers i).todo.count t)
    (g := fun i => ((s.setWorker k pc).workers i).todo.count t) hk
    fun i hi => by simp only [setWorker, Function.update_of_ne hi]
  simp only [setWorker, Function.update_self] at hsum
  exact hsum

/-- A worker that has nothing to run before and after. -/
theorem todo_setWorker (h : (s.workers k).todo = []) (h' : pc.todo = []) (i : Nat) :
    ((s.setWorker k pc).workers i).todo = (s.workers i).todo := by
  by_cases hi : i = k
  · subst hi
    simp only [setWorker, Function.update_self, h, h']
  · simp only [setWorker, Function.update_of_ne hi]

theorem todoCount_congr (h : ∀ i, (s'.workers i).todo = (s.workers i).todo) (hlen : s'.lenThr = s.lenThr)
    (t : Task) : s'.todoCount t = s.todoCount t := by
  simp only [todoCount, hlen, h]

theorem leftCount_congr (h : ∀ i, i < s.lenThr → s'.left i = s.left i) (hlen : s'.lenThr = s.lenThr)
    (t : Task) : s'.leftCount t = s.leftCount t := by
  rw [leftCount, leftCount, hlen]
  congr 1
  exact List.map_congr_left fun i hi => by rw [h i (List.mem_range.mp hi)]

/-- The queue that `free_task_manager` works on loses some tasks. -/
theorem leftCount_sub (s' : TaskSys) (hj : j < s.lenThr) (h : ∀ i, i ≠ j → s'.left i = s.left i)
    (hlen : s'.lenThr = s.lenThr) (t : Task) :
    s'.leftCount t + (s.left j).count t = s.leftCount t + (s'.left j).count t := by
  rw [leftCount, leftCount, hlen]
  exact sum_range_update (f := fun i => (s.left i).count t) (g := fun i => (s'.left i).count t) hj
    fun i hi => by simp only [h i hi]

/-! ## Every step keeps the balance -/

theorem count_singleton_toNat (u t : Task) : [u].count t = (some u == some t).toNat := by
  by_cases hut : u = t
  · simp [hut]
  · simp [hut, beq_eq_false_iff_ne.mpr hut]

/-- The walk over a queue that is freed does not go on from the last cell that 32 bits can
count. -/
theorem Inv.counts (h : Inv s) (i it stop : Nat) (hpc : s.freePc = .cleaning i it stop) :
    it = stop ∨ it + 1 < 2 ^ 32 := by
  obtain ⟨-, hit, rfl, hwalk⟩ := h.walk i it stop hpc
  have hend := (h.ring i).endPos_lt
  have hcap := (h.ring i).cap_le
  omega

/-- While a worker runs no queue is released. -/
theorem Inv.live (h : Inv s) (hk : k < s.lenThr) (halive : s.workers k ≠ .exited) (i : Nat) :
    s.releasing i = false := by
  have hno : ¬ k < s.joinedUpTo := fun hlt => halive (h.exited k hlt)
  unfold releasing
  unfold joinedUpTo at hno
  cases hpc : s.freePc <;> simp_all

/-- `free_task_manager` only takes tasks out of the queues it frees. -/
theorem Balance.of_free (h : s.Balance t) (hsub : s'.submitted = s.submitted)
    (hexec : s'.executed = s.executed) (hcalls : s'.calls = s.calls)
    (htodo : s'.todoCount t = s.todoCount t)
    (hleft : s'.cleaned.count t + s'.leftCount t = s.cleaned.count t + s.leftCount t) :
    s'.Balance t := by
  simp only [Balance] at h ⊢
  rw [hsub, hexec, hcalls, htodo]
  omega

/-- A step that leaves what is left in the queues keeps the balance. -/
theorem Balance.of_left (h : s.Balance t) (hsub : s'.submitted = s.submitted)
    (hexec : s'.executed = s.executed) (hcleaned : s'.cleaned = s.cleaned)
    (hcalls : s'.calls = s.calls)
    (hlen : s'.lenThr = s.lenThr) (htodo : ∀ i, (s'.workers i).todo = (s.workers i).todo)
    (hleft : ∀ i, i < s.lenThr → s'.left i = s.left i) : s'.Balance t :=
  h.of_free hsub hexec hcalls (todoCount_congr htodo hlen t)
    (by rw [hcleaned, leftCount_congr hleft hlen t])

/-- A step that takes tasks out of the queue it frees keeps the balance. -/
theorem Balance.of_removed (h : s.Balance t) (ts : List Task) (hi : i < s.lenThr)
    (hsub : s'.submitted = s.submitted) (hexec : s'.executed = s.executed)
    (hcalls : s'.calls = s.calls) (hlen : s'.lenThr = s.lenThr) (hworkers : s'.workers = s.workers)
    (hremoved : s'.cleaned.count t = s.cleaned.count t + ts.count t)
    (hleft : s.left i = ts ++ s'.left i) (hne : ∀ j, j ≠ i → s'.left j = s.left j) :
    s'.Balance t := by
  have hsum := leftCount_sub s' hi hne hlen t
  rw [hleft, List.count_append] at hsum
  exact h.of_free hsub hexec hcalls (todoCount_congr (fun j => by rw [hworkers]) hlen t) (by omega)

/-- Moving on to the next queue only concerns the one before it. -/
theorem ite_lt_succ {α : Type} {a b : α} (hij : j ≠ i) :
    (if j < i + 1 then a else b) = if j < i then a else b :=
  if_congr (Nat.lt_succ_iff_lt_or_eq.trans (or_iff_left hij)) rfl rfl

/-- A new call brings one task. -/
theorem Balance.submit (h : s.Balance t) (u : Task) :
    Balance
      { s with
        index := s.index + 1
        calls := s.calls ++ [⟨u, s.index, .trying 0⟩]
        submitted := s.submitted ++ [u] } t := by
  simp only [Balance] at h
  have hhand : handCount (s.calls ++ [⟨u, s.index, .trying 0⟩]) t =
      handCount s.calls t + (some u == some t).toNat := by
    rw [handCount, List.countP_append, handCount]
    cases hut : some u == some t <;> simp [AsyncCall.hand, hut]
  have hone := count_singleton_toNat u t
  change (s.submitted ++ [u]).count t = s.executed.count t + s.cleaned.count t +
    s.leftCount t + s.todoCount t +
    handCount (s.calls ++ [⟨u, s.index, .trying 0⟩]) t
  rw [List.count_append]
  omega

variable {c : AsyncCall}

/-- A call keeps its task while it tries. -/
theorem Balance.retry (h : s.Balance t) (call : s.calls[k]? = some c) (pc : c.pc = .trying i) :
    (s.setCall k { c with pc := .trying (i + 1) }).Balance t := by
  simp only [Balance] at h
  have hhand : handCount (s.calls.set k { c with pc := .trying (i + 1) }) t + _ =
    handCount s.calls t + _ := countP_set_add call
  simp only [AsyncCall.hand, pc] at hhand
  change s.submitted.count t = s.executed.count t + s.cleaned.count t +
    s.leftCount t + s.todoCount t + handCount (s.calls.set k { c with pc := .trying (i + 1) }) t
  omega

/-- The task of the call goes to the queue. -/
theorem Balance.put (h : s.Balance t) (call : s.calls[k]? = some c) (pc : c.pc = .trying i)
    (inside : j < s.lenThr) (live : s.releasing j = false)
    (list : q.toList = (s.queues j).toList ++ [c.t]) :
    ((s.setQueue j q).setCall k { c with pc := .signalling j }).Balance t := by
  simp only [Balance] at h
  have hhand : handCount (s.calls.set k { c with pc := .signalling j }) t + _ =
    handCount s.calls t + _ := countP_set_add call
  have hleft := leftCount_setQueue (q := q) inside live t
  have hone := count_singleton_toNat c.t t
  rw [list, List.count_append] at hleft
  simp only [AsyncCall.hand, pc, Option.none_beq_some, Bool.toNat_false] at hhand
  change s.submitted.count t = s.executed.count t + s.cleaned.count t +
    (s.setQueue j q).leftCount t + s.todoCount t +
    handCount (s.calls.set k { c with pc := .signalling j }) t
  omega

/-- The call has nothing in its hands any more. -/
theorem Balance.signalled (h : s.Balance t) (call : s.calls[k]? = some c)
    (pc : c.pc = .signalling j) : Balance { s.signal j with calls := s.calls.eraseIdx k } t := by
  simp only [Balance] at h
  have hhand : handCount s.calls t = handCount (s.calls.eraseIdx k) t + _ :=
    countP_eraseIdx_add call
  simp only [AsyncCall.hand, pc, Option.none_beq_some, Bool.toNat_false] at hhand
  obtain hsame | ⟨hasleep, hwoken⟩ := signal_eq s j
  · rw [hsame]
    change s.submitted.count t = s.executed.count t + s.cleaned.count t +
      s.leftCount t + s.todoCount t + handCount (s.calls.eraseIdx k) t
    omega
  · have htodo : (s.setWorker j .popping).todoCount t = s.todoCount t := todoCount_congr
      (fun i => todo_setWorker (by rw [hasleep]; rfl) rfl i) rfl t
    rw [hwoken]
    change s.submitted.count t = s.executed.count t + s.cleaned.count t +
      s.leftCount t + (s.setWorker j .popping).todoCount t + handCount (s.calls.eraseIdx k) t
    omega

/-- Tasks go from the front of the queue to the worker. -/
theorem Balance.take {ts : List Task} (h : s.Balance t) (worker : k < s.lenThr)
    (inside : j < s.lenThr) (live : s.releasing j = false) (todo : (s.workers k).todo = [])
    (taken : (s.queues j).Taken ts q) :
    ((s.setQueue j q).setWorker k (.running ts)).Balance t := by
  simp only [Balance] at h
  have hleft := leftCount_setQueue (q := q) inside live t
  have htodo := todoCount_setWorker (.running ts) worker t
  rw [taken.split, List.count_append] at hleft
  rw [todo, List.count_nil] at htodo
  have hts : (WorkerPc.running ts).todo.count t = ts.count t := rfl
  change s.submitted.count t = s.executed.count t + s.cleaned.count t +
    (s.setQueue j q).leftCount t + (s.setWorker k (.running ts)).todoCount t +
    handCount s.calls t
  omega

/-- A worker that runs a task takes it out of its batch. -/
theorem Balance.run {u : Task} {todo : List Task} (h : s.Balance t) (worker : k < s.lenThr)
    (pc : s.workers k = .running (u :: todo)) :
    Balance { s.setWorker k (.running todo) with executed := s.executed ++ [u] } t := by
  simp only [Balance] at h
  have htodo := todoCount_setWorker (.running todo) worker t
  rw [pc] at htodo
  have hbefore : (WorkerPc.running (u :: todo)).todo.count t = todo.count t + [u].count t := by
    change (u :: todo).count t = _
    rw [List.count_cons, List.count_singleton]
  have hafter : (WorkerPc.running todo).todo.count t = todo.count t := rfl
  change s.submitted.count t = (s.executed ++ [u]).count t + s.cleaned.count t +
    s.leftCount t + (s.setWorker k (.running todo)).todoCount t +
    handCount s.calls t
  rw [List.count_append]
  omega

/-- **Every step keeps the balance.** -/
theorem Inv.balance_step (h : Inv s) (hm : Move s s') (t : Task) : s'.Balance t := by
  have hbal := h.balance t
  cases hm with
  | submit u threads ok => exact hbal.submit u
  | retry call pc callOk => exact hbal.retry call pc
  | put call pc inside live callOk ok list done => exact hbal.put call pc inside live list
  | signalled call pc => exact hbal.signalled call pc
  | take worker inside todo alive taken =>
    exact hbal.take worker inside (h.live worker alive _) todo taken
  | turn todo alive todo' sleep exit =>
    exact hbal.of_left rfl rfl rfl rfl rfl (todo_setWorker todo todo') fun _ _ => rfl
  | run worker pc => exact hbal.run worker pc
  | start clean at_ =>
    exact hbal.of_left rfl rfl rfl rfl rfl (fun _ => rfl) fun i _ => by simp only [left, at_]
  | @mark i at_ inside =>
    refine hbal.of_left rfl rfl rfl rfl rfl (fun _ => rfl) fun j _ => ?_
    simp only [left, at_, setQueue]
    by_cases hij : j = i
    · subst hij
      rw [Function.update_self]
      rfl
    · rw [Function.update_of_ne hij]
  | marked at_ all =>
    exact hbal.of_left rfl rfl rfl rfl rfl (fun _ => rfl) fun i _ => by simp only [left, at_]
  | @markSignal i at_ =>
    unfold signal
    split
    · rename_i hasleep
      exact hbal.of_left rfl rfl rfl rfl rfl
        (fun j => todo_setWorker (by rw [hasleep]; rfl) rfl j)
        fun j _ => by simp only [left, at_, setWorker]
    · exact hbal.of_left rfl rfl rfl rfl rfl (fun _ => rfl) fun j _ => by simp only [left, at_]
  | join at_ exited =>
    exact hbal.of_left rfl rfl rfl rfl rfl (fun _ => rfl) fun i _ => by simp only [left, at_]
  | joined at_ all =>
    exact hbal.of_left rfl rfl rfl rfl rfl (fun _ => rfl) fun i _ => by
      simp only [left, at_, Nat.not_lt_zero, if_false]
  | @clean i at_ inside apart walkable =>
    refine hbal.of_left rfl rfl rfl rfl rfl (fun _ => rfl) fun j _ => ?_
    simp only [left, at_]
    by_cases hij : j = i
    · subst hij
      rw [if_neg (Nat.lt_irrefl j), if_neg (Nat.lt_irrefl j), if_pos rfl, (h.ring j).ahead_front]
      rfl
    · rw [if_neg hij]
  | @cleanNext i it stop at_ ne inside counts =>
    obtain ⟨hi, hit, hstop, -⟩ := h.walk i it stop at_
    have hbefore : s.left i = (s.queues i).r.array it ::
        (s.queues i).r.ahead ((s.queues i).r.nextPos it) stop := by
      simp only [left, at_, Nat.lt_irrefl, if_false, if_true]
      exact SeqRing.ahead_next hit (by rw [hstop]; exact (h.ring i).endPos_lt) ne counts
    refine hbal.of_removed [(s.queues i).r.array it] hi rfl rfl rfl rfl rfl ?_ ?_ ?_
    · exact List.count_append
    · rw [hbefore]
      simp only [left, Nat.lt_irrefl, if_false, if_true, List.singleton_append]
    · intro j hj
      simp only [left, at_, if_neg hj]
  | @cleaned i it at_ =>
    refine hbal.of_left rfl rfl rfl rfl rfl (fun _ => rfl) fun j _ => ?_
    simp only [left, at_]
    by_cases hij : j = i
    · subst hij
      rw [if_pos (Nat.lt_succ_self j), if_neg (Nat.lt_irrefl j), if_pos rfl, SeqRing.ahead_self]
    · rw [if_neg hij, ite_lt_succ hij]
  | @drop i at_ inside apart empty =>
    refine hbal.of_left rfl rfl rfl rfl rfl (fun _ => rfl) fun j _ => ?_
    simp only [left, at_]
    by_cases hij : j = i
    · subst hij
      rw [if_pos (Nat.lt_succ_self j), if_neg (Nat.lt_irrefl j), empty]
    · rw [ite_lt_succ hij]
  | @freed i at_ all =>
    refine hbal.of_left rfl rfl rfl rfl rfl (fun _ => rfl) fun j hj => ?_
    simp only [left, at_]
    rw [if_pos (Nat.lt_of_lt_of_le hj all)]

/-! ## Every step keeps the rest -/

theorem ring_setQueue (h : ∀ i, (s.queues i).r.Ok) (hq : q.r.Ok) (i : Nat) :
    ((s.setQueue j q).queues i).r.Ok := by
  by_cases hij : i = j
  · subst hij
    simpa only [setQueue, Function.update_self] using hq
  · simpa only [setQueue, Function.update_of_ne hij] using h i

/-- Every step keeps the rings well formed. -/
theorem Inv.ring_step (h : Inv s) (hm : Move s s') (i : Nat) : (s'.queues i).r.Ok := by
  cases hm with
  | put call pc inside live callOk ok list done => exact ring_setQueue h.ring ok i
  | take worker inside todo alive taken => exact ring_setQueue h.ring taken.ok i
  | mark at_ inside => exact ring_setQueue (q := { s.queues _ with done := true }) h.ring (h.ring _) i
  | signalled call pc => simpa using h.ring i
  | markSignal at_ => simpa using h.ring i
  | _ => exact h.ring i

/-- Whoever has left stays out. -/
theorem exited_setWorker (hk : s.workers k = .exited) (hj : s.workers j ≠ .exited) :
    (s.setWorker j pc).workers k = .exited := by
  have hne : k ≠ j := fun heq => hj (heq ▸ hk)
  simp only [setWorker, Function.update_of_ne hne, hk]

theorem exited_signal (hk : s.workers k = .exited) : (s.signal j).workers k = .exited := by
  obtain heq | ⟨hasleep, heq⟩ := signal_eq s j
  · rw [heq, hk]
  · rw [heq]
    exact exited_setWorker hk (by rw [hasleep]; nofun)

/-- Every step keeps the workers that were joined at their end. -/
theorem Inv.exited_step (h : Inv s) (hm : Move s s') (k : Nat) (hk : k < s'.joinedUpTo) :
    s'.workers k = .exited := by
  cases hm with
  | take worker inside todo alive taken => exact exited_setWorker (h.exited k hk) alive
  | turn todo alive todo' sleep exit => exact exited_setWorker (h.exited k hk) alive
  | run worker pc => exact exited_setWorker (h.exited k hk) (by rw [pc]; nofun)
  | @signalled i j c call pc =>
    simp only [joinedUpTo, signal_freePc, signal_lenThr] at hk
    exact exited_signal (h.exited k hk)
  | start clean at_ | mark at_ inside | marked at_ all | markSignal at_ => cases hk
  | @join i at_ exited =>
    rcases Nat.lt_succ_iff_lt_or_eq.mp hk with hlt | rfl
    · exact h.exited k (by rw [joinedUpTo, at_]; exact hlt)
    · exact exited
  | @joined i at_ all =>
    exact h.exited k (by rw [joinedUpTo, at_]; exact Nat.lt_of_lt_of_le hk all)
  | clean at_ inside apart walkable | cleanNext at_ ne inside counts | cleaned at_
  | drop at_ inside apart empty | freed at_ all =>
    exact h.exited k (by rw [joinedUpTo, at_]; exact hk)
  | _ => exact h.exited k hk

/-- Every step keeps the walk through what is left within its ring. -/
theorem Inv.walk_step (h : Inv s) (hm : Move s s') (i it stop : Nat)
    (hpc : s'.freePc = .cleaning i it stop) :
    i < s'.lenThr ∧ it < (s'.queues i).r.cap ∧ stop = (s'.queues i).r.endPos ∧
      (it ≤ stop ∨ (s'.queues i).r.cap < 2 ^ 32) := by
  cases hm with
  | @put k n j c q call pc inside live callOk ok list done =>
    have hold := h.walk i it stop hpc
    -- the queue that is being freed gets nothing
    have hne : i ≠ j := by
      rintro rfl
      have hpc : s.freePc = .cleaning i it stop := hpc
      simp [releasing, hpc] at live
    simpa only [setCall, setQueue, Function.update_of_ne hne] using hold
  | @take k j q ts worker inside todo alive taken =>
    have hlive := h.live worker alive i
    have hpc : s.freePc = .cleaning i it stop := hpc
    simp [releasing, hpc] at hlive
  | signalled call pc =>
    simp only [signal_freePc, signal_lenThr, signal_queues] at hpc ⊢
    exact h.walk i it stop hpc
  | start clean at_ | mark at_ inside | marked at_ all | markSignal at_ | join at_ exited
  | joined at_ all =>
    cases hpc
  | clean at_ inside apart walkable =>
    cases hpc
    exact ⟨inside, (h.ring i).frontPos_lt, rfl, walkable⟩
  | cleanNext at_ ne inside counts =>
    cases hpc
    obtain ⟨hi, hit, hstop, hwalk⟩ := h.walk _ _ _ at_
    have hend : stop < (s.queues i).r.cap := by rw [hstop]; exact (h.ring i).endPos_lt
    refine ⟨hi, ?_, hstop, hwalk.imp_left fun hle => ?_⟩
    · rw [SeqRing.nextPos_eq inside counts]
      exact Nat.mod_lt _ (h.ring i).cap_pos
    · have hlt := Nat.lt_of_le_of_ne hle ne
      rw [SeqRing.nextPos_eq inside counts, Nat.mod_eq_of_lt (Nat.lt_of_le_of_lt hlt hend)]
      exact hlt
  | cleaned at_ | drop at_ inside apart empty | freed at_ all => cases hpc
  | _ => exact h.walk i it stop hpc

/-- A call is as well off while `free_task_manager` does not get to its queue. -/
theorem CallOk.of_live (h : s.CallOk c) (hlen : s'.lenThr = s.lenThr)
    (hlive : s'.releasing (c.queue s.lenThr) = false) : s'.CallOk c :=
  ⟨h.func, h.args, by rw [hlen]; exact h.inside, by rw [hlen]; exact hlive⟩

theorem CallOk.of_eq (h : s.CallOk c) (hlen : s'.lenThr = s.lenThr)
    (hfree : s'.freePc = s.freePc) : s'.CallOk c :=
  h.of_live hlen (by unfold releasing; rw [hfree]; exact h.live)

/-- Every step keeps the calls as they should be. -/
theorem Inv.calls_step (h : Inv s) (hm : Move s s') (c : AsyncCall) (hc : c ∈ s'.calls) :
    s'.CallOk c := by
  cases hm with
  | submit t threads ok =>
    obtain hc | hc := List.mem_append.mp hc
    · exact (h.calls c hc).of_eq rfl rfl
    · exact (List.mem_singleton.mp hc ▸ ok).of_eq rfl rfl
  | retry call pc callOk | put call pc inside live callOk ok list done =>
    obtain hc | rfl := List.mem_or_eq_of_mem_set hc
    · exact (h.calls c hc).of_eq rfl rfl
    · exact callOk.of_eq rfl rfl
  | signalled call pc =>
    exact (h.calls c (List.mem_of_mem_eraseIdx hc)).of_eq signal_lenThr signal_freePc
  | take worker inside todo alive taken | turn todo alive todo' sleep exit | run worker pc =>
    exact (h.calls c hc).of_eq rfl rfl
  | start clean at_ | mark at_ inside | marked at_ all | join at_ exited =>
    exact (h.calls c hc).of_live rfl rfl
  | @markSignal i at_ =>
    have hc : c ∈ s.calls := by unfold signal at hc; split at hc <;> exact hc
    exact (h.calls c hc).of_live signal_lenThr rfl
  | joined at_ all => exact (h.calls c hc).of_live rfl (by simp [releasing])
  | @clean i at_ inside apart walkable =>
    have hlive := (h.calls c hc).live
    simp only [releasing, at_, decide_eq_false_iff_not] at hlive
    refine (h.calls c hc).of_live rfl ?_
    simp only [releasing, decide_eq_false_iff_not]
    have := apart c hc
    omega
  | cleanNext at_ ne inside counts =>
    have hlive := (h.calls c hc).live
    simp only [releasing, at_] at hlive
    exact (h.calls c hc).of_live rfl hlive
  | @cleaned i it at_ =>
    have hlive := (h.calls c hc).live
    simp only [releasing, at_, decide_eq_false_iff_not] at hlive
    refine (h.calls c hc).of_live rfl ?_
    simp only [releasing, decide_eq_false_iff_not]
    omega
  | @drop i at_ inside apart empty =>
    have hlive := (h.calls c hc).live
    simp only [releasing, at_, decide_eq_false_iff_not] at hlive
    refine (h.calls c hc).of_live rfl ?_
    simp only [releasing, decide_eq_false_iff_not]
    have := apart c hc
    omega
  | @freed i at_ all =>
    have hok := h.calls c hc
    have hlive := hok.live
    simp only [releasing, at_, decide_eq_false_iff_not] at hlive
    exact absurd (Nat.lt_of_lt_of_le hok.inside all) hlive

/-- Every step keeps the shutdown within the queues. -/
theorem Inv.shutting_step (h : Inv s) (hm : Move s s') (i : Nat) (hpc : s'.freePc = .signalling i) :
    i < s'.lenThr := by
  cases hm with
  | signalled call pc =>
    simp only [signal_freePc, signal_lenThr] at hpc ⊢
    exact h.shutting i hpc
  | mark at_ inside =>
    cases hpc
    exact inside
  | start clean at_ | marked at_ all | markSignal at_ | join at_ exited | joined at_ all
  | clean at_ inside apart walkable | cleanNext at_ ne inside counts | cleaned at_
  | drop at_ inside apart empty | freed at_ all =>
    cases hpc
  | _ => exact h.shutting i hpc

/-- **Every step keeps the invariant.** -/
theorem Inv.step (h : Inv s) (hm : Move s s') : Inv s' where
  ring := h.ring_step hm
  calls := h.calls_step hm
  exited := h.exited_step hm
  shutting := h.shutting_step hm
  walk := h.walk_step hm
  balance := h.balance_step hm

/-- The step of a run that meets the condition. -/
theorem Inv.move (h : Inv s) (hc : Cond s e) (hs : s.step e = .next s') : Move s s' :=
  step_move h.ring h.calls h.counts hc hs

/-- Every run under the condition keeps the invariant. -/
theorem inv {numThreads : Nat} (h : (machine numThreads).ReachedBy Cond s) : Inv s :=
  h.invariant (Inv.init numThreads) fun _ _ _ _ hi hc hs => hi.step (hi.move hc hs)

end TaskSys

end FlexRic
