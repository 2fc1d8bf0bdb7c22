import FlexRic.TaskMan.Invariants

/-!
# FlexRic.TaskMan.Shutdown

Everybody gets to an end.

* `call_progress`: a call of `async_task_manager` goes on, and has less to do
  after each step.
* `Wakeful`: nobody sleeps through a signal, so `free_task_manager` never
  waits for good: a worker whose queue is done can always take its next step,
  and gets closer to its end with it (`worker_progress`).
* `free_progress`: nor does it stop anywhere else.
-/

namespace FlexRic

/-- What a call has left to do. -/
def AsyncCall.work (lenThr : Nat) (c : AsyncCall) : Nat :=
  match c.pc with
  | .trying i => lenThr - i + 2
  | .signalling _ => 1

/-- How far `free_task_manager` is from its end, but for the tasks that it has to clean. -/
def FreePc.rank (lenThr : Nat) : FreePc → Nat
  | .alive => 0
  | .marking i => 3 * lenThr + 3 + (2 * (lenThr - i) + 1)
  | .signalling i => 3 * lenThr + 3 + 2 * (lenThr - i)
  | .joining i => 2 * lenThr + 2 + (lenThr - i)
  | .freeing i => 2 * (lenThr - i) + 1
  | .cleaning i _ _ => 2 * (lenThr - i)
  | .freed => 0

namespace TaskSys

variable {s s' : TaskSys} {e : TaskEvent} {k i j n : Nat} {q : NotQ} {pc : WorkerPc} {t : Task}

/-- So many queues have been shut down. -/
def markedUpTo (s : TaskSys) : Nat :=
  match s.freePc with
  | .alive => 0
  | .marking i => i
  | .signalling i => i + 1
  | _ => s.lenThr

/-- There is nothing to do for the worker, or a call will tell it. -/
def Awaited (s : TaskSys) (k : Nat) : Prop :=
  (∃ c ∈ s.calls, c.pc = .signalling k) ∨ (s.queues k).toList = []

/-- A worker sleeps only on an empty queue that is not done, or its signal
is on the way. -/
structure Wakeful (s : TaskSys) : Prop where
  marked : ∀ k, k < s.lenThr → k < s.markedUpTo → (s.queues k).done = true
  asleep : ∀ k, s.workers k = .asleep → s.freePc = .signalling k ∨ (s.queues k).done = false
  waiting : ∀ k, s.workers k = .asleep → s.freePc = .signalling k ∨ s.Awaited k

/-- Nobody is asleep at the start. -/
theorem Wakeful.init (n : Nat) : Wakeful (init n) where
  marked _ _ h := by cases h
  asleep _ h := by cases h
  waiting _ h := by cases h

/-- Who sleeps after a worker has moved. -/
theorem asleep_setWorker (h : (s.setWorker j pc).workers k = .asleep) :
    (k = j ∧ pc = .asleep) ∨ (k ≠ j ∧ s.workers k = .asleep) := by
  by_cases hkj : k = j
  · subst hkj
    simp only [setWorker, Function.update_self] at h
    exact .inl ⟨rfl, h⟩
  · simp only [setWorker, Function.update_of_ne hkj] at h
    exact .inr ⟨hkj, h⟩

/-- The one a signal is for is awake after it. -/
theorem asleep_signal (h : (s.signal j).workers k = .asleep) : k ≠ j ∧ s.workers k = .asleep := by
  unfold signal at h
  split at h
  · obtain ⟨-, hpc⟩ | hother := asleep_setWorker h
    · cases hpc
    · exact hother
  · rename_i hawake
    exact ⟨fun hkj => hawake (hkj ▸ h), h⟩

/-- A call that is about to signal stays while another one moves on. -/
theorem mem_set_of_ne {l : List AsyncCall} {c c₀ c' : AsyncCall} (hc : c ∈ l) (h₀ : l[k]? = some c₀)
    (hne : c ≠ c₀) : c ∈ l.set k c' := by
  obtain ⟨i, hi⟩ := List.mem_iff_getElem?.mp hc
  have hik : k ≠ i := by
    rintro rfl
    exact hne (Option.some.inj (hi.symm.trans h₀))
  exact List.mem_iff_getElem?.mpr ⟨i, by rw [List.getElem?_set_ne hik, hi]⟩

theorem mem_eraseIdx_of_ne {l : List AsyncCall} {c c₀ : AsyncCall} (hc : c ∈ l)
    (h₀ : l[k]? = some c₀) (hne : c ≠ c₀) : c ∈ l.eraseIdx k := by
  obtain ⟨i, hi⟩ := List.mem_iff_getElem?.mp hc
  have hik : i ≠ k := by
    rintro rfl
    exact hne (Option.some.inj (hi.symm.trans h₀))
  exact List.mem_eraseIdx_iff_getElem?.mpr ⟨i, hik, hi⟩

theorem done_setQueue (h : q.done = (s.queues j).done) (i : Nat) :
    ((s.setQueue j q).queues i).done = (s.queues i).done := by
  by_cases hij : i = j
  · subst hij
    simp only [setQueue, Function.update_self, h]
  · simp only [setQueue, Function.update_of_ne hij]

/-- A queue that is marked as done stays so. -/
theorem Wakeful.marked_step (h : Wakeful s) (hm : Move s s') (k : Nat) (hk : k < s'.lenThr)
    (hmk : k < s'.markedUpTo) : (s'.queues k).done = true := by
  cases hm with
  | put call pc inside live callOk ok list done => exact (done_setQueue done k).trans (h.marked k hk hmk)
  | take worker inside todo alive taken =>
    exact (done_setQueue taken.done k).trans (h.marked k hk hmk)
  | signalled call pc =>
    simp only [markedUpTo, signal_freePc, signal_lenThr, signal_queues] at hk hmk ⊢
    exact h.marked k hk hmk
  | start clean at_ => cases hmk
  | @mark i at_ inside =>
    change (Function.update s.queues i { s.queues i with done := true } k).done = true
    by_cases hki : k = i
    · subst hki
      rw [Function.update_self]
    · rw [Function.update_of_ne hki]
      have hlt : k < i := Nat.lt_of_le_of_ne (Nat.le_of_lt_succ hmk) hki
      exact h.marked k hk (by rw [markedUpTo, at_]; exact hlt)
  | marked at_ all =>
    exact h.marked k hk (by rw [markedUpTo, at_]; exact Nat.lt_of_lt_of_le hk all)
  | markSignal at_ =>
    simp only [signal_lenThr, signal_queues] at hk ⊢
    exact h.marked k hk (by rw [markedUpTo, at_]; exact hmk)
  | join at_ exited | joined at_ all | clean at_ inside apart walkable | cleanNext at_ ne inside counts
  | cleaned at_ | drop at_ inside apart empty | freed at_ all =>
    exact h.marked k hk (by rw [markedUpTo, at_]; exact hk)
  | _ => exact h.marked k hk hmk

/-- Nobody is being woken up by `free_task_manager`. -/
theorem Wakeful.done_of_asleep (h : Wakeful s) (hk : s.workers k = .asleep)
    (hpc : s.freePc ≠ .signalling k) : (s.queues k).done = false :=
  (h.asleep k hk).resolve_left hpc

/-- A worker that sleeps is about to be signalled, or its queue is not shut down. -/
theorem Wakeful.asleep_step (h : Wakeful s) (hm : Move s s') (k : Nat)
    (hk : s'.workers k = .asleep) : s'.freePc = .signalling k ∨ (s'.queues k).done = false := by
  cases hm with
  | put call pc inside live callOk ok list done =>
    exact (h.asleep k hk).imp_right fun hold => (done_setQueue done k).trans hold
  | take worker inside todo alive taken =>
    obtain ⟨-, hpc⟩ | ⟨-, hk⟩ := asleep_setWorker hk
    · cases hpc
    · exact (h.asleep k hk).imp_right fun hold => (done_setQueue taken.done k).trans hold
  | turn todo alive todo' sleep exit =>
    obtain ⟨rfl, hpc⟩ | ⟨-, hk⟩ := asleep_setWorker hk
    · have hwaits := sleep hpc
      simp only [NotQ.waits, Bool.and_eq_true, Bool.not_eq_true'] at hwaits
      exact .inr hwaits.2
    · exact h.asleep k hk
  | run worker pc =>
    obtain ⟨-, hpc⟩ | ⟨-, hk⟩ := asleep_setWorker hk
    · cases hpc
    · exact h.asleep k hk
  | signalled call pc =>
    simpa using h.asleep k (asleep_signal hk).2
  | @mark i at_ inside =>
    by_cases hki : k = i
    · exact .inl (by rw [hki])
    · refine .inr ?_
      change (Function.update s.queues i _ k).done = false
      rw [Function.update_of_ne hki]
      exact h.done_of_asleep hk (by rw [at_]; nofun)
  | markSignal at_ =>
    obtain ⟨hne, hk⟩ := asleep_signal hk
    refine .inr ?_
    simp only [signal_queues]
    exact h.done_of_asleep hk (by rw [at_]; rintro ⟨⟩; exact hne rfl)
  | start clean at_ | marked at_ all | join at_ exited | joined at_ all
  | clean at_ inside apart walkable | cleanNext at_ ne inside counts | cleaned at_
  | drop at_ inside apart empty | freed at_ all =>
    exact .inr (h.done_of_asleep hk (by rw [at_]; nofun))
  | _ => exact h.asleep k hk

theorem Wakeful.awaited_of_asleep (h : Wakeful s) (hk : s.workers k = .asleep)
    (hpc : s.freePc ≠ .signalling k) : s.Awaited k :=
  (h.waiting k hk).resolve_left hpc

/-- A call other than the ones that signal to the worker moves on. -/
theorem Awaited.set_call {c : AsyncCall} (h : s.Awaited k) (c' : AsyncCall) (hc : s.calls[n]? = some c)
    (hpc : c.pc ≠ .signalling k) : (s.setCall n c').Awaited k :=
  h.imp_left fun ⟨c₀, hmem, hpc₀⟩ =>
    ⟨c₀, mem_set_of_ne hmem hc (by rintro rfl; exact hpc hpc₀), hpc₀⟩

/-- A worker that sleeps is about to be signalled, or is awaited by somebody who will signal. -/
theorem Wakeful.waiting_step (h : Wakeful s) (hm : Move s s') (k : Nat)
    (hk : s'.workers k = .asleep) : s'.freePc = .signalling k ∨ s'.Awaited k := by
  cases hm with
  | submit t threads ok =>
    refine (h.waiting k hk).imp_right fun hold => hold.imp_left fun hsignals => ?_
    obtain ⟨c, hc, hpc⟩ := hsignals
    exact ⟨c, List.mem_append_left _ hc, hpc⟩
  | retry call pc callOk =>
    exact (h.waiting k hk).imp_right fun hold => hold.set_call _ call (by simp [pc])
  | @put n i j c q call pc inside live callOk ok list done =>
    refine (h.waiting k hk).imp_right fun hold => ?_
    by_cases hkj : k = j
    · subst hkj
      have hlt : n < s.calls.length := (List.getElem?_eq_some_iff.mp call).1
      exact .inl ⟨_, List.mem_set hlt _, rfl⟩
    · have hsame : ((s.setQueue j q).queues k).toList = (s.queues k).toList := by
        simp only [setQueue, Function.update_of_ne hkj]
      exact (hold.set_call { c with pc := .signalling j } call (by simp [pc])).imp_right
        hsame.trans
  | @signalled n j c call pc =>
    obtain ⟨hne, hk⟩ := asleep_signal hk
    refine (h.waiting k hk).imp (by simp) fun hold => hold.imp ?_ (by simp)
    rintro ⟨c₀, hmem, hpc₀⟩
    exact ⟨c₀, mem_eraseIdx_of_ne hmem call (by rintro rfl; rw [pc] at hpc₀; cases hpc₀; exact hne rfl),
      hpc₀⟩
  | @take n j q ts worker inside todo alive taken =>
    obtain ⟨-, hpc⟩ | ⟨-, hk⟩ := asleep_setWorker hk
    · cases hpc
    · refine (h.waiting k hk).imp_right fun hold => hold.imp_right fun hnil => ?_
      change (Function.update s.queues j q k).toList = []
      by_cases hkj : k = j
      · subst hkj
        rw [taken.split] at hnil
        rw [Function.update_self]
        exact (List.append_eq_nil_iff.mp hnil).2
      · rw [Function.update_of_ne hkj, hnil]
  | turn todo alive todo' sleep exit =>
    obtain ⟨rfl, hpc⟩ | ⟨-, hk⟩ := asleep_setWorker hk
    · have hwaits := sleep hpc
      simp only [NotQ.waits, Bool.and_eq_true, beq_iff_eq] at hwaits
      exact .inr (.inr (NotQ.toList_eq_nil.mpr hwaits.1))
    · exact h.waiting k hk
  | run worker pc =>
    obtain ⟨-, hpc⟩ | ⟨-, hk⟩ := asleep_setWorker hk
    · cases hpc
    · exact h.waiting k hk
  | @mark i at_ inside =>
    refine .inr ((h.awaited_of_asleep hk (by simp [at_])).imp_right fun hnil => ?_)
    change (Function.update s.queues i { s.queues i with done := true } k).toList = []
    by_cases hki : k = i
    · subst hki
      rw [Function.update_self]
      exact hnil
    · rw [Function.update_of_ne hki, hnil]
  | markSignal at_ =>
    obtain ⟨hne, hk⟩ := asleep_signal hk
    have hold := h.awaited_of_asleep hk (by rw [at_]; rintro ⟨⟩; exact hne rfl)
    refine .inr ?_
    unfold signal
    split <;> exact hold
  | start clean at_ | marked at_ all | join at_ exited | joined at_ all
  | clean at_ inside apart walkable | cleanNext at_ ne inside counts | cleaned at_
  | drop at_ inside apart empty | freed at_ all =>
    exact .inr (h.awaited_of_asleep hk (by simp [at_]))

/-- **No run loses a wakeup.** -/
theorem wakeful {numThreads : Nat} (h : (machine numThreads).ReachedBy Cond s) : Wakeful s := by
  have hboth : Inv s ∧ Wakeful s :=
    h.invariant (P := fun s => Inv s ∧ Wakeful s) ⟨Inv.init _, Wakeful.init _⟩
      fun _ _ _ _ ⟨hi, hw⟩ hc hs =>
        have hm := hi.move hc hs
        ⟨hi.step hm, hw.marked_step hm, hw.asleep_step hm, hw.waiting_step hm⟩
  exact hboth.2

/-! ## A worker gets to its end -/

/-- The tasks in the queues. -/
def queued (s : TaskSys) : Nat :=
  ((List.range s.lenThr).map fun i => (s.queues i).toList.length).sum

/-- How many steps a worker may take before it takes tasks or leaves. -/
def stage (lenThr k : Nat) : WorkerPc → Nat
  | .running todo => 3 * (lenThr + k) + 3 + todo.length
  | .stealing i => 3 * (lenThr + k) - i + 2
  | .popping => 1
  | .asleep => 1
  | .exited => 0

/-- The worker is closer to its end. -/
def Closer (k : Nat) (s' s : TaskSys) : Prop :=
  s'.queued < s.queued ∨
    s'.queued = s.queued ∧ stage s.lenThr k (s'.workers k) < stage s.lenThr k (s.workers k)

/-- A batch that is taken leaves fewer tasks. -/
theorem queued_take {ts : List Task} (hj : j < s.lenThr) (htaken : (s.queues j).Taken ts q) (hts : ts ≠ []) :
    (s.setQueue j q).queued < s.queued := by
  have hsum := sum_range_update (f := fun i => (s.queues i).toList.length)
    (g := fun i => ((s.setQueue j q).queues i).toList.length) hj
    fun i hi => by simp only [setQueue, Function.update_of_ne hi]
  simp only [htaken.split, List.length_append] at hsum
  have hq : ((s.setQueue j q).queues j).toList.length = q.toList.length := by
    simp only [setQueue, Function.update_self]
  have hpos := List.length_pos_iff.mpr hts
  change (s.setQueue j q).queued + _ = s.queued + _ at hsum
  omega

/-- A worker that only moves on. -/
theorem closer_setWorker (h : stage s.lenThr k pc < stage s.lenThr k (s.workers k)) :
    Closer k (s.setWorker k pc) s := by
  refine .inr ⟨rfl, ?_⟩
  simpa only [setWorker, Function.update_self] using h

/-- A worker that is awake and has not left can take its next step. -/
theorem worker_enabled (h : Inv s) (hk : k < s.lenThr) (hawake : s.workers k ≠ .asleep)
    (halive : s.workers k ≠ .exited) (locked : Bool) : ∃ s', s.step (.worker k locked) = .next s' := by
  simp only [step, workerStep, Outcome.await, decide_eq_true hk, if_true, Outcome.next_bind]
  cases hpc : s.workers k with
  | stealing i =>
    simp only
    split
    · obtain ⟨o, q, hpop⟩ := NotQ.tryPop_next (h.ring (i % s.lenThr)) locked
      rw [hpop]
      cases o with
      | none => exact ⟨_, rfl⟩
      | some ts => exact ⟨_, rfl⟩
    · exact ⟨_, rfl⟩
  | popping =>
    simp only
    split
    · exact ⟨_, rfl⟩
    · obtain ⟨o, q, hpop⟩ := NotQ.pop_next (h.ring k)
      rw [hpop]
      cases o with
      | none => exact ⟨_, rfl⟩
      | some ts => exact ⟨_, rfl⟩
  | asleep => exact absurd hpc hawake
  | running todo =>
    cases todo with
    | nil => exact ⟨_, rfl⟩
    | cons t todo => exact ⟨_, rfl⟩
  | exited => exact absurd hpc halive

/-- Once its queue is done, each of its steps brings it closer to its end. -/
theorem worker_closer (h : Inv s) (hdone : (s.queues k).done = true) {locked : Bool}
    (hs : s.step (.worker k locked) = .next s') : Closer k s' s := by
  simp only [step, workerStep, Outcome.bind_eq_next, Outcome.await_eq_next, decide_eq_true_eq] at hs
  obtain ⟨-, hk, hs⟩ := hs
  cases hpc : s.workers k with
  | stealing i =>
    simp only [hpc] at hs
    split at hs
    · rename_i hi
      have hj : i % s.lenThr < s.lenThr := Nat.mod_lt _ (Nat.lt_of_le_of_lt (Nat.zero_le k) hk)
      simp only [Outcome.bind_eq_next, Prod.exists] at hs
      obtain ⟨ret, q, hpop, hs⟩ := hs
      obtain ⟨rfl, rfl⟩ | ⟨ts, rfl, htaken, hts⟩ := NotQ.tryPop_eq_next (h.ring _) hpop
      · cases hs
        rw [setQueue_self]
        exact closer_setWorker (by rw [hpc]; simp only [stage]; omega)
      · cases hs
        exact .inl (queued_take hj htaken hts)
    · cases hs
      exact closer_setWorker (by rw [hpc]; simp only [stage]; omega)
  | popping =>
    have hwaits : (s.queues k).waits = false := by simp [NotQ.waits, hdone]
    simp only [hpc, hwaits, Bool.false_eq_true, if_false, NotQ.pop, hdone, if_true] at hs
    cases hs
    rw [setQueue_self]
    exact closer_setWorker (by rw [hpc]; simp only [stage]; omega)
  | asleep => simp [hpc] at hs
  | running todo =>
    cases todo with
    | nil =>
      simp only [hpc] at hs
      cases hs
      exact closer_setWorker (by rw [hpc]; simp only [stage, List.length_nil]; omega)
    | cons t todo =>
      simp only [hpc] at hs
      cases hs
      refine .inr ⟨rfl, ?_⟩
      simp only [setWorker, Function.update_self, hpc, stage, List.length_cons]
      omega
  | exited => simp [hpc] at hs

/-- A worker that `free_task_manager` waits for can take its next step, and
is closer to its end after it. -/
theorem worker_progress (h : Inv s) (hw : Wakeful s) (hjoin : s.freePc = .joining k)
    (hk : k < s.lenThr) (halive : s.workers k ≠ .exited) (locked : Bool) :
    ∃ s', s.step (.worker k locked) = .next s' ∧ Closer k s' s := by
  have hdone := hw.marked k hk (by rw [markedUpTo, hjoin]; exact hk)
  have hawake : s.workers k ≠ .asleep := fun hasleep => by
    rw [hw.done_of_asleep hasleep (by rw [hjoin]; nofun)] at hdone
    cases hdone
  obtain ⟨s', hs⟩ := worker_enabled h hk hawake halive locked
  exact ⟨s', hs, worker_closer h hdone hs⟩

/-! ## A call gets to its end -/

/-- What the calls have left to do. -/
def callWork (s : TaskSys) : Nat := (s.calls.map (AsyncCall.work s.lenThr)).sum

/-- A queue that is not being freed has not been freed. -/
theorem released_of_live (h : s.releasing j = false) : s.released j = false := by
  unfold releasing at h
  unfold released
  cases hpc : s.freePc with
  | cleaning i it stop =>
    simp only [hpc, decide_eq_false_iff_not] at h ⊢
    omega
  | _ => simp_all

/-- **A call goes on**: with memory it can take its next step, whether or not it gets the mutex, and
has less to do after it. -/
theorem call_progress (h : Inv s) {c : AsyncCall} (hc : s.calls[k]? = some c) (locked : Bool) :
    ∃ s', s.step (.call k locked true) = .next s' ∧ s'.callWork < s.callWork := by
  obtain ⟨hfunc, hargs, -, hlive⟩ := h.calls c (List.mem_of_getElem? hc)
  have hreleased := released_of_live hlive
  cases hpc : c.pc with
  | trying i =>
    simp only [AsyncCall.queue, hpc] at hreleased
    by_cases hi : i < s.lenThr
    · rw [if_pos hi] at hreleased
      obtain ⟨q, hq⟩ := NotQ.tryPush_next (q := s.queues (c.queueAt s.lenThr i)) hfunc hargs locked
      refine ⟨(s.setQueue (c.queueAt s.lenThr i) q).setCall k
        { c with pc := if locked then .signalling (c.queueAt s.lenThr i) else .trying (i + 1) },
        ?_, ?_⟩
      · cases locked <;>
          simp [step, callStep, hc, hpc, hi, hreleased, hq, Outcome.awaitSome, Outcome.assert]
      · have hsum := sum_map_set_add (f := AsyncCall.work s.lenThr)
          (b := { c with pc := if locked then .signalling (c.queueAt s.lenThr i) else .trying (i + 1) })
          hc
        simp only [AsyncCall.work, hpc] at hsum
        simp only [callWork, setCall, setQueue]
        cases locked <;> simp only [Bool.false_eq_true, if_true, if_false] at hsum ⊢ <;> omega
    · rw [if_neg hi] at hreleased
      obtain ⟨q, hq⟩ := NotQ.push_next (q := s.queues (c.queueAt s.lenThr 0)) hfunc
      refine ⟨(s.setQueue (c.queueAt s.lenThr 0) q).setCall k
        { c with pc := .signalling (c.queueAt s.lenThr 0) }, ?_, ?_⟩
      · simp [step, callStep, hc, hpc, hi, hreleased, hq, Outcome.awaitSome, Outcome.assert]
      · have hsum := sum_map_set_add (f := AsyncCall.work s.lenThr)
          (b := { c with pc := .signalling (c.queueAt s.lenThr 0) }) hc
        simp only [AsyncCall.work, hpc] at hsum
        simp only [callWork, setCall, setQueue]
        omega
  | signalling j =>
    simp only [AsyncCall.queue, hpc] at hreleased
    refine ⟨{ s.signal j with calls := s.calls.eraseIdx k }, ?_, ?_⟩
    · simp [step, callStep, hc, hpc, hreleased, Outcome.awaitSome, Outcome.assert]
    · have hsum := sum_map_eraseIdx_add (f := AsyncCall.work s.lenThr) hc
      simp only [AsyncCall.work, hpc] at hsum
      simp only [callWork, signal_lenThr]
      omega

/-! ## `free_task_manager` gets to its end -/

/-- The tasks it has to clean in the queue that it frees. -/
def toClean (s : TaskSys) : Nat :=
  match s.freePc with
  | .cleaning i it stop => ((s.queues i).r.ahead it stop).length
  | _ => 0

/-- `free_task_manager` is closer to its end. -/
def FreeCloser (s' s : TaskSys) : Prop :=
  s'.freePc.rank s.lenThr < s.freePc.rank s.lenThr ∨
    s'.freePc.rank s.lenThr = s.freePc.rank s.lenThr ∧ s'.toClean < s.toClean

/-- **`free_task_manager` goes on**, once it has been called and unless it waits for a worker, and is
closer to its end after each step. -/
theorem free_progress (h : Inv s) (hw : Wakeful s) (halive : s.freePc ≠ .alive)
    (hfreed : s.freePc ≠ .freed)
    (hjoin : ∀ k, s.freePc = .joining k → k < s.lenThr → s.workers k = .exited) :
    ∃ s', s.step .freeNext = .next s' ∧ FreeCloser s' s := by
  simp only [step]
  cases hpc : s.freePc with
  | alive => exact absurd hpc halive
  | marking i =>
    by_cases hi : i < s.lenThr
    · refine ⟨_, by simp only [freeStep, hpc, if_pos hi]; rfl, .inl ?_⟩
      simp only [hpc, FreePc.rank]
      omega
    · refine ⟨_, by simp only [freeStep, hpc, if_neg hi]; rfl, .inl ?_⟩
      simp only [hpc, FreePc.rank]
      omega
  | signalling i =>
    have hi := h.shutting i hpc
    refine ⟨_, by simp only [freeStep, hpc]; rfl, .inl ?_⟩
    simp only [hpc, FreePc.rank]
    omega
  | joining i =>
    by_cases hi : i < s.lenThr
    · have hexited := hjoin i hpc hi
      refine ⟨_, by simp [freeStep, hpc, hi, hexited, Outcome.await]; rfl, .inl ?_⟩
      simp only [hpc, FreePc.rank]
      omega
    · refine ⟨_, by simp only [freeStep, hpc, if_neg hi]; rfl, .inl ?_⟩
      simp only [hpc, FreePc.rank]
      omega
  | freeing i =>
    by_cases hi : i < s.lenThr
    · have hdone := hw.marked i hi (by rw [markedUpTo, hpc]; exact hi)
      cases hclean : s.clean with
      | false =>
        refine ⟨_, by simp [freeStep, hpc, hi, hdone, hclean, Outcome.assert]; rfl, .inl ?_⟩
        simp only [hpc, FreePc.rank]
        omega
      | true =>
        refine ⟨_, by simp [freeStep, hpc, hi, hdone, hclean, Outcome.assert]; rfl, .inl ?_⟩
        simp only [hpc, FreePc.rank]
        omega
    · refine ⟨_, by simp only [freeStep, hpc, if_neg hi]; rfl, .inl ?_⟩
      simp only [hpc, FreePc.rank]
      omega
  | cleaning i it stop =>
    obtain ⟨hi, hit, hstop, -⟩ := h.walk i it stop hpc
    by_cases heq : it = stop
    · refine ⟨_, by simp only [freeStep, hpc, if_pos heq]; rfl, .inl ?_⟩
      simp only [hpc, FreePc.rank]
      omega
    · refine ⟨_, by simp [freeStep, hpc, heq, hit, Outcome.assert]; rfl, .inr ⟨?_, ?_⟩⟩
      · simp only [hpc, FreePc.rank]
      · have hahead := SeqRing.ahead_next hit (by rw [hstop]; exact (h.ring i).endPos_lt) heq
          ((h.counts i it stop hpc).resolve_left heq)
        simp only [toClean, hpc, hahead, List.length_cons]
        omega
  | freed => exact absurd hpc hfreed

end TaskSys

end FlexRic
