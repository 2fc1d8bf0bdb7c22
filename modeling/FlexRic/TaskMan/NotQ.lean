import FlexRic.Ds.SeqRing

/-!
# FlexRic.TaskMan.NotQ

The queue of one worker of the task manager (`not_q_t`): a ring of tasks and
the flag that shuts it down.  Each operation is what happens while its mutex
is held; `locked` is whether `pthread_mutex_trylock` has got it.
-/

namespace FlexRic

/-- `task_t`: the addresses of a function and its argument. -/
structure Task where
  args : UInt64
  func : UInt64
  deriving DecidableEq, Repr

/-- All zeros. -/
instance : Inhabited Task := ⟨⟨0, 0⟩⟩

/-- `not_q_t`, without its mutex and condition variable. -/
structure NotQ where
  r : SeqRing Task
  done : Bool

namespace NotQ

/-- `init_not_q`. -/
def init : NotQ := ⟨.init, false⟩

/-- The tasks in the queue. -/
def toList (q : NotQ) : List Task := q.r.toList

/-- At most so many tasks are taken at a time. -/
def batch : Nat := 4096

/-- `try_push_not_q`. -/
def tryPush (q : NotQ) (t : Task) (locked callocOk : Bool) : Outcome (Bool × NotQ) := do
  .assert (t.func != 0) "t.func != NULL"
  .assert (t.args != 0) "t.args != NULL"
  if locked then do
    let r ← q.r.pushBack t callocOk
    return (true, { q with r })
  else return (false, q)

/-- `push_not_q`. -/
def push (q : NotQ) (t : Task) (callocOk : Bool) : Outcome NotQ := do
  .assert (t.func != 0) "t.func != NULL"
  let r ← q.r.pushBack t callocOk
  return { q with r }

/-- `try_pop_not_q`. -/
def tryPop (q : NotQ) (locked : Bool) : Outcome (Option (List Task) × NotQ) :=
  if locked then
    if q.r.size == 0 then return (none, q)
    else do
      let len := if q.r.size < batch then q.r.size else batch
      let ret := q.r.copyFront len
      let r ← q.r.erase q.r.frontPos (q.r.atPos len.toUInt32)
      .assert (q.r.size == len + r.size) "sz == ret.len + seq_ring_size(&q->r)"
      return (some ret, { q with r })
  else return (none, q)

/-- The rest of `pop_not_q` after its wait. -/
def pop (q : NotQ) : Outcome (Option (List Task) × NotQ) :=
  if q.done then return (none, q)
  else do
    let len := if q.r.size < batch then q.r.size else batch
    .assert ((List.range len).all fun i => q.r.atPos i.toUInt32 != q.r.endPos)
      "it != seq_ring_end(&q->r)"
    let ret := q.r.copyFront len
    let r ← q.r.erase q.r.frontPos (q.r.atPos len.toUInt32)
    return (some ret, { q with r })

/-- `pop_not_q` waits. -/
def waits (q : NotQ) : Bool := q.r.size == 0 && !q.done

/-! ## What the operations do -/

variable {q q' : NotQ} {t : Task} {ts : List Task} {locked callocOk pushed : Bool}

/-- What is taken is the front of the queue, and the rest stays. -/
structure Taken (q : NotQ) (ts : List Task) (q' : NotQ) : Prop where
  ok : q'.r.Ok
  split : q.toList = ts ++ q'.toList
  /-- something is taken, unless there was nothing -/
  nonempty : q.toList ≠ [] → ts ≠ []
  done : q'.done = q.done

/-- There is room for one more. -/
def Room (q : NotQ) : Prop := q.r.size + 1 < 2 ^ 32

instance : Decidable q.Room := inferInstanceAs (Decidable (_ < _))

/-- The walk over the ring does not go on from the last cell that 32 bits can count. -/
def Walkable (q : NotQ) : Prop := q.r.frontPos ≤ q.r.endPos ∨ q.r.cap < 2 ^ 32

instance : Decidable q.Walkable := inferInstanceAs (Decidable (_ ∨ _))

/-- An attempt that gets the mutex puts the task at the end of the queue; any other does nothing. -/
theorem tryPush_eq_next (h : q.r.Ok) (hroom : locked = true → q.Room)
    (hs : q.tryPush t locked callocOk = .next (pushed, q')) :
    (locked = false ∧ pushed = false ∧ q' = q) ∨
    (pushed = true ∧ q'.r.Ok ∧ q'.toList = q.toList ++ [t] ∧ q'.done = q.done) := by
  simp only [tryPush, Outcome.bind_eq_next, Outcome.assert_eq_next] at hs
  obtain ⟨-, -, -, -, hs⟩ := hs
  split at hs
  · rename_i hlocked
    simp only [Outcome.bind_eq_next, Outcome.pure_eq, Outcome.next_inj, Prod.mk.injEq] at hs
    obtain ⟨r, hr, rfl, rfl⟩ := hs
    obtain ⟨hok, hlist⟩ := h.pushBack (hroom hlocked) hr
    exact .inr ⟨rfl, hok, hlist, rfl⟩
  · rename_i hlocked
    cases hs
    exact .inl ⟨Bool.not_eq_true _ ▸ hlocked, rfl, rfl⟩

/-- With memory and a task that is complete, an attempt fails no check. -/
theorem tryPush_next (hfunc : t.func ≠ 0) (hargs : t.args ≠ 0) (locked : Bool) :
    ∃ q', q.tryPush t locked true = .next (locked, q') := by
  obtain ⟨r, hr⟩ := q.r.pushBack_next t
  cases locked with
  | false => exact ⟨q, by simp [tryPush, Outcome.assert, hfunc, hargs]⟩
  | true => exact ⟨{ q with r }, by simp [tryPush, Outcome.assert, hfunc, hargs, hr]⟩

/-- `push_not_q` does without the arguments. -/
theorem push_next (hfunc : t.func ≠ 0) : ∃ q', q.push t true = .next q' := by
  obtain ⟨r, hr⟩ := q.r.pushBack_next t
  exact ⟨{ q with r }, by simp [push, Outcome.assert, hfunc, hr]⟩

/-- `try_push_not_q` does not. -/
theorem tryPush_aborts (hargs : t.args = 0) : (q.tryPush t locked callocOk).Aborts := by
  simp only [tryPush, Outcome.bind_aborts, Outcome.assert_aborts, Outcome.assert_eq_next, hargs]
  exact (Bool.eq_false_or_eq_true (t.func != 0)).symm.imp id fun hfunc => ⟨⟨⟩, hfunc, .inl rfl⟩

/-- **A push adds one task at the end.** -/
theorem push_eq_next (h : q.r.Ok) (hroom : q.Room) (hs : q.push t callocOk = .next q') :
    q'.r.Ok ∧ q'.toList = q.toList ++ [t] ∧ q'.done = q.done := by
  simp only [push, Outcome.bind_eq_next, Outcome.assert_eq_next, Outcome.pure_eq,
    Outcome.next_inj] at hs
  obtain ⟨-, -, r, hr, rfl⟩ := hs
  obtain ⟨hok, hlist⟩ := h.pushBack hroom hr
  exact ⟨hok, hlist, rfl⟩

theorem toList_eq_nil : q.toList = [] ↔ q.r.size = 0 := by
  rw [toList, SeqRing.toList, List.map_eq_nil_iff, List.range_eq_nil]

/-- Taking a batch passes the checks. -/
theorem take_batch (h : q.r.Ok) {len : Nat} (hlen : len ≤ q.r.size)
    (hsome : q.r.size ≠ 0 → len ≠ 0) :
    ∃ r, q.r.erase q.r.frontPos (q.r.atPos len.toUInt32) = .next r ∧
      Taken q (q.r.copyFront len) { q with r } ∧ q.r.size = len + r.size := by
  obtain ⟨r, hr, hok, hlist, hsize⟩ := h.erase_eq hlen
  refine ⟨r, hr, ⟨hok, ?_, ?_, rfl⟩, by omega⟩
  · change q.r.toList = _ ++ r.toList
    rw [SeqRing.copyFront_eq hlen, hlist, List.take_append_drop]
  · intro hne hnil
    rw [ne_eq, toList_eq_nil] at hne
    rw [SeqRing.copyFront, List.map_eq_nil_iff, List.range_eq_nil] at hnil
    exact hsome hne hnil

theorem min_batch_le (q : NotQ) : (if q.r.size < batch then q.r.size else batch) ≤ q.r.size := by
  split <;> omega

theorem min_batch_ne (q : NotQ) (h : q.r.size ≠ 0) :
    (if q.r.size < batch then q.r.size else batch) ≠ 0 := by
  split
  · exact h
  · decide

/-- A try takes a batch or nothing. -/
theorem tryPop_eq_next {o : Option (List Task)} (h : q.r.Ok)
    (hs : q.tryPop locked = .next (o, q')) :
    (o = none ∧ q' = q) ∨ ∃ ts, o = some ts ∧ Taken q ts q' ∧ ts ≠ [] := by
  simp only [tryPop] at hs
  split at hs
  · split at hs
    · cases hs
      exact .inl ⟨rfl, rfl⟩
    · rename_i hsize₀
      have hne : q.toList ≠ [] := by simpa [toList_eq_nil] using hsize₀
      obtain ⟨r, hr, htaken, hsize⟩ := take_batch h q.min_batch_le q.min_batch_ne
      simp only [hr, Outcome.next_bind, Outcome.bind_eq_next, Outcome.pure_eq, Outcome.next_inj,
        Prod.mk.injEq] at hs
      obtain ⟨-, -, rfl, rfl⟩ := hs
      exact .inr ⟨_, rfl, htaken, htaken.nonempty hne⟩
  · cases hs
    exact .inl ⟨rfl, rfl⟩

/-- A pop takes a batch, unless the queue is shut down. -/
theorem pop_eq_next {o : Option (List Task)} (h : q.r.Ok) (hs : q.pop = .next (o, q')) :
    (q.done = true ∧ o = none ∧ q' = q) ∨ ∃ ts, o = some ts ∧ Taken q ts q' := by
  simp only [pop] at hs
  split at hs
  · rename_i hdone
    cases hs
    exact .inl ⟨hdone, rfl, rfl⟩
  · obtain ⟨r, hr, htaken, -⟩ := take_batch h q.min_batch_le q.min_batch_ne
    simp only [hr, Outcome.next_bind, Outcome.bind_eq_next, Outcome.pure_eq, Outcome.next_inj,
      Prod.mk.injEq] at hs
    obtain ⟨-, -, rfl, rfl⟩ := hs
    exact .inr ⟨_, rfl, htaken⟩

/-- An attempt to take tasks never fails a check. -/
theorem tryPop_next (h : q.r.Ok) (locked : Bool) : ∃ o q', q.tryPop locked = .next (o, q') := by
  simp only [tryPop]
  split
  · split
    · exact ⟨none, q, rfl⟩
    · obtain ⟨r, hr, -, hsize⟩ := take_batch h q.min_batch_le q.min_batch_ne
      have hcheck := beq_iff_eq.mpr hsize
      generalize (if q.r.size < batch then q.r.size else batch) = len at hr hcheck ⊢
      refine ⟨some (q.r.copyFront len), { q with r }, ?_⟩
      simp only [hr, Outcome.next_bind, Outcome.assert, hcheck, if_true]
      rfl
  · exact ⟨none, q, rfl⟩

/-- `pop_not_q` fails no check. -/
theorem pop_next (h : q.r.Ok) : ∃ o q', q.pop = .next (o, q') := by
  simp only [pop]
  split
  · exact ⟨none, q, rfl⟩
  · obtain ⟨r, hr, -, -⟩ := take_batch h q.min_batch_le q.min_batch_ne
    have hall : ((List.range (if q.r.size < batch then q.r.size else batch)).all
        fun i => q.r.atPos i.toUInt32 != q.r.endPos) = true := by
      rw [List.all_eq_true]
      intro i hi
      have hlt := Nat.lt_of_lt_of_le (List.mem_range.mp hi) q.min_batch_le
      simpa using h.atPos_ne_endPos hlt
    generalize (if q.r.size < batch then q.r.size else batch) = len at hr hall ⊢
    refine ⟨some (q.r.copyFront len), { q with r }, ?_⟩
    simp only [hall, hr, Outcome.assert, if_true, Outcome.next_bind]
    rfl

end NotQ

end FlexRic
