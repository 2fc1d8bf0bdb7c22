import FlexRic.Ds.SeqRing

/-!
# FlexRic.Ds.RingFifo

The ring buffer over whole runs of pushes and erasures, in both of its copies
(`seq_ring.c` and the one in `task_manager.c`, which differ in their first capacity).

* `FifoState` has the queue that a ring stands for beside it, `Refines` is what is asked
  of the two.  `seqRing_fifo`: it holds as long as no element is pushed onto
  `2 ^ 32 - 1` others.
* `seqRing_loses`: with one more, all of them are lost.
-/

namespace FlexRic

universe u

namespace SeqRing

/-- The two copies of the source. -/
inductive Copy where
  | seqRing
  | taskManager

/-- `DEFAULT_ELM`. -/
def Copy.defaultElm : Copy → Nat
  | seqRing => 32
  | taskManager => DEFAULT_ELM

variable {α : Type u}

/-- `seq_ring_init` of either copy. -/
def initOf [Inhabited α] (copy : Copy) : SeqRing α := ⟨fun _ => default, copy.defaultElm, 0, 0⟩

/-- `while(it != seq_ring_end(r)) it = seq_ring_next(r, it);`, for `n` rounds at most. -/
def visit (r : SeqRing α) : Nat → Nat → Option (List α)
  | 0, it => if it = r.endPos then some [] else none
  | n + 1, it =>
    if it = r.endPos then some [] else (r.visit n (r.nextPos it)).map (r.array it :: ·)

/-- A ring, and the queue it stands for. -/
structure FifoState (α : Type u) where
  ring : SeqRing α
  queue : List α

inductive FifoEvent (α : Type u) where
  /-- an element, and whether there is memory for a larger buffer -/
  | pushBack (data : α) (callocOk : Bool)
  /-- the first `n` elements are erased -/
  | erase (n : Nat)

def fifoStep [Inhabited α] (s : FifoState α) : FifoEvent α → Outcome (FifoState α)
  | .pushBack data callocOk => do
    let ring ← s.ring.pushBack data callocOk
    return { ring, queue := s.queue ++ [data] }
  | .erase n => do
    .await (decide (n ≤ s.ring.size))
    let ring ← s.ring.erase s.ring.frontPos (s.ring.atPos n.toUInt32)
    return { ring, queue := s.queue.drop n }

def fifo (α : Type u) [Inhabited α] (copy : Copy) : Machine (FifoState α) (FifoEvent α) where
  init := { ring := initOf copy, queue := [] }
  step := fifoStep

/-- An element is pushed only if 32 bits can count it. -/
def Room (s : FifoState α) : FifoEvent α → Prop
  | .pushBack _ _ => s.ring.size + 1 < 2 ^ 32
  | .erase _ => True

instance (s : FifoState α) : (e : FifoEvent α) → Decidable (Room s e)
  | .pushBack _ _ => inferInstanceAs (Decidable (_ < _))
  | .erase _ => inferInstanceAs (Decidable True)

/-- **What is asked of a ring**: it is the queue. -/
structure Refines [Inhabited α] (s : FifoState α) : Prop where
  /-- the counters say how many elements there are -/
  size_eq : (s.ring.head.toNat + 2 ^ 32 - s.ring.tail.toNat) % 2 ^ 32 = s.queue.length
  /-- and they are in the order of their insertion -/
  get : ∀ i (h : i < s.queue.length), s.ring.array (s.ring.atPos i.toUInt32) = s.queue[i]
  /-- also on a walk from front to end -/
  walk : s.ring.cap < 2 ^ 32 → s.ring.visit s.queue.length s.ring.frontPos = some s.queue
  /-- a larger buffer has the same elements -/
  enlarge : ∀ callocOk r, s.ring.cap < 2 ^ 32 → s.ring.enlargeBuffer callocOk = .next r →
    r.toList = s.queue

variable {r : SeqRing α} {it n : Nat}

theorem visit_eq (h : Ok r) (hcap : r.cap < 2 ^ 32) (hit : it < r.cap)
    (hn : (r.ahead it r.endPos).length ≤ n) : r.visit n it = some (r.ahead it r.endPos) := by
  induction n generalizing it with
  | zero =>
    have hnil : r.ahead it r.endPos = [] := List.length_eq_zero_iff.1 (Nat.le_zero.1 hn)
    by_cases hend : it = r.endPos
    · rw [visit, if_pos hend, hnil]
    · rw [ahead_next hit h.endPos_lt hend (by omega)] at hnil
      cases hnil
  | succ n ih =>
    by_cases hend : it = r.endPos
    · subst hend
      rw [visit, if_pos rfl, ahead_self]
    · have hnext := ahead_next hit h.endPos_lt hend (by omega)
      have hlt : r.nextPos it < r.cap := by
        rw [nextPos_eq hit (by omega)]
        exact Nat.mod_lt _ h.cap_pos
      rw [hnext, List.length_cons] at hn
      rw [visit, if_neg hend, ih hlt (by omega), hnext]
      rfl

theorem Ok.initOf [Inhabited α] (copy : Copy) : Ok (initOf copy : SeqRing α) := by
  cases copy with
  | seqRing =>
    have hsize : (SeqRing.initOf .seqRing : SeqRing α).size = 0 := by simp [size, SeqRing.initOf]
    exact ⟨⟨5, by decide, rfl⟩, by rw [hsize]; exact Nat.zero_lt_succ _⟩
  | taskManager => exact Ok.init

/-- The ring is well formed, and holds the queue. -/
structure Inv (s : FifoState α) : Prop where
  ok : Ok s.ring
  toList : s.ring.toList = s.queue

variable {s s' : FifoState α} {e : FifoEvent α}

theorem length_toList (r : SeqRing α) : r.toList.length = r.size := by
  rw [SeqRing.toList, List.length_map, List.length_range]

theorem Inv.length (h : Inv s) : s.queue.length = s.ring.size := by
  rw [← h.toList, length_toList]

theorem Inv.refines [Inhabited α] (h : Inv s) : Refines s where
  size_eq := by
    have hhead := head_eq s.ring
    have hlt := s.ring.tail.toNat_lt
    have hsize := h.ok.size_lt
    have hcap := h.ok.cap_le
    rw [h.length]
    omega
  get := fun i hi => by
    have hget : s.queue[i]? = some (s.ring.array (s.ring.atPos i.toUInt32)) := by
      rw [h.length] at hi
      rw [← h.toList, SeqRing.toList, List.getElem?_map, List.getElem?_range hi]
      rfl
    rw [List.getElem?_eq_getElem hi, Option.some.injEq] at hget
    exact hget.symm
  walk := fun hcap => by
    have hahead := h.ok.ahead_front
    rw [visit_eq h.ok hcap h.ok.frontPos_lt (by rw [hahead, h.toList]), hahead, h.toList]
  enlarge := fun callocOk r hcap hr => by
    have hfull : s.ring.full = true := by
      simp only [enlargeBuffer, Outcome.bind_eq_next, Outcome.assert_eq_next] at hr
      obtain ⟨-, hfull, -⟩ := hr
      exact hfull
    have hmem : s.ring.enlargeBuffer true = .next r := by
      cases callocOk with
      | true => exact hr
      | false => simp [enlargeBuffer, hfull, Outcome.assert] at hr
    obtain ⟨r', hr', -, hlist, -⟩ := h.ok.enlargeBuffer_eq hfull hcap
    rw [hmem, Outcome.next_inj] at hr'
    rw [hr', hlist, h.toList]

/-- A push onto the ring is one onto the queue. -/
theorem Inv.pushBack [Inhabited α] (h : Inv s) {x : α} (hroom : s.ring.size + 1 < 2 ^ 32) :
    ∃ s', fifoStep s (.pushBack x true) = .next s' ∧ Inv s' ∧ s'.queue = s.queue ++ [x] := by
  obtain ⟨r', hpush, hok, hlist⟩ := h.ok.pushBack_eq hroom x
  refine ⟨⟨r', s.queue ++ [x]⟩, ?_, ⟨hok, by rw [hlist, h.toList]⟩, rfl⟩
  rw [fifoStep, hpush, Outcome.next_bind]
  rfl

/-- An erasure from the ring is one from the front of the queue. -/
theorem Inv.erase [Inhabited α] (h : Inv s) (hn : n ≤ s.ring.size) :
    ∃ s', fifoStep s (.erase n) = .next s' ∧ Inv s' := by
  obtain ⟨r', herase, hok, hlist, -⟩ := h.ok.erase_eq hn
  have hawait : Outcome.await (decide (n ≤ s.ring.size)) = .next ⟨⟩ :=
    Outcome.await_eq_next.2 (decide_eq_true hn)
  refine ⟨⟨r', s.queue.drop n⟩, ?_, hok, by rw [hlist, h.toList]⟩
  rw [fifoStep, hawait, Outcome.next_bind, herase, Outcome.next_bind]
  rfl

theorem Inv.step [Inhabited α] (h : Inv s) (hroom : Room s e)
    (hstep : fifoStep s e = .next s') : Inv s' := by
  cases e with
  | pushBack x callocOk =>
    simp only [fifoStep, Outcome.bind_eq_next] at hstep
    obtain ⟨r, hpush, hstep⟩ := hstep
    rw [Outcome.pure_eq, Outcome.next_inj] at hstep
    obtain ⟨hok, hlist⟩ := h.ok.pushBack hroom hpush
    exact hstep ▸ ⟨hok, by rw [hlist, h.toList]⟩
  | erase n =>
    have hn : n ≤ s.ring.size := by
      simp only [fifoStep, Outcome.bind_eq_next, Outcome.await_eq_next, decide_eq_true_eq] at hstep
      obtain ⟨-, hn, -⟩ := hstep
      exact hn
    obtain ⟨s₁, hrun, hinv⟩ := h.erase hn
    rw [hrun, Outcome.next_inj] at hstep
    exact hstep ▸ hinv

theorem reachedBy_inv [Inhabited α] {copy : Copy} (h : (fifo α copy).ReachedBy Room s) : Inv s := by
  refine h.invariant ⟨Ok.initOf copy, ?_⟩ fun s e s' _ hinv hroom hstep => hinv.step hroom hstep
  have hsize : (SeqRing.initOf copy : SeqRing α).size = 0 := by
    simp [size, SeqRing.initOf]
  show (SeqRing.initOf copy : SeqRing α).toList = []
  rw [SeqRing.toList, hsize]
  rfl

/-- **The ring is a queue** in every run that never pushes onto `2 ^ 32 - 1` elements, also
where its counters wrap; and the next operation works if there is memory. -/
theorem seqRing_fifo [Inhabited α] (copy : Copy) (s : FifoState α)
    (h : (fifo α copy).ReachedBy Room s) :
    Refines s ∧
      (∀ x, s.ring.size + 1 < 2 ^ 32 → ∃ s', fifoStep s (.pushBack x true) = .next s') ∧
      ∀ n, n ≤ s.queue.length → ∃ s', fifoStep s (.erase n) = .next s' := by
  have hinv := reachedBy_inv h
  refine ⟨hinv.refines, fun x hroom => ?_, fun n hn => ?_⟩
  · obtain ⟨s', hstep, -⟩ := hinv.pushBack (x := x) hroom
    exact ⟨s', hstep⟩
  · rw [hinv.length] at hn
    obtain ⟨s', hstep, -⟩ := hinv.erase hn
    exact ⟨s', hstep⟩

/-- Three elements, of which the first two are erased. -/
theorem seqRing_fifo_three : ∃ s, (fifo Nat .seqRing).ReachedBy Room s ∧ Refines s ∧
    s.queue = [9] := by
  obtain ⟨s, hs, hqueue⟩ := Machine.ReachedBy.exists_of_run (M := fifo Nat .seqRing) (C := Room)
    [.pushBack 7 true, .pushBack 8 true, .pushBack 9 true, .erase 2]
    (fun s => decide (s.queue = [9])) (by decide)
  exact ⟨s, hs, (seqRing_fifo .seqRing s hs).1, of_decide_eq_true hqueue⟩

/-- Any number of elements up to what 32 bits can count. -/
theorem exists_reached_length (copy : Copy) (hn : n < 2 ^ 32) :
    ∃ s, (fifo Nat copy).Reachable s ∧ Inv s ∧ s.queue.length = n := by
  induction n with
  | zero => exact ⟨_, .init, reachedBy_inv (s := (fifo Nat copy).init) .init, rfl⟩
  | succ n ih =>
    obtain ⟨s, hs, hinv, hlen⟩ := ih (Nat.lt_of_succ_lt hn)
    have hroom : s.ring.size + 1 < 2 ^ 32 := by rwa [← hinv.length, hlen]
    obtain ⟨s', hstep, hinv', hqueue⟩ := hinv.pushBack (x := 0) hroom
    refine ⟨s', .step (e := .pushBack 0 true) hs trivial hstep, hinv', ?_⟩
    rw [hqueue, List.length_append, hlen, List.length_singleton]

/-- **`2 ^ 32` pushes** and nothing else: the ring is empty. -/
theorem seqRing_loses : ∃ s : FifoState Nat, (fifo Nat .seqRing).Reachable s ∧ ¬ Refines s := by
  obtain ⟨s, hs, hinv, hlen⟩ := exists_reached_length .seqRing
    (show 2 ^ 32 - 1 < 2 ^ 32 by omega)
  have hroom : s.ring.size + 1 = 2 ^ 32 := by
    rw [← hinv.length, hlen]
    omega
  obtain ⟨r', hpush, hnil⟩ := hinv.ok.pushBack_overflow hroom 0
  have hstep : fifoStep s (.pushBack 0 true) = .next ⟨r', s.queue ++ [0]⟩ := by
    rw [fifoStep, hpush, Outcome.next_bind]
    rfl
  refine ⟨_, .step (e := .pushBack 0 true) hs trivial hstep, fun href => ?_⟩
  have hsize := href.size_eq
  rw [List.length_append, hlen, List.length_singleton] at hsize
  have hlt := Nat.mod_lt (r'.head.toNat + 2 ^ 32 - r'.tail.toNat) (show 0 < 2 ^ 32 by omega)
  omega

end SeqRing

end FlexRic
