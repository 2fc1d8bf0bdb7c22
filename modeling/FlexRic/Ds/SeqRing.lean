import FlexRic.Lib.Machine
import Mathlib.Data.Nat.ModEq

/-!
# FlexRic.Ds.SeqRing

The ring buffer of the task manager (`seq_ring_t`): a buffer whose capacity
is a power of two, and two 32-bit counters that run freely and are masked
down to a position in it.

`toList` is what the ring holds, first in first.  On a well-formed ring
(`Ok`):

* `pushBack_eq`: a push appends, whether or not the buffer is enlarged,
  unless the ring already holds `2 ^ 32 - 1` elements;
* `erase_eq`: an erasure drops from the front;
* `ahead_next`: a walk from front to end visits the elements one by one.
-/

namespace FlexRic

universe u

/-- `seq_ring_t`; the buffer is a function of the position. -/
structure SeqRing (α : Type u) where
  array : Nat → α
  cap : Nat
  head : UInt32
  tail : UInt32

namespace SeqRing

variable {α : Type u}

/-! ## Buffers -/

/-- `memcpy` of `n` cells, from position `i` of `src` to position `k` of `dst`. -/
def memcpy (dst : Nat → α) (k : Nat) (src : Nat → α) (i n : Nat) : Nat → α :=
  fun j => if k ≤ j ∧ j < k + n then src (i + (j - k)) else dst j

/-- `memset` of `n` cells to zero. -/
def memset [Inhabited α] (dst : Nat → α) (k n : Nat) : Nat → α :=
  fun j => if k ≤ j ∧ j < k + n then default else dst j

/-! ## The ring -/

def DEFAULT_ELM : Nat := 32768

def mask (cap : Nat) (val : UInt32) : UInt32 := val &&& (cap.toUInt32 - 1)

/-- `seq_ring_size`. -/
def size (r : SeqRing α) : Nat := (r.head - r.tail).toNat

def full (r : SeqRing α) : Bool := r.size == r.cap - 1

/-- `seq_ring_init`. -/
def init [Inhabited α] : SeqRing α := ⟨fun _ => default, DEFAULT_ELM, 0, 0⟩

/-- `enlarge_buffer`; `callocOk` when there is memory for the new buffer. -/
def enlargeBuffer [Inhabited α] (r : SeqRing α) (callocOk : Bool) : Outcome (SeqRing α) := do
  .assert r.full "full(r)"
  .assert callocOk "tmp_buffer != NULL"
  let headPos := (mask r.cap r.head).toNat
  let tailPos := (mask r.cap r.tail).toNat
  let tmpBuffer : Nat → α := fun _ => default
  let array :=
    if headPos > tailPos then memcpy tmpBuffer 0 r.array tailPos (headPos - tailPos)
    else
      memcpy (memcpy tmpBuffer 0 r.array tailPos (r.cap - tailPos)) (r.cap - tailPos) r.array 0
        headPos
  let cap := r.cap * 2
  return { array, cap, tail := 0, head := (cap / 2 - 1).toUInt32 }

/-- The position of `seq_ring_front`. -/
def frontPos (r : SeqRing α) : Nat := (mask r.cap r.tail).toNat

/-- The position of `seq_ring_end`. -/
def endPos (r : SeqRing α) : Nat := (mask r.cap r.head).toNat

/-- `seq_ring_next`, on positions. -/
def nextPos (r : SeqRing α) (it : Nat) : Nat :=
  let pos := it.toUInt32
  if (pos + 1).toNat == r.cap then 0 else it + 1

/-- The position of `seq_ring_at`. -/
def atPos (r : SeqRing α) (pos : UInt32) : Nat := (mask r.cap (r.tail + pos)).toNat

/-- `seq_ring_push_back`. -/
def pushBack [Inhabited α] (r : SeqRing α) (data : α) (callocOk : Bool) : Outcome (SeqRing α) := do
  let r ← if r.full then r.enlargeBuffer callocOk else .next r
  let pos := (mask r.cap r.head).toNat
  return { r with array := Function.update r.array pos data, head := r.head + 1 }

/-- `seq_ring_erase`, on positions. -/
def erase [Inhabited α] (r : SeqRing α) (start stop : Nat) : Outcome (SeqRing α) := do
  .assert (start == r.frontPos) "Only deletions from tail implemented"
  if start == stop then return r
  else
    .assert (stop ≤ r.cap) "end_pos <= r->cap"
    let r :=
      if stop > start then
        { r with
          array := memset r.array start (stop - start)
          tail := r.tail + (stop - start).toUInt32 }
      else
        { r with
          array := memset (memset r.array start (r.cap - start)) 0 stop
          tail := r.tail + (r.cap - start + stop).toUInt32 }
    .assert ((mask r.cap r.tail).toNat == stop) "mask(r->cap, r->tail) == end_pos"
    return r

/-- What the ring holds. -/
def toList (r : SeqRing α) : List α :=
  (List.range r.size).map fun i => r.array (r.atPos i.toUInt32)

/-- The capacity is a power of two that the mask can be made from, and one
cell is left empty. -/
structure Ok (r : SeqRing α) : Prop where
  pow : ∃ k, k ≤ 32 ∧ r.cap = 2 ^ k
  size_lt : r.size < r.cap

theorem size_init [Inhabited α] : (init : SeqRing α).size = 0 := by
  simp [size, init]

theorem Ok.init [Inhabited α] : Ok (init : SeqRing α) :=
  ⟨⟨15, by decide, rfl⟩, by rw [size_init]; exact Nat.zero_lt_succ _⟩

@[simp] theorem toList_init [Inhabited α] : (init : SeqRing α).toList = [] := by
  simp [toList, size_init]

/-! ## Positions -/

variable {r r' : SeqRing α} {cap k n m i j : Nat} {a : Nat → α} {x : α}

theorem mask_toNat (hk : k ≤ 32) (v : UInt32) : (mask (2 ^ k) v).toNat = v.toNat % 2 ^ k := by
  have hmask : ∀ k ≤ 32, ((2 ^ k : Nat).toUInt32 - 1).toNat = 2 ^ k - 1 := by decide
  rw [mask, UInt32.toNat_and, hmask k hk, Nat.and_two_pow_sub_one_eq_mod]

/-- A capacity divides the range of the counters. -/
theorem Ok.cap_dvd (h : Ok r) : r.cap ∣ 2 ^ 32 := by
  obtain ⟨k, hk, hcap⟩ := h.pow
  rw [hcap]
  exact Nat.pow_dvd_pow 2 hk

theorem Ok.cap_pos (h : Ok r) : 0 < r.cap := Nat.lt_of_le_of_lt (Nat.zero_le _) h.size_lt

theorem Ok.cap_le (h : Ok r) : r.cap ≤ 2 ^ 32 := Nat.le_of_dvd (by decide) h.cap_dvd

theorem Ok.mask_eq (h : Ok r) (v : UInt32) : (mask r.cap v).toNat = v.toNat % r.cap := by
  obtain ⟨k, hk, hcap⟩ := h.pow
  rw [hcap, mask_toNat hk]

/-- The counter of the next element to come is as far ahead as there are elements. -/
theorem head_eq (r : SeqRing α) : r.head.toNat = (r.tail.toNat + r.size) % 2 ^ 32 := by
  have h₁ := r.head.toNat_lt
  have h₂ := r.tail.toNat_lt
  rw [size, UInt32.toNat_sub]
  omega

theorem Ok.frontPos_eq (h : Ok r) : r.frontPos = r.tail.toNat % r.cap := h.mask_eq r.tail

theorem Ok.atPos_eq (h : Ok r) (hi : i < 2 ^ 32) : r.atPos i.toUInt32 = (r.tail.toNat + i) % r.cap := by
  rw [atPos, h.mask_eq, UInt32.toNat_add, Nat.mod_mod_of_dvd _ h.cap_dvd]
  congr 2
  exact UInt32.toNat_ofNat_of_lt hi

theorem Ok.endPos_eq (h : Ok r) : r.endPos = (r.tail.toNat + r.size) % r.cap := by
  rw [endPos, h.mask_eq, head_eq, Nat.mod_mod_of_dvd _ h.cap_dvd]

/-! ## Windows -/

/-- `n` cells of a buffer of `cap` cells, from position `i` on and round its end. -/
def window (a : Nat → α) (cap i n : Nat) : List α :=
  (List.range n).map fun j => a ((i + j) % cap)

@[simp] theorem length_window : (window a cap i n).length = n := by
  simp [window]

theorem window_add : window a cap i (n + m) = window a cap i n ++ window a cap (i + n) m := by
  simp [window, List.range_add, Function.comp_def, Nat.add_assoc]

theorem window_succ : window a cap i (n + 1) = a (i % cap) :: window a cap (i + 1) n := by
  rw [Nat.add_comm n 1, window_add]
  rfl

theorem window_mod : window a cap (i % cap) n = window a cap i n := by
  simp [window]

theorem window_congr {b : Nat → α} {cap' i' : Nat}
    (h : ∀ j, j < n → a ((i + j) % cap) = b ((i' + j) % cap')) :
    window a cap i n = window b cap' i' n :=
  List.map_congr_left fun j hj => h j (List.mem_range.mp hj)

theorem Ok.toList_eq (h : Ok r) : r.toList = window r.array r.cap r.tail.toNat r.size := by
  refine List.map_congr_left fun i hi => ?_
  have hlt : i < 2 ^ 32 :=
    Nat.lt_trans (List.mem_range.mp hi) (Nat.lt_of_lt_of_le h.size_lt h.cap_le)
  rw [h.atPos_eq hlt]

/-- Positions less than a round apart are different. -/
theorem add_mod_ne (hij : i < j) (hj : j < cap) (t : Nat) : (t + i) % cap ≠ (t + j) % cap := by
  intro heq
  have hmod : t + i ≡ t + j [MOD cap] := heq
  have hmod' : i ≡ j [MOD cap] := Nat.ModEq.add_left_cancel' t hmod
  rw [Nat.ModEq, Nat.mod_eq_of_lt (Nat.lt_trans hij hj), Nat.mod_eq_of_lt hj] at hmod'
  exact Nat.ne_of_lt hij hmod'

/-! ## Pushing -/

/-- A push into a ring that is not full. -/
theorem Ok.put (h : Ok r) (hsize : r.size + 1 < r.cap) (x : α) :
    let r' : SeqRing α :=
      { r with array := Function.update r.array (mask r.cap r.head).toNat x, head := r.head + 1 }
    Ok r' ∧ r'.toList = r.toList ++ [x] := by
  intro r'
  have hsize' : r'.size = r.size + 1 := by
    have hhead := head_eq r
    have hcap := h.cap_le
    have ht := r.tail.toNat_lt
    simp only [size, UInt32.toNat_sub, r', UInt32.toNat_add, UInt32.toNat_one] at hhead hsize ⊢
    omega
  have hok : Ok r' := ⟨h.pow, by rw [hsize']; exact hsize⟩
  refine ⟨hok, ?_⟩
  rw [hok.toList_eq, h.toList_eq, hsize', window_add]
  have hpos : (mask r.cap r.head).toNat = (r.tail.toNat + r.size) % r.cap := h.endPos_eq
  congr 1
  · refine window_congr fun j hj => ?_
    simp only [r', hpos]
    exact Function.update_of_ne (add_mod_ne hj (Nat.lt_of_succ_lt hsize) _) _ _
  · simp [window, r', hpos]

theorem full_iff (h : Ok r) : r.full = true ↔ r.size + 1 = r.cap := by
  have := h.cap_pos
  simp only [full, beq_iff_eq]
  omega

/-- The new buffer starts with the old one, unrolled from `tailPos` on. -/
theorem unrolled [Inhabited α] (a : Nat → α) {t h : Nat} (ht : t < cap) (hh : h = (t + (cap - 1)) % cap)
    (hj : j < cap - 1) :
    (if h > t then memcpy (fun _ => default) 0 a t (h - t)
      else memcpy (memcpy (fun _ => default) 0 a t (cap - t)) (cap - t) a 0 h) j =
      a ((t + j) % cap) := by
  rcases Nat.eq_zero_or_pos t with rfl | hpos
  · -- the range starts at the first cell
    have hh : h = cap - 1 := by
      rw [hh, Nat.zero_add, Nat.mod_eq_of_lt (by omega)]
    rw [if_pos (by omega), memcpy, if_pos (by omega)]
    congr 1
    rw [Nat.mod_eq_of_lt (by omega)]
    omega
  · have hh : h = t - 1 := by
      rw [hh, show t + (cap - 1) = (t - 1) + cap by omega, Nat.add_mod_right,
        Nat.mod_eq_of_lt (by omega)]
    rw [if_neg (by omega)]
    by_cases hwrap : t + j < cap
    · rw [memcpy, if_neg (by omega), memcpy, if_pos (by omega), Nat.mod_eq_of_lt hwrap]
      congr 1
    · rw [memcpy, if_pos (by omega), show t + j = (j - (cap - t)) + cap by omega, Nat.add_mod_right,
        Nat.mod_eq_of_lt (by omega), Nat.zero_add]

/-- An enlarged ring holds what it held. -/
theorem Ok.enlargeBuffer_eq [Inhabited α] (h : Ok r) (hfull : r.full = true) (hcap : r.cap < 2 ^ 32) :
    ∃ r', r.enlargeBuffer true = .next r' ∧ Ok r' ∧ r'.toList = r.toList ∧
      r'.size + 1 < r'.cap := by
  obtain ⟨k, hk, hpow⟩ := h.pow
  have hsize := (full_iff h).mp hfull
  have hpos := h.cap_pos
  have hhead : (mask r.cap r.head).toNat = r.endPos := rfl
  have htail : (mask r.cap r.tail).toNat = r.frontPos := rfl
  refine ⟨_, by simp only [enlargeBuffer, hfull, Outcome.assert, if_true, Outcome.next_bind]; rfl, ?_⟩
  rw [hhead, htail]
  generalize harray : (if r.endPos > r.frontPos then _ else _ : Nat → α) = array
  have hsize' : size ⟨array, r.cap * 2, (r.cap * 2 / 2 - 1).toUInt32, 0⟩ = r.size := by
    simp only [size, UInt32.sub_zero]
    rw [Nat.mul_div_cancel _ (by decide)]
    have hlt : r.cap - 1 < 2 ^ 32 := Nat.lt_of_le_of_lt (Nat.sub_le _ _) hcap
    exact (UInt32.toNat_ofNat_of_lt hlt).trans (show r.cap - 1 = r.size by omega)
  have hok : Ok (⟨array, r.cap * 2, (r.cap * 2 / 2 - 1).toUInt32, 0⟩ : SeqRing α) := by
    refine ⟨⟨k + 1, ?_, by rw [hpow, Nat.pow_succ]⟩, ?_⟩
    · rw [hpow] at hcap
      exact (Nat.pow_lt_pow_iff_right (by decide)).mp hcap
    · rw [hsize']
      change r.size < r.cap * 2
      omega
  refine ⟨hok, ?_, by rw [hsize']; change r.size + 1 < r.cap * 2; omega⟩
  rw [hok.toList_eq, h.toList_eq, hsize']
  refine window_congr fun j hj => ?_
  have hmod : (r.tail.toNat + j) % r.cap = (r.frontPos + j) % r.cap := by
    rw [h.frontPos_eq, Nat.mod_add_mod]
  simp only [UInt32.toNat_zero, Nat.zero_add]
  rw [Nat.mod_eq_of_lt (by omega), hmod, ← harray]
  refine unrolled r.array (by rw [h.frontPos_eq]; exact Nat.mod_lt _ hpos) ?_ (by omega)
  rw [h.endPos_eq, h.frontPos_eq, Nat.mod_add_mod, show r.size = r.cap - 1 by omega]

/-- **Push.** The new element is the last, in a buffer of any size and at any
offset, unless all counts of 32 bits are taken. -/
theorem Ok.pushBack_eq [Inhabited α] (h : Ok r) (hroom : r.size + 1 < 2 ^ 32) (x : α) :
    ∃ r', r.pushBack x true = .next r' ∧ Ok r' ∧ r'.toList = r.toList ++ [x] := by
  cases hfull : r.full with
  | false =>
    have hlt : r.size + 1 < r.cap := by
      have hne : ¬ r.size + 1 = r.cap := fun heq => by simp [(full_iff h).mpr heq] at hfull
      have := h.size_lt
      omega
    obtain ⟨hok, hlist⟩ := h.put hlt x
    exact ⟨_, by simp only [pushBack, hfull]; rfl, hok, hlist⟩
  | true =>
    have hcap : r.cap < 2 ^ 32 := by
      have := (full_iff h).mp hfull
      omega
    obtain ⟨r₁, henlarge, hok₁, hlist₁, hlt⟩ := h.enlargeBuffer_eq hfull hcap
    obtain ⟨hok, hlist⟩ := hok₁.put hlt x
    exact ⟨_, by simp only [pushBack, hfull, if_true, henlarge]; rfl, hok, by rw [hlist, hlist₁]⟩

/-- With memory a push goes through. -/
theorem pushBack_next [Inhabited α] (r : SeqRing α) (x : α) : ∃ r', r.pushBack x true = .next r' := by
  cases hfull : r.full with
  | false => exact ⟨_, by simp only [pushBack, hfull]; rfl⟩
  | true =>
    exact ⟨_, by
      simp only [pushBack, enlargeBuffer, hfull, Outcome.assert, if_true, Outcome.next_bind]; rfl⟩

/-- A push that returns has had the memory it needed. -/
theorem pushBack_eq_next [Inhabited α] {callocOk : Bool} (h : r.pushBack x callocOk = .next r') :
    r.pushBack x true = .next r' := by
  cases callocOk with
  | true => exact h
  | false =>
    cases hfull : r.full with
    | false => simpa [pushBack, hfull] using h
    | true => simp [pushBack, enlargeBuffer, hfull, Outcome.assert] at h

theorem Ok.pushBack [Inhabited α] {callocOk : Bool} (h : Ok r) (hroom : r.size + 1 < 2 ^ 32)
    (hpush : r.pushBack x callocOk = .next r') : Ok r' ∧ r'.toList = r.toList ++ [x] := by
  obtain ⟨r₁, hr₁, hok, hlist⟩ := h.pushBack_eq hroom x
  rw [pushBack_eq_next hpush] at hr₁
  cases hr₁
  exact ⟨hok, hlist⟩

/-- The ring that holds as many elements as 32 bits can count loses all of
them with the next one. -/
theorem Ok.pushBack_overflow [Inhabited α] (h : Ok r) (hroom : r.size + 1 = 2 ^ 32) (x : α) :
    ∃ r', r.pushBack x true = .next r' ∧ r'.toList = [] := by
  have hcap : r.cap = 2 ^ 32 := by
    have := h.size_lt
    have := h.cap_le
    omega
  have hfull : r.full = true := (full_iff h).mpr (by rw [hcap, hroom])
  obtain ⟨a, ha⟩ : ∃ a, r.enlargeBuffer true =
      .next ⟨a, r.cap * 2, (r.cap * 2 / 2 - 1).toUInt32, 0⟩ :=
    ⟨_, by simp only [enlargeBuffer, hfull, Outcome.assert, if_true, Outcome.next_bind]; rfl⟩
  refine ⟨_, by simp only [SeqRing.pushBack, hfull, if_true, ha]; rfl, ?_⟩
  have hhead : ((r.cap * 2 / 2 - 1).toUInt32 + 1 - 0).toNat = 0 := by
    rw [hcap]
    decide
  simp only [toList, size, hhead, List.range_zero, List.map_nil]

/-! ## Erasing -/

/-- A position less than a round ahead. -/
theorem add_mod_eq {t : Nat} (ht : t < cap) (hn : n < cap) :
    (t + n) % cap = if t + n < cap then t + n else t + n - cap := by
  split
  · rename_i hlt
    exact Nat.mod_eq_of_lt hlt
  · rw [Nat.mod_eq_sub_mod (by omega), Nat.mod_eq_of_lt (by omega)]

/-- A ring from whose front `n` elements are gone. -/
theorem Ok.advance (h : Ok r) (hn : n ≤ r.size)
    (ha : ∀ j, j < r.size - n → a ((r.tail.toNat + n + j) % r.cap) = r.array ((r.tail.toNat + n + j) % r.cap)) :
    let r' : SeqRing α := { r with array := a, tail := r.tail + n.toUInt32 }
    Ok r' ∧ r'.toList = r.toList.drop n ∧ r'.size = r.size - n := by
  intro r'
  have hsize := h.size_lt
  have hcap := h.cap_le
  have hn32 : n.toUInt32.toNat = n := UInt32.toNat_ofNat_of_lt (show n < 2 ^ 32 by omega)
  have hsize' : r'.size = r.size - n := by
    have hhead := head_eq r
    have ht := r.tail.toNat_lt
    simp only [size, UInt32.toNat_sub, r', UInt32.toNat_add, hn32] at hhead hn ⊢
    omega
  have hok : Ok r' := ⟨h.pow, by rw [hsize']; change r.size - n < r.cap; omega⟩
  refine ⟨hok, ?_, hsize'⟩
  have htail : r'.tail.toNat % r.cap = (r.tail.toNat + n) % r.cap := by
    simp only [r', UInt32.toNat_add, hn32]
    exact Nat.mod_mod_of_dvd _ h.cap_dvd
  have hsplit : r.size = n + (r.size - n) := by omega
  rw [hok.toList_eq, h.toList_eq, hsize', hsplit, window_add, List.drop_left' length_window,
    Nat.add_sub_cancel_left]
  change window a r.cap r'.tail.toNat _ = _
  rw [← window_mod, htail, window_mod]
  exact window_congr fun j hj => ha j hj

/-- **Erase.** The first `n` elements are gone, and the checks pass. -/
theorem Ok.erase_eq [Inhabited α] (h : Ok r) (hn : n ≤ r.size) :
    ∃ r', r.erase r.frontPos (r.atPos n.toUInt32) = .next r' ∧ Ok r' ∧
      r'.toList = r.toList.drop n ∧ r'.size = r.size - n := by
  have hsize := h.size_lt
  have hat : r.atPos n.toUInt32 = (r.frontPos + n) % r.cap := by
    rw [h.atPos_eq (Nat.lt_of_lt_of_le (Nat.lt_of_le_of_lt hn hsize) h.cap_le), h.frontPos_eq,
      Nat.mod_add_mod]
  have ht : r.frontPos < r.cap := by
    rw [h.frontPos_eq]
    exact Nat.mod_lt _ h.cap_pos
  have hcell : ∀ j, j < r.size - n → (r.tail.toNat + n + j) % r.cap =
      if r.frontPos + (n + j) < r.cap then r.frontPos + (n + j)
      else r.frontPos + (n + j) - r.cap := by
    intro j hj
    rw [Nat.add_assoc, ← Nat.mod_add_mod, ← h.frontPos_eq, add_mod_eq ht (by omega)]
  rw [add_mod_eq ht (by omega)] at hat
  have hend : (mask r.cap (r.tail + n.toUInt32)).toNat = r.atPos n.toUInt32 := rfl
  by_cases hzero : n = 0
  · subst hzero
    rw [Nat.add_zero, if_pos ht] at hat
    refine ⟨r, ?_, h, by rw [List.drop_zero], by rw [Nat.sub_zero]⟩
    simp only [erase, hat, beq_self_eq_true, Outcome.assert, if_true, Outcome.next_bind,
      Outcome.pure_eq]
  · by_cases hwrap : r.frontPos + n < r.cap
    · -- the range ends before the end of the buffer
      rw [if_pos hwrap] at hat
      have hne : ¬ r.frontPos = r.frontPos + n := by omega
      have hle : r.frontPos + n ≤ r.cap := by omega
      have hgt : r.frontPos < r.frontPos + n := by omega
      have hadv := h.advance (a := memset r.array r.frontPos n) hn fun j hj => by
        rw [hcell j hj, memset, if_neg (by split <;> omega)]
      refine ⟨_, ?_, hadv⟩
      simp only [erase, hat, beq_self_eq_true, Outcome.assert, if_true, Outcome.next_bind,
        beq_iff_eq, hne, if_false, hle, decide_true, hgt, Nat.add_sub_cancel_left,
        hend, Outcome.pure_eq]
    · -- it goes round
      rw [if_neg hwrap] at hat
      have hne : ¬ r.frontPos = r.frontPos + n - r.cap := by omega
      have hle : r.frontPos + n - r.cap ≤ r.cap := by omega
      have hgt : ¬ r.frontPos < r.frontPos + n - r.cap := by omega
      have hlen : r.cap - r.frontPos + (r.frontPos + n - r.cap) = n := by omega
      have hadv := h.advance
        (a := memset (memset r.array r.frontPos (r.cap - r.frontPos)) 0 (r.frontPos + n - r.cap)) hn
        fun j hj => by
          rw [hcell j hj, memset, if_neg (by split <;> omega), memset, if_neg (by split <;> omega)]
      refine ⟨_, ?_, hadv⟩
      simp only [erase, hat, beq_self_eq_true, Outcome.assert, if_true, Outcome.next_bind,
        beq_iff_eq, hne, if_false, hle, decide_true, hgt, hlen, hend, Outcome.pure_eq]

/-! ## Copies and walks -/

/-- The first `n` elements, copied one by one. -/
def copyFront (r : SeqRing α) (n : Nat) : List α :=
  (List.range n).map fun i => r.array (r.atPos i.toUInt32)

theorem copyFront_eq (hn : n ≤ r.size) : r.copyFront n = r.toList.take n := by
  rw [copyFront, toList, ← List.map_take, List.take_range, Nat.min_eq_left hn]

/-- No element is where the next one will be. -/
theorem Ok.atPos_ne_endPos (h : Ok r) (hi : i < r.size) : r.atPos i.toUInt32 ≠ r.endPos := by
  have hsize := h.size_lt
  rw [h.atPos_eq (Nat.lt_of_lt_of_le (Nat.lt_trans hi hsize) h.cap_le), h.endPos_eq]
  exact add_mod_ne hi hsize _

theorem Ok.endPos_lt (h : Ok r) : r.endPos < r.cap := by
  rw [h.endPos_eq]
  exact Nat.mod_lt _ h.cap_pos

theorem Ok.frontPos_lt (h : Ok r) : r.frontPos < r.cap := by
  rw [h.frontPos_eq]
  exact Nat.mod_lt _ h.cap_pos

/-- The next position, unless it is past all that 32 bits can count. -/
theorem nextPos_eq (hi : i < r.cap) (hno : i + 1 < 2 ^ 32) :
    r.nextPos i = (i + 1) % r.cap := by
  have hi32 : i.toUInt32.toNat = i := UInt32.toNat_ofNat_of_lt (show i < 2 ^ 32 by omega)
  have hpos : (i.toUInt32 + 1).toNat = i + 1 := by
    rw [UInt32.toNat_add, hi32, UInt32.toNat_one, Nat.mod_eq_of_lt hno]
  simp only [nextPos, hpos, beq_iff_eq]
  split
  · rename_i heq
    rw [heq, Nat.mod_self]
  · rw [Nat.mod_eq_of_lt (by omega)]

/-- What a walk to the end has still to visit. -/
def ahead (r : SeqRing α) (it stop : Nat) : List α :=
  window r.array r.cap it ((stop + r.cap - it) % r.cap)

@[simp] theorem ahead_self (r : SeqRing α) (it : Nat) : r.ahead it it = [] := by
  rw [ahead, Nat.add_sub_cancel_left, Nat.mod_self]
  rfl

/-- The walk from the front visits everything. -/
theorem Ok.ahead_front (h : Ok r) : r.ahead r.frontPos r.endPos = r.toList := by
  have hdist : (r.endPos + r.cap - r.frontPos) % r.cap = r.size := by
    have hsize := h.size_lt
    have hlt := h.frontPos_lt
    have hend : r.endPos = (r.frontPos + r.size) % r.cap := by
      rw [h.endPos_eq, h.frontPos_eq, Nat.mod_add_mod]
    rw [hend, add_mod_eq hlt hsize]
    split
    · rw [show r.frontPos + r.size + r.cap - r.frontPos = r.size + r.cap by omega,
        Nat.add_mod_right, Nat.mod_eq_of_lt hsize]
    · rw [Nat.mod_eq_of_lt (by omega)]
      omega
  rw [ahead, hdist, h.toList_eq, h.frontPos_eq, window_mod]

/-- **Walk.** One step visits one element. -/
theorem ahead_next {it stop : Nat} (hit : it < r.cap) (hstop : stop < r.cap)
    (hne : it ≠ stop) (hno : it + 1 < 2 ^ 32) :
    r.ahead it stop = r.array it :: r.ahead (r.nextPos it) stop := by
  have hdist : (stop + r.cap - it) % r.cap = (stop + r.cap - (it + 1) % r.cap) % r.cap + 1 := by
    by_cases hlast : it + 1 = r.cap
    · rw [hlast, Nat.mod_self, Nat.sub_zero, Nat.add_mod_right, Nat.mod_eq_of_lt hstop,
        Nat.mod_eq_of_lt (by omega)]
      omega
    · rw [Nat.mod_eq_of_lt (by omega : it + 1 < r.cap)]
      by_cases hlt : it < stop
      · rw [show stop + r.cap - it = (stop - it) + r.cap by omega,
          show stop + r.cap - (it + 1) = (stop - (it + 1)) + r.cap by omega, Nat.add_mod_right,
          Nat.add_mod_right, Nat.mod_eq_of_lt (by omega), Nat.mod_eq_of_lt (by omega)]
        omega
      · rw [Nat.mod_eq_of_lt (by omega), Nat.mod_eq_of_lt (by omega)]
        omega
  rw [ahead, ahead, nextPos_eq hit hno, hdist, window_succ, window_mod, Nat.mod_eq_of_lt hit]

end SeqRing

end FlexRic
