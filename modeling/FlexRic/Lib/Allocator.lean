import Mathlib.Data.List.Basic

/-!
# FlexRic.Lib.Allocator

An allocator as the explicit set of its live objects, and the record of what a
program did wrong with them.

* `malloc`, `free` and `access` keep going after a fault, which `faults` has from then on;
* `Holds` says that each object a program knows of is live and known in one place, with a rule
  for each of the three.
-/

namespace FlexRic

/-- What a pointer of a program can point to. -/
inductive Ptr where
  | null
  /-- an object the allocator gave -/
  | heap (n : Nat)
  /-- a local variable of a call -/
  | stack (n : Nat)
  /-- a member of an object -/
  | inside (n : Nat)
  deriving DecidableEq

/-- The pointer a variable holds. -/
def Ptr.of : Option Nat → Ptr
  | none => .null
  | some n => .heap n

inductive Fault where
  /-- neither live nor a variable of a call in progress -/
  | access (p : Ptr)
  /-- not a live object of the allocator -/
  | free (p : Ptr)
  deriving DecidableEq

structure Memory where
  live : List Nat
  next : Nat
  /-- the local variable in scope -/
  scope : Option Nat
  faults : List Fault
  deriving DecidableEq

namespace Memory

/-- No object yet. -/
def empty : Memory := { live := [], next := 0, scope := none, faults := [] }

/-- The object it gives is `m.next`. -/
def malloc (m : Memory) : Memory := { m with live := m.next :: m.live, next := m.next + 1 }

/-- `n` objects, from `m.next` on. -/
def mallocs : Nat → Memory → Memory
  | 0, m => m
  | n + 1, m => mallocs n m.malloc

/-- `malloc` where there is something to allocate for. -/
def mallocIf (b : Bool) (m : Memory) : Memory :=
  if b then m.malloc else { m with next := m.next + 1 }

def free (m : Memory) : Ptr → Memory
  | .null => m
  | .heap n =>
    if n ∈ m.live then { m with live := m.live.filter (· != n) }
    else { m with faults := m.faults ++ [.free (.heap n)] }
  | .stack n =>
    { m with
      scope := if m.scope = some n then none else m.scope
      faults := m.faults ++ [.free (.stack n)] }
  | .inside n => { m with faults := m.faults ++ [.free (.inside n)] }

/-- The pointer can be read and written through. -/
def accessible (m : Memory) : Ptr → Bool
  | .null => false
  | .heap n => decide (n ∈ m.live)
  | .stack n => m.scope == some n
  | .inside n => decide (n ∈ m.live)

/-- A field is read or written through the pointer. -/
def access (m : Memory) (p : Ptr) : Memory :=
  if m.accessible p then m else { m with faults := m.faults ++ [.access p] }

variable {m m' : Memory} {n k : Nat} {b : Bool}

/-- An allocation is no fault. -/
@[simp] theorem faults_malloc : m.malloc.faults = m.faults := rfl

@[simp] theorem scope_malloc : m.malloc.scope = m.scope := rfl

@[simp] theorem next_malloc : m.malloc.next = m.next + 1 := rfl

/-- An allocation adds one object, which is new. -/
@[simp] theorem mem_malloc : k ∈ m.malloc.live ↔ k = m.next ∨ k ∈ m.live := List.mem_cons

@[simp] theorem next_mallocIf : (m.mallocIf b).next = m.next + 1 := by
  cases b <;> rfl

@[simp] theorem faults_mallocIf : (m.mallocIf b).faults = m.faults := by
  cases b <;> rfl

/-- An allocation that may fail adds one object or none. -/
@[simp] theorem mem_mallocIf : k ∈ (m.mallocIf b).live ↔ (b = true ∧ k = m.next) ∨ k ∈ m.live := by
  cases b <;> simp [mallocIf]

@[simp] theorem next_mallocs : (m.mallocs n).next = m.next + n := by
  induction n generalizing m with
  | zero => rfl
  | succ n ih =>
    rw [mallocs, ih, next_malloc]
    omega

@[simp] theorem faults_mallocs : (m.mallocs n).faults = m.faults := by
  induction n generalizing m with
  | zero => rfl
  | succ n ih => rw [mallocs, ih, faults_malloc]

/-- Several allocations add as many objects as are asked for. -/
@[simp] theorem mem_mallocs :
    k ∈ (m.mallocs n).live ↔ (m.next ≤ k ∧ k < m.next + n) ∨ k ∈ m.live := by
  induction n generalizing m with
  | zero =>
    have hnone : ¬(m.next ≤ k ∧ k < m.next + 0) := by omega
    rw [mallocs, or_iff_right hnone]
  | succ n ih =>
    have hsplit : (m.next + 1 ≤ k ∧ k < m.next + 1 + n) ∨ k = m.next ↔
        m.next ≤ k ∧ k < m.next + (n + 1) := by omega
    rw [mallocs, ih, mem_malloc, next_malloc, ← or_assoc, hsplit]

/-- **A release takes the object away.** -/
theorem mem_free : k ∈ (m.free (.heap n)).live ↔ k ∈ m.live ∧ k ≠ n := by
  by_cases hn : n ∈ m.live
  · rw [free, if_pos hn]
    simp
  · rw [free, if_neg hn]
    constructor
    · intro hk
      exact ⟨hk, fun heq => hn (heq ▸ hk)⟩
    · exact And.left

/-- The release of a live object is no fault. -/
theorem faults_free (hn : n ∈ m.live) : (m.free (.heap n)).faults = m.faults := by
  rw [free, if_pos hn]

@[simp] theorem next_free {p : Ptr} : (m.free p).next = m.next := by
  cases p <;> simp only [free]
  split <;> rfl

/-- A live object can be read and written. -/
theorem access_live (hn : n ∈ m.live) : m.access (.heap n) = m :=
  if_pos (decide_eq_true hn)

/-! ## Faults stay -/

/-! ## Objects that are known in one place -/

variable {η : Type} {held held' : η → Option Nat} {x : η}

/-- Each object that is held is live, and held in one place. -/
structure Holds (m : Memory) (held : η → Option Nat) : Prop where
  live : ∀ y k, held y = some k → k ∈ m.live
  one : ∀ y z k, held y = some k → held z = some k → y = z
  fresh : ∀ k ∈ m.live, k < m.next

/-- What is held was allocated before. -/
theorem Holds.lt_next (h : m.Holds held) (hx : held x = some n) : n < m.next :=
  h.fresh n (h.live x n hx)

/-- Less is held. -/
theorem Holds.mono (h : m.Holds held) (hsub : ∀ y k, held' y = some k → held y = some k) :
    m.Holds held' where
  live := fun y k hy => h.live y k (hsub y k hy)
  one := fun y z k hy hz => h.one y z k (hsub y k hy) (hsub z k hz)
  fresh := h.fresh

/-- What is freed is held no more. -/
theorem Holds.free (h : m.Holds held)
    (hsub : ∀ y k, held' y = some k → held y = some k ∧ k ≠ n) : (m.free (.heap n)).Holds held' where
  live := fun y k hy => mem_free.mpr ⟨h.live y k (hsub y k hy).1, (hsub y k hy).2⟩
  one := fun y z k hy hz => h.one y z k (hsub y k hy).1 (hsub z k hz).1
  fresh := fun k hk => by
    rw [next_free]
    exact h.fresh k (mem_free.mp hk).1

/-- What is held in one place is freed, and not held there any more. -/
theorem Holds.release (h : m.Holds held) (hx : held x = some n)
    (hsub : ∀ y k, held' y = some k → held y = some k ∧ y ≠ x) :
    (m.free (.heap n)).Holds held' :=
  h.free fun y k hy => ⟨(hsub y k hy).1, fun heq =>
    (hsub y k hy).2 (h.one y x k (hsub y k hy).1 (heq ▸ hx))⟩

/-- The variable in scope does not matter. -/
theorem Holds.scope {v : Option Nat} (h : m.Holds held) : { m with scope := v }.Holds held :=
  ⟨h.live, h.one, h.fresh⟩

/-- Of the objects there were, `m'` has the same ones live. -/
structure Grows (m m' : Memory) : Prop where
  old : ∀ k, k < m.next → (k ∈ m'.live ↔ k ∈ m.live)
  next : m.next ≤ m'.next
  fresh : ∀ k ∈ m'.live, k < m'.next
  faults : m'.faults = m.faults

/-- Nothing happened yet. -/
theorem Holds.grows (h : m.Holds held) : m.Grows m :=
  ⟨fun _ _ => Iff.rfl, Nat.le_refl _, h.fresh, rfl⟩

/-- Memory grows by an allocation. -/
theorem Grows.malloc (h : m.Grows m') : m.Grows m'.malloc where
  old := fun k hk => by
    have hne : k ≠ m'.next := Nat.ne_of_lt (Nat.lt_of_lt_of_le hk h.next)
    rw [mem_malloc, or_iff_right hne]
    exact h.old k hk
  next := Nat.le_succ_of_le h.next
  fresh := fun k hk => by
    obtain rfl | hk := mem_malloc.mp hk
    · exact Nat.lt_succ_self _
    · exact Nat.lt_succ_of_lt (h.fresh k hk)
  faults := h.faults

/-- Memory grows by an allocation that may not be made. -/
theorem Grows.mallocIf (h : m.Grows m') : m.Grows (m'.mallocIf b) := by
  cases b with
  | true => exact h.malloc
  | false =>
    exact ⟨h.old, Nat.le_succ_of_le h.next, fun k hk => Nat.lt_succ_of_lt (h.fresh k hk), h.faults⟩

/-- Memory grows by several allocations. -/
theorem Grows.mallocs (h : m.Grows m') : m.Grows (m'.mallocs n) := by
  induction n generalizing m' with
  | zero => exact h
  | succ n ih => exact ih h.malloc

/-- Memory has grown as before when a scope is entered or left. -/
theorem Grows.scope {v : Option Nat} (h : m.Grows m') : m.Grows { m' with scope := v } :=
  ⟨h.old, h.next, h.fresh, h.faults⟩

/-- An object that was not there is freed. -/
theorem Grows.free (h : m.Grows m') (hn : m.next ≤ n) (hlive : n ∈ m'.live) :
    m.Grows (m'.free (.heap n)) where
  old := fun k hk => by
    rw [mem_free, and_iff_left (by omega)]
    exact h.old k hk
  next := by
    rw [next_free]
    exact h.next
  fresh := fun k hk => by
    rw [next_free]
    exact h.fresh k (mem_free.mp hk).1
  faults := (faults_free hlive).trans h.faults

/-- The release of what was allocated since leaves memory grown. -/
theorem Grows.freeOf {o : Option Nat} (h : m.Grows m')
    (ho : ∀ k, o = some k → m.next ≤ k ∧ k ∈ m'.live) : m.Grows (m'.free (.of o)) := by
  cases o with
  | none => exact h
  | some k => exact h.free (ho k rfl).1 (ho k rfl).2

/-- Objects were added, and what else is held is one of them. -/
theorem Holds.extend (h : m.Holds held) (hm : m.Grows m')
    (hnew : ∀ y k, held' y = some k → held y = some k ∨
      (m.next ≤ k ∧ k ∈ m'.live ∧ ∀ z, held' z = some k → z = y)) : m'.Holds held' where
  live := fun y k hy => (hnew y k hy).elim
    (fun hold => (hm.old k (h.lt_next hold)).mpr (h.live y k hold)) fun h => h.2.1
  one := fun y z k hy hz => by
    obtain hy' | ⟨-, -, hy'⟩ := hnew y k hy
    · obtain hz' | ⟨-, -, hz'⟩ := hnew z k hz
      · exact h.one y z k hy' hz'
      · exact hz' y hy
    · exact (hy' z hz).symm
  fresh := hm.fresh

/-- **What was held before is held after.** -/
theorem Holds.of_grows (h : m.Holds held) (hm : m.Grows m') : m'.Holds held :=
  h.extend hm fun _ _ hy => .inl hy

/-- A new object takes the place of `x`. -/
theorem Holds.malloc (h : m.Holds held)
    (hnew : ∀ y k, held' y = some k → (held y = some k ∧ y ≠ x) ∨ (y = x ∧ k = m.next)) :
    m.malloc.Holds held' := by
  refine h.extend h.grows.malloc fun y k hy => ?_
  obtain ⟨hy, -⟩ | ⟨rfl, rfl⟩ := hnew y k hy
  · exact .inl hy
  · refine .inr ⟨Nat.le_refl _, mem_malloc.mpr (.inl rfl), fun z hz => ?_⟩
    obtain ⟨hz, -⟩ | ⟨rfl, -⟩ := hnew z m.next hz
    · exact absurd (h.lt_next hz) (Nat.lt_irrefl _)
    · rfl

end Memory

end FlexRic
