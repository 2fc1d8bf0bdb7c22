import FlexRic.Lib.Machine
import Mathlib.Logic.Function.Basic

/-!
# FlexRic.Lib.Mutex

Mutexes of threads, ordinary and recursive ones.

`Guards m inside` says that a mutex is what it is there for: it is held,
once, by whoever is inside the section it protects, and otherwise free.

* `Guards.lock`, `Guards.lockRecursive`, `Guards.unlock`: entering and
  leaving the section keep it;
* `Guards.unique`: nobody is inside with anybody else;
* `Guards.lock_blocked`: who has to wait, and for whom.
-/

namespace FlexRic

/-- A mutex: free, or held by a thread that has locked it `depth + 1` times. -/
inductive Mutex where
  | free
  | held (thread depth : Nat)
  deriving DecidableEq, Repr

namespace Mutex

/-- `pthread_mutex_lock`: the owner waits like everybody else. -/
def lock (t : Nat) : Mutex → Outcome Mutex
  | free => .next (held t 0)
  | held _ _ => .blocked

/-- `pthread_mutex_lock` on a recursive mutex. -/
def lockRecursive (t : Nat) : Mutex → Outcome Mutex
  | free => .next (held t 0)
  | held u d => if u = t then .next (held u (d + 1)) else .blocked

/-- `pthread_mutex_unlock` by the thread `t`. -/
def unlock (t : Nat) : Mutex → Mutex
  | free => free
  | held u d =>
    if u = t then
      match d with
      | 0 => free
      | d + 1 => held u d
    else held u d

variable {m m' : Mutex} {t u d : Nat} {inside : Nat → Bool}

/-- A free mutex is taken. -/
theorem lock_eq_next : lock t m = .next m' ↔ m = free ∧ m' = held t 0 := by
  cases m <;> simp [lock, eq_comm]

/-- A held mutex is waited for. -/
theorem lock_eq_blocked : lock t m = .blocked ↔ ∃ u d, m = held u d := by
  cases m <;> simp [lock]

/-! ## The section a mutex protects -/

/-- The mutex is held by whoever is inside, and once. -/
def Guards (m : Mutex) (inside : Nat → Bool) : Prop :=
  ∀ t d, m = held t d ↔ d = 0 ∧ inside t = true

/-- A free mutex has nobody inside. -/
theorem guards_free : Guards free fun _ => false := by
  simp [Guards]

/-- Who is inside holds it. -/
theorem Guards.eq_held (h : Guards m inside) (ht : inside t = true) : m = held t 0 :=
  (h t 0).mpr ⟨rfl, ht⟩

/-- **One thread at a time** is inside. -/
theorem Guards.unique (h : Guards m inside) (ht : inside t = true) (hu : inside u = true) : t = u := by
  have heq := (h.eq_held ht).symm.trans (h.eq_held hu)
  injection heq

/-- Nobody is inside while the mutex is free. -/
theorem Guards.outside_of_free (h : Guards free inside) (t : Nat) : inside t = false := by
  cases ht : inside t with
  | false => rfl
  | true => cases h.eq_held ht

/-- The mutex is free when nobody is inside. -/
theorem Guards.free_of_outside (h : Guards m inside) (hno : ∀ t, inside t = false) : m = free := by
  cases m with
  | free => rfl
  | held t d => exact absurd ((h t d).mp rfl).2 (by simp [hno t])

/-- Entering the section. -/
theorem Guards.lock (h : Guards m inside) (hl : Mutex.lock t m = .next m') :
    Guards m' (Function.update inside t true) := by
  obtain ⟨rfl, rfl⟩ := lock_eq_next.mp hl
  intro u d
  by_cases hu : u = t
  · subst hu
    simp [eq_comm]
  · rw [Function.update_of_ne hu, h.outside_of_free u]
    simp [Ne.symm hu]

/-- Entering the section of a recursive mutex from outside. -/
theorem Guards.lockRecursive (h : Guards m inside) (ht : inside t = false)
    (hl : Mutex.lockRecursive t m = .next m') : Guards m' (Function.update inside t true) := by
  cases m with
  | free => exact h.lock (t := t) hl
  | held u d =>
    simp only [Mutex.lockRecursive] at hl
    split at hl
    · rename_i hut
      have hin := ((h u d).mp rfl).2
      rw [hut, ht] at hin
      cases hin
    · cases hl

/-- Leaving the section. -/
theorem Guards.unlock (h : Guards m inside) (ht : inside t = true) :
    Guards (Mutex.unlock t m) (Function.update inside t false) := by
  rw [h.eq_held ht]
  intro u d
  simp only [Mutex.unlock, if_true, reduceCtorEq, false_iff, not_and]
  rintro rfl
  by_cases hu : u = t
  · simp [hu]
  · rw [Function.update_of_ne hu]
    exact fun hin => hu (h.unique hin ht)

/-- Being where one was keeps the mutex as it is. -/
theorem Guards.update_self {b : Bool} (h : Guards m inside) (ht : inside t = b) :
    Guards m (Function.update inside t b) := by
  rw [← ht, Function.update_eq_self]
  exact h

/-- Whoever has to wait waits for somebody inside. -/
theorem Guards.lock_blocked (h : Guards m inside) :
    Mutex.lock t m = .blocked ↔ ∃ u, inside u = true := by
  rw [lock_eq_blocked]
  constructor
  · rintro ⟨u, d, rfl⟩
    exact ⟨u, ((h u d).mp rfl).2⟩
  · rintro ⟨u, hu⟩
    exact ⟨u, 0, h.eq_held hu⟩

end Mutex

end FlexRic
