import FlexRic.Lib.Machine
import Mathlib.Logic.Function.Basic
import Mathlib.Tactic.Ring

/-!
# FlexRic.Lib.Ints

C's `int` and `size_t`, and arrays of `int`.

* `toInt` and `toSizeT` are the values a number gets in either type; a number below
  `2 ^ 31` goes through both as it is.
* `Ints` is an array with its size: an access outside of it ends the run.
-/

namespace FlexRic

/-- The value a number has as an `int`. -/
def toInt (z : Int) : Int := Int.bmod z (2 ^ 32)

/-- The value a number has as a `size_t`. -/
def toSizeT (z : Int) : Nat := (z % 2 ^ 64).toNat

/-- What fits is not changed by the conversion to an `int`. -/
theorem toInt_of_lt {n : Nat} (h : n < 2 ^ 31) : toInt n = n := by
  apply Int.bmod_eq_of_le
  · omega
  · omega

/-- What fits is not changed by the conversion to a `size_t`. -/
theorem toSizeT_of_lt {n : Nat} (h : n < 2 ^ 31) : toSizeT n = n := by
  unfold toSizeT
  omega

/-- An array of `int`. -/
structure Ints where
  size : Nat
  get : Nat → Int

namespace Ints

/-- `calloc`. -/
def calloc (size : Nat) : Ints := ⟨size, fun _ => 0⟩

/-- `a[k]`. -/
def read (a : Ints) (k : Int) : Outcome Int :=
  if 0 ≤ k ∧ k < a.size then .next (a.get k.toNat) else .abort "read outside of an array"

/-- What `a[k] = v` makes of the array. -/
def put (a : Ints) (k : Nat) (v : Int) : Ints := { a with get := Function.update a.get k v }

/-- `a[k] = v`. -/
def write (a : Ints) (k : Int) (v : Int) : Outcome Ints :=
  if 0 ≤ k ∧ k < a.size then .next (a.put k.toNat v) else .abort "written outside of an array"

variable {a : Ints} {k l : Nat} {v : Int}

@[simp] theorem size_put : (a.put k v).size = a.size := rfl

/-- **An array after an assignment has the new value** where it was put. -/
@[simp] theorem get_put_self : (a.put k v).get k = v := Function.update_self ..

/-- An array after an assignment has the old values elsewhere. -/
theorem get_put_of_ne (h : l ≠ k) : (a.put k v).get l = a.get l := Function.update_of_ne h ..

/-- A read inside of the array succeeds. -/
theorem read_of_lt (h : k < a.size) : a.read k = .next (a.get k) :=
  if_pos ⟨Int.natCast_nonneg k, Int.ofNat_lt.2 h⟩

/-- A write inside of the array succeeds. -/
theorem write_of_lt (h : k < a.size) : a.write k v = .next (a.put k v) :=
  if_pos ⟨Int.natCast_nonneg k, Int.ofNat_lt.2 h⟩

/-- An access outside of the array. -/
theorem read_aborts {z : Int} (h : z < 0 ∨ a.size ≤ z) : (a.read z).Aborts := by
  have hout : ¬ (0 ≤ z ∧ z < a.size) := by omega
  rw [read, if_neg hout]
  exact Outcome.abort_aborts

/-- A write outside of the array aborts. -/
theorem write_aborts {z : Int} (h : z < 0 ∨ a.size ≤ z) : (a.write z v).Aborts := by
  have hout : ¬ (0 ≤ z ∧ z < a.size) := by omega
  rw [write, if_neg hout]
  exact Outcome.abort_aborts

end Ints

end FlexRic
