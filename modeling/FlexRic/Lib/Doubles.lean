import Mathlib.Logic.Basic

/-!
# FlexRic.Lib.Doubles

What comparing a `double` with itself gives.

* `beq_self`: `x == x` fails of a NaN and of nothing else.
* `apart`: `fabs(x - y) > 0.0001f`.  `apart_self`: it never holds of a number and
  itself, also where the difference is a NaN.
-/

namespace FlexRic

open Float.Model

namespace Doubles

/-- A double that is a number compares as equal with itself. -/
theorem compare_self (a : UnpackedFloat) (h : a.isNaN = false) : a.compare a = some .eq := by
  cases a with
  | notANumber => cases h
  | infinity s => cases s <;> rfl
  | zero s => rfl
  | finite s m e hm =>
    have hself : (compare e e).then (compare m m) = .eq := by simp
    cases s with
    | positive => exact congrArg some hself
    | negative => exact congrArg (fun o : Ordering => some o.swap) hself

/-- **A number is equal to itself**, and a NaN to nothing. -/
theorem beq_self (x : Float) : (x == x) = !x.isNaN := by
  change (x.toModel.unpack.compare x.toModel.unpack == some .eq) = !x.toModel.unpack.isNaN
  generalize x.toModel.unpack = a
  cases h : a.isNaN with
  | false => rw [compare_self _ h, beq_self_eq_true, Bool.not_false]
  | true =>
    cases a with
    | notANumber => rfl
    | infinity s => cases h
    | zero s => cases h
    | finite s m e hm => cases h

/-- The difference of a double from itself is a zero or no number. -/
theorem sub_self_unpacked (a : UnpackedFloat) :
    a.sub Format.binary64 a = .notANumber ∨ a.sub Format.binary64 a = .zero .positive := by
  cases a with
  | notANumber => exact .inl rfl
  | infinity s => cases s <;> exact .inl rfl
  | zero s => cases s <;> exact .inr rfl
  | finite s m e hm =>
    refine .inr ?_
    change UnpackedFloat.normalize _ (_ - _) _ .positive = _
    rw [Int.sub_self]
    rfl

/-- The `double` that `0.0001f` is. -/
def tenThousandth : Float := .ofBits 0x3F1A36E2E0000000

/-- `fabs(a - b) > 0.0001f`. -/
def apart (a b : Float) : Bool := tenThousandth < (a - b).abs

/-- **A number is not apart from itself**: the difference is 0 or a NaN. -/
theorem apart_self (x : Float) : apart x x = false := by
  have hsub : x - x = .ofModel (pack (x.toModel.unpack.sub Format.binary64 x.toModel.unpack)) :=
    rfl
  rw [apart, hsub]
  rcases sub_self_unpacked x.toModel.unpack with h | h
  · rw [h]
    decide
  · rw [h]
    decide

end Doubles

end FlexRic
