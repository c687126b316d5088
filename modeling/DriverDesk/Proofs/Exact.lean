import Mathlib
import DriverDesk.Arith

/-!
# Exact arithmetic

The real numbers as numbers to lay out panels with: nothing is rounded, and angles have
their true tangents. What a panel means is said of this reading.
-/

namespace DriverDesk

open Classical in
/-- Panels laid out without rounding. -/
noncomputable instance : Arith ℝ where
  beq x y := decide (x = y)
  decLt := inferInstance
  decLe := inferInstance
  ofInt n := n
  ofDecimal d := (if d.negative then -1 else 1) * d.coefficient * 10 ^ d.exponent
  whole x := min ⌊x⌋₊ (twoTo 64 - 1)
  mulAdd a b c := a * b + c
  tan := Real.tan
  atan := Real.arctan
  sin := Real.sin
  cos := Real.cos
  pi := Real.pi

namespace Arith

theorem beq_iff_eq {x y : ℝ} : (x == y) = true ↔ x = y := decide_eq_true_iff

end Arith

end DriverDesk
