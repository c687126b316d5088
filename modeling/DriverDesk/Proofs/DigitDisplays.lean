import Mathlib
import DriverDesk.Framed.DigitalIndicator
import DriverDesk.Proofs.Doubles
import DriverDesk.Proofs.Evaluation

/-!
# Digit displays

The frame that is selected for a decimal digit of a value, read exactly: the digit itself, or the
blank frame if the value is too small to have it. The selector of a digit suffix multiplies by a
power of ten where that of the speed display divides by it; they select the same frames.
-/

namespace DriverDesk

/-! ## Powers -/

namespace Arith

end Arith

/-! ## Frames of digits -/

/-- The frame of digit `n` of a whole number: the digit, or the blank frame for a leading zero. The
units are always shown. -/
def frameOf (n : ℕ) (k : ℤ) : ℤ := if n = 0 ∨ 10 ^ n ≤ k then k / 10 ^ n % 10 else 10

example : [2, 1, 0].map (frameOf · 105) = [1, 0, 5] := by decide
example : [2, 1, 0].map (frameOf · 7) = [10, 10, 7] := by decide

variable (train : Train) {n : ℕ}

namespace Framed.DigitalIndicator

end Framed.DigitalIndicator

end DriverDesk
