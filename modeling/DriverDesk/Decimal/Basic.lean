import DriverDesk.Decimal.Power

/-!
# Decimal numbers

`Decimal` is a number as written: a sign, the digits as one natural number, and
the power of ten of the last digit. `toFloat` is the nearest double. `Binary` is
the exact value of a finite double.
-/

namespace DriverDesk

/-- The number `± coefficient · 10 ^ exponent`; the sign of zero is kept. -/
structure Decimal where
  negative : Bool
  coefficient : Nat
  exponent : Int
  deriving DecidableEq, Repr, Inhabited

/-- The number `± mantissa · 2 ^ exponent`. -/
structure Binary where
  negative : Bool
  mantissa : Nat
  exponent : Int
  deriving DecidableEq, Repr, Inhabited

namespace Decimal

/-- Powers of two around the magnitude of a number that is not zero: it is at least
`2 ^ low` and less than `2 ^ high`, since ten lies between `2 ^ 3` and `2 ^ 4`. -/
def binaryBounds (d : Decimal) : Int × Int :=
  let size : Int := Nat.log2 d.coefficient
  if 0 ≤ d.exponent then (size + 3 * d.exponent, size + 1 + 4 * d.exponent)
  else (size + 4 * d.exponent, size + 1 + 3 * d.exponent)

/-- The double nearest to the magnitude. A magnitude that is far beyond the doubles
is not computed. -/
def magnitude (d : Decimal) : Float :=
  if d.coefficient = 0 then 0.0
  else if 1024 ≤ d.binaryBounds.1 then 1.0 / 0.0
  else if d.binaryBounds.2 ≤ -1075 then 0.0
  else OfScientific.ofScientific d.coefficient (decide (d.exponent < 0)) d.exponent.natAbs

/-- The double nearest to a decimal number. -/
def toFloat (d : Decimal) : Float := if d.negative then -d.magnitude else d.magnitude

end Decimal

namespace Binary

/-- The exact value of a finite double. -/
def ofFloat? (x : Float) : Option Binary :=
  let bits : Nat := x.toBits.toNat
  let fraction : Nat := bits % twoTo 52
  let field : Nat := bits / twoTo 52 % twoTo 11
  let negative := bits / twoTo 63 == 1
  if field = 2047 then none
  else if field = 0 then some ⟨negative, fraction, -1074⟩
  else some ⟨negative, twoTo 52 + fraction, (field : Int) - 1075⟩

/-- The nearest integer; a half goes away from zero. -/
def round (b : Binary) : Int :=
  let n : Nat :=
    if b.exponent ≥ 0 then b.mantissa * twoTo b.exponent.toNat
    else
      let unit := twoTo (-b.exponent).toNat
      (2 * b.mantissa + unit) / (2 * unit)
  if b.negative then -n else n

end Binary

end DriverDesk
