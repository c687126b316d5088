import DriverDesk.Decimal.Basic

/-!
# Shortest decimals

The decimal number with the fewest digits among those that round to a given
double, and of these the one nearest to it; of two equally near the larger. For
each digit count the two neighbours of the exact value on that decimal grid are
tried against the interval of numbers that round to the double.
-/

namespace DriverDesk.Decimal

/-- The interval of numbers that round to a double, and the double itself, as
numerators over one denominator. -/
structure Rounding where
  low : Nat
  value : Nat
  high : Nat
  den : Nat
  /-- Whether the ends of the interval round to the double. -/
  closed : Bool

/-- The rounding interval of `mantissa · 2 ^ exponent`. Below a power of two the
doubles lie half as far apart. -/
def rounding (mantissa : Nat) (exponent : Int) : Rounding :=
  let up := twoTo (exponent - 2).toNat
  let gap := if mantissa = twoTo 52 ∧ exponent > -1074 then 1 else 2
  { low := (4 * mantissa - gap) * up
    value := 4 * mantissa * up
    high := (4 * mantissa + 2) * up
    den := twoTo (2 - exponent).toNat
    closed := mantissa % 2 == 0 }

/-- The number of decimal digits of a positive number. -/
def digitCount (n : Nat) : Nat := (Nat.toDigits 10 n).length

/-- The least `k` from `k` on with `den ≤ num · 10 ^ k`, looking at most `fuel`
steps ahead. -/
def firstPower (num den : Nat) : Nat → Nat → Nat
  | k, 0 => k
  | k, fuel + 1 => if den ≤ num * tenTo k then k else firstPower num den (k + 1) fuel

/-- The power of ten of the leading digit of `num / den`. -/
def leadingPower (num den : Nat) : Int :=
  if den ≤ num then (digitCount (num / den) : Int) - 1
  else -(firstPower num den 1 (digitCount den) : Int)

/-- The multiple of `10 ^ power` that is nearest to the value and lies in the
interval, if one of the two neighbours does. -/
def onGrid? (r : Rounding) (power : Int) : Option Nat :=
  let scale := tenTo (-power).toNat
  let unit := r.den * tenTo power.toNat
  let below := r.value * scale / unit
  let fits (least greatest : Nat) : Bool := if r.closed then least ≤ greatest else least < greatest
  let belowFits := fits (r.low * scale) (below * unit)
  let aboveFits := fits ((below + 1) * unit) (r.high * scale)
  if belowFits && aboveFits then
    some (if 2 * (r.value * scale) < (2 * below + 1) * unit then below else below + 1)
  else if belowFits then some below
  else if aboveFits then some (below + 1)
  else none

/-- The first grid from `digits` digits on that meets the interval. -/
def firstGrid (r : Rounding) (leading : Int) : Nat → Nat → Nat × Int
  | _, 0 => (0, 0)
  | digits, fuel + 1 =>
    let power := leading - (digits : Int) + 1
    match onGrid? r power with
    | some n => (n, power)
    | none => firstGrid r leading (digits + 1) fuel

/-- Move trailing zeros of the coefficient into the exponent. -/
def stripZeros : Nat → Nat × Int → Nat × Int
  | 0, p => p
  | fuel + 1, (n, e) => if n ≠ 0 ∧ n % 10 = 0 then stripZeros fuel (n / 10, e + 1) else (n, e)

/-- The shortest decimal that rounds to `b`; seventeen digits always suffice. -/
def shortest (b : Binary) : Decimal :=
  if b.mantissa = 0 then ⟨b.negative, 0, 0⟩
  else
    let r := rounding b.mantissa b.exponent
    let p := stripZeros 20 (firstGrid r (leadingPower r.value r.den) 1 20)
    ⟨b.negative, p.1, p.2⟩

end DriverDesk.Decimal
