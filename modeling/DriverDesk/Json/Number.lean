import DriverDesk.Decimal.Numeral
import DriverDesk.Json.Basic

/-!
# Numbers in JSON

A number without point and exponent is whole when it fits 64 bits. Any other is
computed in double arithmetic: as many of its first digits as fit 64 bits are
taken as one natural number, which is then scaled by a power of ten. The result
may be a neighbour of the nearest double, and a number that becomes infinite on
the way cannot be read.
-/

namespace DriverDesk.Json.Number

/-- Continue a number of 64 bits with digits as long as it fits; the digits that
are left over. -/
def gather (n : Nat) : List Char → Nat × List Char
  | [] => (n, [])
  | c :: r =>
    let next := 10 * n + (c.toNat - '0'.toNat)
    if next < twoTo 64 then gather next r else (n, c :: r)

/-- The greatest power of ten a double is scaled by at once. -/
def greatestPower : Nat := 308

/-- The double nearest to a power of ten. -/
def powerOfTen (n : Nat) : Float := Decimal.toFloat ⟨false, 1, n⟩

/-- Divide by a power of ten, as long as something is left. -/
def shrink (x : Float) (power : Nat) : Float :=
  if power ≤ greatestPower then x / powerOfTen power
  else if x == 0.0 then x
  else shrink (x / powerOfTen greatestPower) (power - greatestPower)
termination_by power
decreasing_by
  have : 0 < greatestPower := by decide
  omega

/-- Multiply by a power of ten, unless the result is infinite. -/
def grow? (x : Float) (power : Nat) : Option Float :=
  if x == 0.0 then some x
  else if greatestPower < power then none
  else
    let y := x * powerOfTen power
    if y.isInf then none else some y

/-- A natural number of 64 bits scaled by a power of ten. -/
def scaled? (n : Nat) (power : Int) : Option Float :=
  if power < 0 then some (shrink (Float.ofNat n) power.natAbs)
  else grow? (Float.ofNat n) power.natAbs

/-- The number with the given digits before and behind its point. -/
def real? (negative : Bool) (whole fraction : List Char) (power : Int) : Option Float :=
  let (n, left) := gather 0 whole
  let (n, unused) := gather n fraction
  let taken := fraction.length - unused.length
  (scaled? n (power + left.length - taken)).map fun x => if negative then -x else x

/-- The whole number of 64 bits with the given digits. A zero with a minus sign is
no whole number. -/
def whole? (negative : Bool) (digits : List Char) : Option Int :=
  let n := Numeral.digitsValue digits
  if negative then if n = 0 ∨ twoTo 63 < n then none else some (-n)
  else if n < twoTo 64 then some n else none

/-- The value of a number, which has a fraction or a power if they are written. -/
def value (negative : Bool) (digits : List Char) (fraction : Option (List Char))
    (power : Option Int) : Json :=
  match if fraction.isNone && power.isNone then whole? negative digits else none with
  | some n => int n
  | none => match real? negative digits (fraction.getD []) (power.getD 0) with
    | some x => real x
    | none => unreadable

end DriverDesk.Json.Number
