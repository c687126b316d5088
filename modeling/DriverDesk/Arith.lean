import DriverDesk.Decimal.Basic

/-!
# Arithmetic

The operations a panel is laid out with. Panels are compiled with doubles;
geometry, angle maps and frame slicing are written over any type with these
operations, so that they can also be read exactly.
-/

namespace DriverDesk

/-- Numbers a panel can be laid out with. -/
class Arith (K : Type) extends Add K, Sub K, Mul K, Div K, Neg K, OfScientific K,
    LT K, LE K, BEq K where
  decLt : DecidableLT K
  decLe : DecidableLE K
  ofInt : Int → K
  ofDecimal : Decimal → K
  /-- The whole part of a number that is not negative, within 64 bits; nothing of
  any other. -/
  whole : K → Nat
  /-- `a · b + c`, rounded once where numbers are rounded. -/
  mulAdd : K → K → K → K
  tan : K → K
  atan : K → K
  sin : K → K
  cos : K → K
  pi : K

namespace Arith

variable {K : Type} [Arith K]

instance : DecidableLT K := decLt

instance : DecidableLE K := decLe

/-- Degrees in radians. -/
def radians (degrees : K) : K := degrees * (pi / 180.0)

def abs (x : K) : K := if x < 0.0 then -x else x

/-- `a ^ m` by repeated squaring, in the order of the binary digits of `m` from
the lowest; `acc` holds the product so far. -/
def powLoop : Nat → Nat → K → K → K
  | 0, _, _, acc => acc
  | fuel + 1, m, a, acc =>
    let acc := if m % 2 = 1 then acc * a else acc
    if m / 2 = 0 then acc else powLoop fuel (m / 2) (a * a) acc

/-- An integral power; one with a negative exponent is a reciprocal. -/
def power (a : K) (n : Int) : K :=
  let m := n.natAbs
  let p := powLoop (Nat.log2 m + 1) m a 1.0
  if n < 0 then 1.0 / p else p

end Arith

/-- `a · b + c` rounded once. Where a product or sum leaves the finite doubles,
rounding twice makes no difference. -/
def fusedMulAdd (a b c : Float) : Float :=
  match Binary.ofFloat? a, Binary.ofFloat? b, Binary.ofFloat? c with
  | some x, some y, some z =>
    let e := min (x.exponent + y.exponent) z.exponent
    let signed (negative : Bool) (n : Nat) : Int := if negative then -n else n
    let product := signed (x.negative != y.negative)
      (x.mantissa * y.mantissa * twoTo (x.exponent + y.exponent - e).toNat)
    let sum := product + signed z.negative (z.mantissa * twoTo (z.exponent - e).toNat)
    if sum = 0 then a * b + c
    else
      -- a power of two with a negative exponent is `5 ^ k` over a power of ten
      let k := (-e).toNat
      let d : Decimal := ⟨sum < 0, sum.natAbs * twoTo e.toNat * Nat.pow 5 k, -(k : Int)⟩
      d.toFloat
  | _, _, _ => a * b + c

instance : Arith Float where
  decLt := Float.decLt
  decLe := Float.decLe
  ofInt := Float.ofInt
  ofDecimal := Decimal.toFloat
  whole x := x.toUInt64.toNat
  mulAdd := fusedMulAdd
  tan := Float.tan
  atan := Float.atan
  sin := Float.sin
  cos := Float.cos
  pi := 3.141592653589793

end DriverDesk
