import DriverDesk.Decimal.Shortest

/-!
# Positional notation

A number written with digits and at most one point, never with a power of ten.
-/

namespace DriverDesk.Decimal

/-- The digits of a natural number. -/
def digitChars (n : Nat) : List Char := Nat.toDigits 10 n

/-- `coefficient · 10 ^ exponent` without a sign. -/
def positionalChars (coefficient : Nat) (exponent : Int) : List Char :=
  let ds := digitChars coefficient
  let places := (-exponent).toNat
  if exponent ≥ 0 then ds ++ List.replicate exponent.toNat '0'
  else if places < ds.length then
    ds.take (ds.length - places) ++ '.' :: ds.drop (ds.length - places)
  else '0' :: '.' :: (List.replicate (places - ds.length) '0' ++ ds)

/-- The shortest positional text of a double; both zeros are written `0`. -/
def floatText (x : Float) : String :=
  match Binary.ofFloat? x with
  | none => if x.isNaN then "NaN" else if x < 0.0 then "-inf" else "inf"
  | some b =>
    if b.mantissa = 0 then "0"
    else
      let d := shortest b
      let cs := positionalChars d.coefficient d.exponent
      String.ofList (if d.negative then '-' :: cs else cs)

end DriverDesk.Decimal
