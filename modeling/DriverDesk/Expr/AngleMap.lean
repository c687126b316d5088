import DriverDesk.Expr.Basic

/-!
# Angle maps

The linear map that carries the value range of a gauge onto its angles, and the
quantising of a value that moves in steps.
-/

namespace DriverDesk

/-- Carries `minimum` to the angle `initial` and `maximum` to the angle `last`. -/
structure AngleMap (K : Type) where
  initial : K
  last : K
  minimum : K
  maximum : K

namespace AngleMap

variable {K : Type} [Arith K]

/-- The factor and the term of `angle = factor · value + term`. -/
def coefficients (m : AngleMap K) : K × K :=
  let range := m.maximum - m.minimum
  ((m.last - m.initial) / range, (m.initial * m.maximum - m.last * m.minimum) / range)

/-- The angle of a value. -/
def expression (m : AngleMap K) (value : Expr K) : Expr K :=
  value ++ [.number m.coefficients.1, .number m.coefficients.2, .operator .mulAdd]

end AngleMap

/-- Lower the value on the stack to a multiple of `step`; a step of zero leaves it
as it is. -/
def quantize {K : Type} [Arith K] (step : K) : Expr K :=
  if step == 1.0 then [.operator .floor]
  else if step == 0.0 then []
  else [.number (1.0 / step), .operator .multiply, .operator .floor, .number step,
    .operator .multiply]

end DriverDesk
