import DriverDesk.Arith
import DriverDesk.Geometry.Point

/-!
# The viewport

The screen a panel is fitted to. A panel stands one eye distance ahead of the
driver and fills the screen along the axis that binds it: the width of a screen
at least as wide as high, the height of any other.
-/

namespace DriverDesk

/-- The distance from the eye to the panel. -/
def eyeDistance {K : Type} [Arith K] : K := 1.0

/-- The depth between neighbouring layers. -/
def layerStep {K : Type} [Arith K] : K := 1e-6

/-- Width over height of the screen, and half of its fields of view in radians. -/
structure Viewport (K : Type) where
  aspect : K
  horizontalHalf : K
  verticalHalf : K
  deriving Repr, Inhabited

namespace Viewport

variable {K : Type} [Arith K]

/-- The viewport of an aspect and a full vertical field of view in degrees. -/
def ofVerticalFov (aspect degrees : K) : Viewport K :=
  let half := 0.5 * Arith.radians degrees
  ⟨aspect, Arith.atan (Arith.tan half * aspect), half⟩

/-- The size on the panel plane of a frame of the given aspect. -/
def worldSize (v : Viewport K) (frameAspect : K) : Point K :=
  if 1.0 ≤ v.aspect then
    let width := 2.0 * Arith.tan v.horizontalHalf * eyeDistance
    ⟨width, width / frameAspect⟩
  else
    let height := 2.0 * Arith.tan v.verticalHalf * eyeDistance / v.aspect
    ⟨height * frameAspect, height⟩

/-- A wide screen with a vertical field of view of 45 degrees. -/
def standard : Viewport K := ofVerticalFov (16.0 / 9.0) 45.0

end Viewport

end DriverDesk
