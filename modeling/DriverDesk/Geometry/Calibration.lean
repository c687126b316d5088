import DriverDesk.Color
import DriverDesk.Geometry.Space

/-!
# Calibrated panels

A calibrated panel fixes its own scale: `resolution` pixels span its width, and
the pixel `center` appears in the middle of the screen.
-/

namespace DriverDesk

/-- The pixel scale, pan bounds and view of one panel. -/
structure Calibration (K : Type) where
  resolution : K
  left : K
  right : K
  top : K
  bottom : K
  /-- The pixel in the middle of the screen. -/
  center : Point K
  /-- The pixel the driver looks at. -/
  origin : Point K
  /-- The key colour of the background. -/
  key : Rgb
  deriving Repr, Inhabited

namespace Calibration

variable {K : Type} [Arith K]

/-- The calibration of a panel that sets none of its fields. -/
def standard : Calibration K where
  resolution := 1024.0
  left := 0.0
  right := 1024.0
  top := 0.0
  bottom := 1024.0
  center := ⟨0.0, 512.0⟩
  origin := ⟨0.0, 512.0⟩
  key := Rgb.blue

/-- Where the corners of a rectangle lie on the panel plane. -/
def project (c : Calibration K) (v : Viewport K) (driver : Vec K) (r : Rect K) :
    Point K × Point K :=
  let res := c.resolution
  let xd := 0.5 - c.center.x / res
  let x0 := r.left / res + xd
  let x1 := (r.left + r.width) / res + xd
  let yt := c.bottom - res / v.aspect
  let yd := (c.center.y - yt) / (c.bottom - yt) - 0.5
  let y0 := (c.bottom - r.top) / res * v.aspect + yd
  let y1 := (c.bottom - (r.top + r.height)) / res * v.aspect + yd
  let world := v.worldSize v.aspect
  (⟨(x0 - 0.5) * world.x + driver.x, (y0 - 0.5) * world.y + driver.y⟩,
   ⟨(x1 - 0.5) * world.x + driver.x, (y1 - 0.5) * world.y + driver.y⟩)

/-- The space of a calibrated panel. -/
def space (c : Calibration K) (v : Viewport K) (driver : Vec K) : Space K where
  project := c.project v driver
  driver := driver

end Calibration

end DriverDesk
