import DriverDesk.Geometry.Calibration
import DriverDesk.Geometry.Frame

/-!
# The camera

How far the driver may look around a panel, and where he looks at first.
-/

namespace DriverDesk

/-- The eye-space corners that bound the view, and its first direction in radians. -/
structure Camera (K : Type) where
  bottomLeft : Vec K
  topRight : Vec K
  yaw : K
  pitch : K
  deriving Repr, Inhabited

namespace Camera

variable {K : Type} [Arith K]

/-- The pitch of the fixed frame towards its instruments. -/
def framePitch : K := -0.191986217719376

/-- The camera of a calibrated panel. -/
def ofCalibration (c : Calibration K) (v : Viewport K) : Camera K :=
  let res := c.resolution
  let world := v.worldSize v.aspect
  let x0 := (c.left - c.center.x) / res
  let x1 := (c.right - c.center.x) / res
  let y0 := (c.center.y - c.bottom) / res * v.aspect
  let y1 := (c.center.y - c.top) / res * v.aspect
  { bottomLeft := ⟨x0 * world.x, y0 * world.y, eyeDistance⟩
    topRight := ⟨x1 * world.x, y1 * world.y, eyeDistance⟩
    yaw := Arith.atan ((c.center.x - c.origin.x) * world.x / res)
    pitch := Arith.atan ((c.origin.y - c.center.y) * world.x / res) }

/-- The camera of a frame; `yaw` and `pitch` are tangents. -/
def ofFrame (f : Frame K) (yaw pitch : K) : Camera K :=
  let halfWidth := 0.5 * f.worldWidth
  let halfHeight := 0.5 * f.worldHeight
  { bottomLeft := ⟨-halfWidth, -halfHeight, eyeDistance⟩
    topRight := ⟨halfWidth, halfHeight, eyeDistance⟩
    yaw := Arith.atan yaw
    pitch := Arith.atan pitch + framePitch }

end Camera

end DriverDesk
