import DriverDesk.Geometry.Space

/-!
# The fixed frame

Panels of the older format are drawn in a frame of 480 by 440 pixels that is
centred on the driver.
-/

namespace DriverDesk

/-- The frame on the panel plane. -/
structure Frame (K : Type) where
  /-- Where the background begins, in pixels from the top of the frame. -/
  semiHeight : K
  worldWidth : K
  worldHeight : K
  worldLeft : K
  worldTop : K
  deriving Repr, Inhabited

namespace Frame

variable {K : Type} [Arith K]

/-- The width of the frame in pixels. -/
def pixelWidth : K := 480.0

/-- The height of the frame in pixels. -/
def pixelHeight : K := 440.0

/-- The frame centred on the driver. -/
def centered (v : Viewport K) (driver : Vec K) : Frame K :=
  let world := v.worldSize (pixelWidth / pixelHeight)
  { semiHeight := 240.0
    worldWidth := world.x
    worldHeight := world.y
    worldLeft := driver.x - 0.5 * world.x
    worldTop := driver.y + 0.5 * world.y }

/-- The frame over a background that stands on its bottom edge. -/
def withBackground (f : Frame K) (height : K) : Frame K :=
  { f with semiHeight := pixelHeight - height }

/-- Where a pixel lies on the panel plane. -/
def toWorld (f : Frame K) (x y : K) : Point K :=
  ⟨f.worldLeft + f.worldWidth * x / pixelWidth, f.worldTop - f.worldHeight * y / pixelHeight⟩

/-- The space of a frame. -/
def space (f : Frame K) (driver : Vec K) : Space K where
  project r := (f.toWorld r.left r.top, f.toWorld (r.left + r.width) (r.top + r.height))
  driver := driver

end Frame

end DriverDesk
