import DriverDesk.Build.Basic
import DriverDesk.Expr.AngleMap
import DriverDesk.PanelFile.Setting

/-!
# Needles

`[Needle]`: an image that turns about a point of the panel as its subject grows
from a minimum to a maximum.
-/

namespace DriverDesk.Calibrated

structure Needle (K : Type) where
  subject : SubjectSetting
  /-- The pixel it turns about. -/
  location : Point K
  /-- The length above the pivot, in pixels; zero keeps the size of the image. -/
  radius : K
  daytime? : Option Path
  nighttime? : Option Path
  tint : Rgba
  key : Rgb
  /-- The pixel of the image that is the pivot. -/
  origin : Option K × Option K
  initialAngle : K
  lastAngle : K
  minimum : K
  maximum : K
  naturalFrequency? : Option K
  dampingRatio? : Option K
  layer : Int
  backstop : Bool
  smoothed : Bool

namespace Needle

variable {K σ : Type} [Arith K]

/-- The radius of a needle whose section asks for none. -/
def fallbackRadius : K := 16.0

def fields : List (Field (Needle K)) :=
  [.subject fun x n => { n with subject := x },
   .pair ["location"] fun p n => { n with location := n.location.overlay p },
   .mendedNumber ["radius"] (fun r => !(r == 0.0)) "Value is expected to be non-zero"
      (fun _ => fallbackRadius) fun r n => { n with radius := r },
   .image ["daytimeimage"] fun p n => { n with daytime? := p },
   .image ["nighttimeimage"] fun p n => { n with nighttime? := p },
   .tint fun c n => { n with tint := c },
   .key fun c n => { n with key := c },
   .pair ["origin"] fun p n => { n with origin := overlayPair n.origin p },
   .angle ["initialangle"] fun a n => { n with initialAngle := a },
   .angle ["lastangle"] fun a n => { n with lastAngle := a },
   .number ["minimum"] fun x n => { n with minimum := x },
   .number ["maximum"] fun x n => { n with maximum := x },
   .mendedNumber ["naturalfreq"] (fun x => !decide (x < 0.0))
      "Value is expected to be non-negative" Arith.abs
      fun x n => { n with naturalFrequency? := some x },
   .mendedNumber ["dampingratio"] (fun x => !decide (x < 0.0))
      "Value is expected to be non-negative" Arith.abs
      fun x n => { n with dampingRatio? := some x },
   .layer fun i n => { n with layer := i },
   .always ["backstop"] (fun c => pure c.flag) fun b n => { n with backstop := b },
   .always ["smoothed"] (fun c => pure c.flag) fun b n => { n with smoothed := b }]

instance : Readable (Needle K) where
  fields := fields
  initial :=
    { subject := .standard
      location := .zero
      radius := 0.0
      daytime? := none
      nighttime? := none
      tint := Rgba.white
      key := Rgb.blue
      origin := (none, none)
      initialAngle := Arith.radians (-120.0)
      lastAngle := Arith.radians 120.0
      minimum := 0.0
      maximum := 1000.0
      naturalFrequency? := none
      dampingRatio? := none
      layer := 0
      backstop := false
      smoothed := false }

/-- The pixel of an image of the given size that is the pivot; its middle unless
the section says otherwise. -/
def pivotPixel (n : Needle K) (size : Point K) : Point K :=
  ⟨n.origin.1.getD (0.5 * size.x), n.origin.2.getD (0.5 * size.y)⟩

/-- The pivot as fractions of the image. -/
def pivot (n : Needle K) (size : Point K) : Point K :=
  ⟨(n.pivotPixel size).x / size.x, (n.pivotPixel size).y / size.y⟩

/-- The factor that makes the needle as long as its radius. -/
def scale (n : Needle K) (size : Point K) : K :=
  if n.radius == 0.0 || (n.pivotPixel size).y == 0.0 then 1.0
  else n.radius / (n.pivotPixel size).y

/-- The scaled image with its pivot at the location. -/
def rect (n : Needle K) (size : Point K) : Rect K :=
  let width := size.x * n.scale size
  let height := size.y * n.scale size
  ⟨n.location.x - (n.pivot size).x * width, n.location.y - (n.pivot size).y * height,
   width, height⟩

/-- The angles of the value range. -/
def angles (n : Needle K) : AngleMap K := ⟨n.initialAngle, n.lastAngle, n.minimum, n.maximum⟩

/-- The spring, if both of its numbers are given. -/
def damping? (n : Needle K) : Option (Damping K) := do
  let f ← n.naturalFrequency?
  let d ← n.dampingRatio?
  some ⟨f, d⟩

/-- How the needle follows a value. -/
def rotation (n : Needle K) (value : Expr K) : Rotation K :=
  { Rotation.free (n.angles.expression value) with
    damping? := n.damping?
    clamp? := if n.backstop then some (n.initialAngle, n.lastAngle) else none
    smoothed := n.smoothed }

def build (n : Needle K) (s : Section) (space : Space K) : Build K σ (List (Step K)) := do
  let some day := n.daytime? | Build.giveUp s "DaytimeImage is required to be specified"
  if n.minimum == n.maximum then
    Build.giveUp s "Minimum and Maximum must not be equal"
  else
    let params := TextureParams.keyed n.key
    let some (texture, size) ← Build.texture s day params | pure []
    let night ← Build.optionalTexture s n.nighttime? params
    let material := (Material.plain (some texture) night n.tint).keyed n.key
    let state ← Build.quadState s space (n.rect size) (n.pivot size) (Build.depthOf n.layer)
      material
    let subject ← Build.subject s n.subject.name n.subject.line?
    pure [.element ((Element.single .needle state).moving (.turning (n.rotation subject)))]

end Needle

end DriverDesk.Calibrated
