import DriverDesk.Build.Basic
import DriverDesk.Geometry.Calibration
import DriverDesk.PanelFile.Setting

/-!
# The panel header

`[This]` fixes the calibration of the panel and places its background.
-/

namespace DriverDesk.Calibrated

/-- What a `[This]` section sets. -/
structure Header (K : Type) where
  resolution? : Option K
  left? : Option K
  right? : Option K
  top? : Option K
  bottom? : Option K
  daytime? : Option Path
  nighttime? : Option Path
  key? : Option Rgb
  center : Option K × Option K
  origin : Option K × Option K

namespace Header

variable {K σ : Type} [Arith K]

def fields : List (Field (Header K)) :=
  [.testedNumber ["resolution"] (fun r => 100.0 < r) "Value is expected to be greater than 100"
      fun r h => { h with resolution? := some r },
   .numberOf ["left"] "Left" fun x h => { h with left? := some x },
   .numberOf ["right"] "Right" fun x h => { h with right? := some x },
   .numberOf ["top"] "Top" fun x h => { h with top? := some x },
   .numberOf ["bottom"] "Bottom" fun x h => { h with bottom? := some x },
   .image ["daytimeimage"] fun p h => { h with daytime? := p },
   .image ["nighttimeimage"] fun p h => { h with nighttime? := p },
   .key fun c h => { h with key? := some c },
   .pair ["center"] fun p h => { h with center := overlayPair h.center p },
   .pair ["origin"] fun p h => { h with origin := overlayPair h.origin p }]

instance : Readable (Header K) where
  fields := fields
  initial := ⟨none, none, none, none, none, none, none, none, (none, none), (none, none)⟩

/-- The calibration with what a header sets. -/
def apply (h : Header K) (c : Calibration K) : Calibration K where
  resolution := h.resolution?.getD c.resolution
  left := h.left?.getD c.left
  right := h.right?.getD c.right
  top := h.top?.getD c.top
  bottom := h.bottom?.getD c.bottom
  center := c.center.overlay h.center
  origin := c.origin.overlay h.origin
  key := h.key?.getD c.key

/-- The background, for a header with a daytime image. -/
def build (h : Header K) (s : Section) (space : Space K) (key : Rgb) :
    Build K σ (List (Step K)) := do
  let some day := h.daytime? | pure []
  let params := TextureParams.keyed key
  let some (texture, size) ← Build.texture s day params | pure []
  let night ← Build.optionalTexture s h.nighttime? params
  let material := (Material.plain (some texture) night Rgba.white).keyed key
  let state ← Build.quadState s space ⟨0.0, 0.0, size.x, size.y⟩ (.both 0.5) 0.0 material
  pure [.element (.single .background state)]

end Header

end DriverDesk.Calibrated
