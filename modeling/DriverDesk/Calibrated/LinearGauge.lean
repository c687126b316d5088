import DriverDesk.Build.Basic
import DriverDesk.PanelFile.Setting

/-!
# Linear gauges

`[LinearGauge]`: an image that scrolls as its subject grows.
-/

namespace DriverDesk.Calibrated

structure LinearGauge (K : Type) where
  subject : SubjectSetting
  location : Point K
  minimum : K
  maximum : K
  /-- The pixels scrolled from minimum to maximum. -/
  width : K
  direction : Int × Int
  daytime? : Option Path
  nighttime? : Option Path
  key : Rgb
  layer : Int

namespace LinearGauge

variable {K σ : Type} [Arith K]

def fields : List (Field (LinearGauge K)) :=
  [.subject fun x g => { g with subject := x },
   .pair ["location"] fun p g => { g with location := g.location.overlay p },
   .number ["minimum"] fun x g => { g with minimum := x },
   .number ["maximum"] fun x g => { g with maximum := x },
   .number ["width"] fun x g => { g with width := x },
   .keeping ["direction"] (fun c => c.integerPair "X" "Y")
      fun p g => { g with direction := (p.1.getD g.direction.1, p.2.getD g.direction.2) },
   .image ["daytimeimage"] fun p g => { g with daytime? := p },
   .image ["nighttimeimage"] fun p g => { g with nighttime? := p },
   .key fun c g => { g with key := c },
   .layer fun i g => { g with layer := i }]

instance : Readable (LinearGauge K) where
  fields := fields
  initial := ⟨.standard, .zero, 0.0, 0.0, 0.0, (0, 0), none, none, Rgb.blue, 0⟩

/-- The texture is tiled along the axes it scrolls on. -/
def params (g : LinearGauge K) : TextureParams :=
  { TextureParams.keyed g.key with
    wrapU := if g.direction.1 = 0 then .clampToEdge else .tiled
    wrapV := if g.direction.2 = 0 then .clampToEdge else .tiled }

/-- The shift of a value, in widths of a texture of the given width. -/
def shift (g : LinearGauge K) (textureWidth : K) (value : Expr K) : Expr K :=
  let factor := g.width / textureWidth / (g.maximum - g.minimum)
  value ++ [.number g.minimum, .operator .subtract, .number factor, .operator .multiply]

def build (g : LinearGauge K) (s : Section) (space : Space K) : Build K σ (List (Step K)) := do
  let some day := g.daytime? | Build.giveUp s "DaytimeImage is required to be specified"
  if g.maximum ≤ g.minimum then
    Build.giveUp s "Maximum is required to be greater than Minimum"
  else if g.width ≤ 0.0 then
    Build.giveUp s "Width is required to be positive"
  else
    let some (texture, size) ← Build.texture s day g.params | pure []
    let night ← Build.optionalTexture s g.nighttime? g.params
    let material := (Material.plain (some texture) night Rgba.white).keyed g.key
    let rect : Rect K := ⟨g.location.x, g.location.y, size.x, size.y⟩
    let state ← Build.quadState s space rect (.both 0.5) (Build.depthOf g.layer) material
    let subject ← Build.subject s g.subject.name g.subject.line?
    let motion := Motion.scrolling ⟨g.direction, g.shift size.x subject⟩
    pure [.element ((Element.single .linearGauge state).moving motion)]

end LinearGauge

end DriverDesk.Calibrated
