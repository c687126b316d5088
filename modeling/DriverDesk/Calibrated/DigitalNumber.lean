import DriverDesk.Build.Basic
import DriverDesk.PanelFile.Setting

/-!
# Digital numbers

`[DigitalNumber]`: a sheet whose frames stand one above the other, of which the
subject selects one.
-/

namespace DriverDesk.Calibrated

structure DigitalNumber (K : Type) where
  subject : SubjectSetting
  location : Point K
  daytime? : Option Path
  nighttime? : Option Path
  key : Rgb
  /-- The height of a frame in pixels. -/
  interval : K
  layer : Int

namespace DigitalNumber

variable {K σ : Type} [Arith K]

def fields : List (Field (DigitalNumber K)) :=
  [.subject fun x d => { d with subject := x },
   .pair ["location"] fun p d => { d with location := d.location.overlay p },
   .image ["daytimeimage"] fun p d => { d with daytime? := p },
   .image ["nighttimeimage"] fun p d => { d with nighttime? := p },
   .key fun c d => { d with key := c },
   .keeping ["interval"] (fun c => do
      match ← c.integer "Height" c.value with
      | none => pure none
      | some i => if 0 < i then pure (some i) else c.refuse "Height is expected to be positive")
      fun i d => { d with interval := Arith.ofInt i },
   .layer fun i d => { d with layer := i }]

instance : Readable (DigitalNumber K) where
  fields := fields
  initial := ⟨.standard, .zero, none, none, Rgb.blue, 0.0, 0⟩

/-- The number of frames of the nighttime sheet. -/
def nightFrames (d : DigitalNumber K) (s : Section) : Build K σ Nat := do
  match d.nighttime? with
  | none => pure 0
  | some night =>
    match ← Build.imageSize s night with
    | none => pure 0
    | some size => pure (Sheet.frameCount size.y d.interval)

/-- The state of frame `index`, if its daytime texture can be had. -/
def frame (d : DigitalNumber K) (s : Section) (space : Space K) (day : Path) (sheet : Point K)
    (nightFrames index : Nat) : Build K σ (Option (ElementState K)) := do
  let params := (TextureParams.keyed d.key).clipped (Sheet.verticalClip sheet.x d.interval index)
  let some (texture, _) ← Build.texture s day params | pure none
  let night ←
    if index < nightFrames then Build.optionalTexture s d.nighttime? params else pure none
  let material := (Material.plain (some texture) night Rgba.white).keyed d.key
  let rect : Rect K := ⟨d.location.x, d.location.y, sheet.x, d.interval⟩
  some <$> Build.quadState s space rect (.both 0.5) (Build.depthOf d.layer) material

def build (d : DigitalNumber K) (s : Section) (space : Space K) : Build K σ (List (Step K)) := do
  let some day := d.daytime? | Build.giveUp s "DaytimeImage is required to be specified"
  if d.interval ≤ 0.0 then
    Build.giveUp s "Interval is required to be specified"
  else
    let some sheet ← Build.imageSize s day | pure []
    let frames := Sheet.frameCount sheet.y d.interval
    if frames = 0 then
      Build.giveUp s "Interval is larger than the height of DaytimeImage"
    else
      let nightFrames ← d.nightFrames s
      let subject ← Build.subject s d.subject.name d.subject.line?
      Build.strip (d.frame s space day sheet nightFrames)
        (fun state => (Element.single .digitalNumber state).selectedBy subject) frames 0

end DigitalNumber

end DriverDesk.Calibrated
