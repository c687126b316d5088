import DriverDesk.Build.Basic
import DriverDesk.PanelFile.Setting

/-!
# Pilot lamps

`[PilotLamp]`: an image that is shown while its subject is 1.
-/

namespace DriverDesk.Calibrated

structure PilotLamp (K : Type) where
  subject : SubjectSetting
  location : Point K
  daytime? : Option Path
  nighttime? : Option Path
  key : Rgb
  layer : Int

namespace PilotLamp

variable {K σ : Type} [Arith K]

def fields : List (Field (PilotLamp K)) :=
  [.subject fun x l => { l with subject := x },
   .pair ["location"] fun p l => { l with location := l.location.overlay p },
   .image ["daytimeimage"] fun p l => { l with daytime? := p },
   .image ["nighttimeimage"] fun p l => { l with nighttime? := p },
   .key fun c l => { l with key := c },
   .layer fun n l => { l with layer := n }]

instance : Readable (PilotLamp K) where
  fields := fields
  initial := ⟨.standard, .zero, none, none, Rgb.blue, 0⟩

/-- Selects the only state while the subject is 1, and none otherwise. -/
def stateFunction (subject : Expr K) : Expr K :=
  subject ++ [.integer 1, .operator .equal, .operator .decrement]

def build (l : PilotLamp K) (s : Section) (space : Space K) : Build K σ (List (Step K)) := do
  let some day := l.daytime? | Build.giveUp s "DaytimeImage is required to be specified"
  let params := TextureParams.keyed l.key
  let some (texture, size) ← Build.texture s day params | pure []
  let night ← Build.optionalTexture s l.nighttime? params
  let subject ← Build.subject s l.subject.name l.subject.line?
  let material := (Material.plain (some texture) night Rgba.white).keyed l.key
  let rect : Rect K := ⟨l.location.x, l.location.y, size.x, size.y⟩
  let state ← Build.quadState s space rect (.both 0.5) (Build.depthOf l.layer) material
  pure [.element ((Element.single .pilotLamp state).selectedBy (stateFunction subject))]

end PilotLamp

end DriverDesk.Calibrated
