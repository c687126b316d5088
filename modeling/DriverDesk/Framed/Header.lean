import DriverDesk.Framed.Part
import DriverDesk.Framed.Setting
import DriverDesk.Geometry.Frame

/-!
# Headers of framed panels

`[Panel]` names the background, and `[View]` the direction the driver looks in.
-/

namespace DriverDesk.Framed

/-- What a `[Panel]` section sets. -/
structure Background where
  image? : Option Path

/-- What a `[View]` section sets, as tangents. -/
structure View (K : Type) where
  yaw? : Option K
  pitch? : Option K

namespace Background

variable {K σ : Type} [Arith K]

instance : Readable Background where
  fields := [.image ["background", "背景"] fun p _ => ⟨p⟩]
  initial := ⟨none⟩

/-- The image that is asked for, or the usual one if it is there. -/
def path? (b : Background) (env : ReadEnv) : Option Path :=
  match b.image? with
  | some p => some p
  | none =>
    let usual := env.files.resolve env.trainFolder ⟨"panel.bmp"⟩
    if env.files.isFile usual then some usual else none

def build (b : Background) (s : Section) (space : Space K) (frame : Frame K) :
    Build K σ (List (Step K)) := do
  let some path := b.path? (← read).read | pure []
  let some (texture, size) ← Build.texture s path keyedImage | pure []
  let rect : Rect K := ⟨0.0, frame.semiHeight, size.x, size.y⟩
  let state ← Build.quadState s space rect (.both 0.5) 0.0 (keyedMaterial texture)
  pure [.element (.single .background state)]

end Background

instance {K : Type} [Arith K] : Readable (View K) where
  fields :=
    [.numberOf ["yaw"] "Yaw" fun x v => { v with yaw? := some x },
     .numberOf ["pitch"] "Pitch" fun x v => { v with pitch? := some x }]
  initial := ⟨none, none⟩

end DriverDesk.Framed
