import DriverDesk.Framed.Part
import DriverDesk.Framed.Setting

/-!
# Door lamps

The pilot lamp of framed panels: one image while the doors are open, and another
while they are closed, if there is one.
-/

namespace DriverDesk.Framed

structure PilotLamp (K : Type) where
  turnOn? : Option Path
  turnOff? : Option Path
  corner : Point K

namespace PilotLamp

variable {K σ : Type} [Arith K]

def fields : List (Field (PilotLamp K)) :=
  [.image ["turnon", "点灯"] fun p l => { l with turnOn? := p },
   .image ["turnoff", "消灯"] fun p l => { l with turnOff? := p },
   pointField ["corner", "左上"] fun p l => { l with corner := l.corner.overlay p }]

instance : Readable (PilotLamp K) where
  fields := fields
  initial := ⟨none, none, .zero⟩

/-- An image in its own size at the corner. -/
def state (l : PilotLamp K) (s : Section) (space : Space K) (path : Path) :
    Build K σ (Option (ElementState K)) := do
  let some (texture, size) ← Build.texture s path keyedImage | pure none
  let rect : Rect K := ⟨l.corner.x, l.corner.y, size.x, size.y⟩
  some <$> Build.quadState s space rect (.both 0.5) (Build.depthOf 2) (keyedMaterial texture)

def build (l : PilotLamp K) (s : Section) (space : Space K) : Build K σ (List (Step K)) := do
  let some turnOn := l.turnOn? | Build.giveUp s "TurnOn is required to be specified"
  let some on ← l.state s space turnOn | pure []
  let function : Expr K := [.name "doors", .integer 0, .operator .notEqual]
  let step := Step.element ((Element.single .pilotLamp on).selectedBy function)
  match l.turnOff? with
  | none => pure [step]
  | some turnOff =>
    match ← l.state s space turnOff with
    | none => pure [step]
    | some off => pure [step, .state off]

end PilotLamp

end DriverDesk.Framed
