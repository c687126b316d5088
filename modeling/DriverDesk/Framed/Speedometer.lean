import DriverDesk.Framed.Part
import DriverDesk.Framed.Setting

/-!
# Speedometers

A dial with a needle or a disc of lamps that follows the speed, and with signal
lamps that stand on the dial at the speeds they allow.
-/

namespace DriverDesk.Framed

structure Speedometer (K : Type) where
  usesLamps : Bool
  background? : Option Path
  cover? : Option Path
  /-- The sheet of the signal lamps. -/
  signals? : Option Path
  /-- The distance of the signal lamps from the centre. -/
  signalRadius? : Option K
  tint? : Option Rgba
  center : Point K
  radius : K
  /-- The angle left out on each side of the lowest point. -/
  gap : K
  /-- The highest speed of the dial, in metres per second. -/
  maximum : K

namespace Speedometer

variable {K σ : Type} [Arith K]

def fields : List (Field (Speedometer K)) :=
  [.keeping ["type", "形態"] Framed.usesLamps fun b m => { m with usesLamps := b },
   .image ["background", "背景"] fun p m => { m with background? := p },
   .image ["cover", "ふた"] fun p m => { m with cover? := p },
   .image ["atc"] fun p m => { m with signals? := p },
   .number ["atcradius", "atc半径"] fun r m => { m with signalRadius? := some r },
   tintField ["needle", "針"] fun c m => { m with tint? := some c },
   pointField ["center", "中心"] fun p m => { m with center := m.center.overlay p },
   positiveField ["radius", "半径"] fun r m => { m with radius := r },
   .angle ["angle", "角度"] fun a m => { m with gap := a },
   positiveField ["maximum", "最大"] fun x m => { m with maximum := x / 3.6 }]

instance : Readable (Speedometer K) where
  fields := fields
  initial :=
    { usesLamps := false
      background? := none
      cover? := none
      signals? := none
      signalRadius? := none
      tint? := none
      center := .zero
      radius := 16.0
      gap := Arith.radians 60.0
      maximum := 120.0 / 3.6 }

/-- The angles of the speeds on the dial, for a needle or for lamps. -/
def angles (m : Speedometer K) (usesLamps : Bool) : AngleMap K :=
  let (initial, last) := dialAngles usesLamps m.gap
  ⟨initial, last, 0.0, m.maximum⟩

/-- The speeds the signal lamps allow, in kilometres per hour, in the order of
their frames. -/
def signalSpeeds : List K :=
  [0.0, 0.0, 15.0, 25.0, 45.0, 55.0, 65.0, 75.0, 90.0, 100.0, 110.0, 120.0]

/-- Where the signal lamp of a speed stands: on the angle of a needle. -/
def signalCenter (m : Speedometer K) (speed : K) : Point K :=
  let radius := m.signalRadius?.getD (0.8 * m.radius)
  let (factor, term) := (m.angles false).coefficients
  let angle := Arith.mulAdd factor (speed / 3.6) term
  ⟨m.center.x + radius * Arith.sin angle, m.center.y + radius * -Arith.cos angle⟩

/-- The state of the signal lamp `index`; the frames of the sheet are squares. -/
def signalFrame (m : Speedometer K) (s : Section) (space : Space K) (path : Path)
    (side : K) (index : Nat) : Build K σ (Option (ElementState K)) := do
  let some speed := signalSpeeds[index]? | pure none
  let params := keyedImage.clipped (Sheet.horizontalClip side side index)
  let some (texture, _) ← Build.texture s path params | pure none
  let rect := Rect.around (m.signalCenter speed) (0.5 * side)
  some <$> Build.quadState s space rect (.both 0.5) (Build.depthOf 4) (keyedMaterial texture)

/-- The signal lamps, of which the signal selects one. -/
def signals (m : Speedometer K) (s : Section) (space : Space K) : Build K σ (List (Step K)) := do
  let some path := m.signals? | pure []
  let some sheet ← Build.imageSize s path | pure []
  let frames := min (Sheet.frameCount sheet.x sheet.y) (signalSpeeds (K := K)).length
  let signal : Expr K := [.integer 271, .operator .pluginState]
  Build.strip (m.signalFrame s space path sheet.y)
    (fun state => (Element.single .speedometer state).selectedBy signal) frames 0

/-- The needle or the disc. -/
def pointer (m : Speedometer K) (s : Section) (space : Space K) : Build K σ (List (Step K)) := do
  let angles := m.angles m.usesLamps
  let function := angles.expression [.name "speedometer", .operator .abs]
  let depth := Build.depthOf 5
  if m.usesLamps then
    pure [lamps space .speedometer m.center m.radius depth (m.tint?.getD Rgba.black)
      angles.initial angles.last function]
  else
    hand s space .speedometer "needle_speedometer.png" m.center m.radius depth
      (m.tint?.getD Rgba.white) function

def build (m : Speedometer K) (s : Section) (space : Space K) : Build K σ (List (Step K)) := do
  let background ← optionalImage s space .speedometer m.background? m.center (Build.depthOf 3)
  let signals ← m.signals s space
  let pointer ← m.pointer s space
  let cover ← optionalImage s space .speedometer m.cover? m.center (Build.depthOf 6)
  pure (background ++ signals ++ pointer ++ cover)

end Speedometer

end DriverDesk.Framed
