import DriverDesk.Framed.Part
import DriverDesk.Framed.Setting

/-!
# Brake indicators

A sheet whose frames stand side by side, one for each position of the brake
handle.
-/

namespace DriverDesk.Framed

/-- The frame of the position of a brake handle: release first, then the notches
(behind the hold brake, if there is one), and emergency last. -/
def brakeFunction {K : Type} : BrakeHandle → Expr K
  | .automaticAir =>
    [.name "emergencyBrake", .integer 3, .name "brakeNotch", .operator .choose]
  | .notched maxNotch true =>
    [.name "emergencyBrake", .integer (maxNotch + 2), .name "holdBrake", .integer 1,
     .name "brakeNotch", .integer 0, .operator .greater, .name "brakeNotch", .integer 1,
     .operator .add, .integer 0, .operator .choose, .operator .choose, .operator .choose]
  | .notched maxNotch false =>
    [.name "emergencyBrake", .integer (maxNotch + 1), .name "brakeNotch", .operator .choose]

structure BrakeIndicator (K : Type) where
  image? : Option Path
  corner : Point K
  /-- The width of a frame. -/
  width : K

namespace BrakeIndicator

variable {K σ : Type} [Arith K]

def fields : List (Field (BrakeIndicator K)) :=
  [.image ["image", "画像"] fun p b => { b with image? := p },
   pointField ["corner", "左上"] fun p b => { b with corner := b.corner.overlay p },
   positiveField ["width", "幅"] fun w b => { b with width := w }]

instance : Readable (BrakeIndicator K) where
  fields := fields
  initial := ⟨none, .zero, 0.0⟩

/-- The state of frame `index`. -/
def frame (b : BrakeIndicator K) (s : Section) (space : Space K) (path : Path) (sheetHeight : K)
    (index : Nat) : Build K σ (Option (ElementState K)) := do
  let params := keyedImage.clipped (Sheet.horizontalClip b.width sheetHeight index)
  let some (texture, _) ← Build.texture s path params | pure none
  let rect : Rect K := ⟨b.corner.x, b.corner.y, b.width, sheetHeight⟩
  some <$> Build.quadState s space rect (.both 0.5) (Build.depthOf 2) (keyedMaterial texture)

def build (b : BrakeIndicator K) (s : Section) (space : Space K) : Build K σ (List (Step K)) := do
  let some path := b.image? | Build.giveUp s "Image is required to be specified"
  if b.width ≤ 0.0 then
    Build.giveUp s "Width is required to be specified"
  else
    let some sheet ← Build.imageSize s path | pure []
    let frames := Sheet.frameCount sheet.x b.width
    if frames = 0 then
      Build.giveUp s "Width is larger than the width of Image"
    else
      let function : Expr K := brakeFunction (← read).options.brake
      Build.strip (b.frame s space path sheet.y)
        (fun state => (Element.single .brakeIndicator state).selectedBy function) frames 0

end BrakeIndicator

end DriverDesk.Framed
