import DriverDesk.Expr.Subject
import DriverDesk.Framed.Part
import DriverDesk.Framed.Setting

/-!
# Digital indicators

The speed in three digits, each shown by the frames of one sheet. A digit that
would be a leading zero selects the blank frame.
-/

namespace DriverDesk.Framed

structure DigitalIndicator (K : Type) where
  number? : Option Path
  corner : Point K
  /-- The size of a digit. -/
  size : Point K
  /-- The unit of speed, as its count in one metre per second. -/
  unit : K

namespace DigitalIndicator

variable {K σ : Type} [Arith K]

/-- The units of speed, as their counts in one metre per second. -/
def units : List (List String × K) :=
  [(["km/h", "kmph"], 3.6), (["mph"], 2.2369362920544), (["m/s", "ms"], 1.0)]

def fields : List (Field (DigitalIndicator K)) :=
  [.image ["number", "数字"] fun p d => { d with number? := p },
   pointField ["corner", "左上"] fun p d => { d with corner := d.corner.overlay p },
   pointField ["size", "サイズ"] fun p d => { d with size := d.size.overlay p },
   .keeping ["unit", "単位"] (unitOf units) fun u d => { d with unit := u }]

instance : Readable (DigitalIndicator K) where
  fields := fields
  initial := ⟨none, .zero, .zero, 3.6⟩

/-- Select a leading digit of the value on the stack: the one that counts `unit`. -/
def leadingDigit (unit : Int) : Expr K :=
  [.operator .duplicate, .integer unit, .operator .greaterOrEqual, .operator .swap,
   .integer unit, .operator .quotient, .integer 10, .operator .modulo, .integer 10,
   .operator .choose]

/-- The selectors of the hundreds, the tens and the units. -/
def digitFunctions (d : DigitalIndicator K) : List (Expr K) :=
  [Subject.speedIn d.unit ++ leadingDigit 100,
   Subject.speedIn d.unit ++ leadingDigit 10,
   Subject.speedIn d.unit ++ [.operator .floor, .integer 10, .operator .modulo]]

/-- The state of a frame at a digit's place, counted from the left. -/
def frame (d : DigitalIndicator K) (s : Section) (space : Space K) (path : Path)
    (sheetWidth : K) (digit index : Nat) : Build K σ (Option (ElementState K)) := do
  let params := keyedImage.clipped (Sheet.verticalClip sheetWidth d.size.y index)
  let some (texture, _) ← Build.texture s path params | pure none
  let rect : Rect K :=
    ⟨d.corner.x + Arith.ofInt digit * d.size.x, d.corner.y, d.size.x, d.size.y⟩
  some <$> Build.quadState s space rect (.both 0.5) (Build.depthOf 7) (keyedMaterial texture)

/-- The strips of the digits from the given one on. -/
def strips (d : DigitalIndicator K) (s : Section) (space : Space K) (path : Path)
    (sheetWidth : K) (frames : Nat) : Nat → List (Expr K) → Build K σ (List (Step K))
  | _, [] => pure []
  | digit, function :: functions => do
    let strip ← Build.strip (d.frame s space path sheetWidth digit)
      (fun state => (Element.single .digitalIndicator state).selectedBy function) frames 0
    let rest ← strips d s space path sheetWidth frames (digit + 1) functions
    pure (strip ++ rest)

def build (d : DigitalIndicator K) (s : Section) (space : Space K) :
    Build K σ (List (Step K)) := do
  let some path := d.number? | Build.giveUp s "Number is required to be specified"
  if d.size.x ≤ 0.0 || d.size.y ≤ 0.0 then
    Build.giveUp s "Size is required to be positive"
  else
    let some sheet ← Build.imageSize s path | pure []
    let frames := Sheet.frameCount sheet.y d.size.y
    if frames = 0 then
      Build.giveUp s "Size is larger than the height of Number"
    else
      d.strips s space path sheet.x frames 0 d.digitFunctions

end DigitalIndicator

end DriverDesk.Framed
