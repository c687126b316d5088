import DriverDesk.Framed.Part
import DriverDesk.Framed.Setting

/-!
# Watches

A dial with the hands of a clock.
-/

namespace DriverDesk.Framed

structure Watch (K : Type) where
  background? : Option Path
  tint : Rgba
  center : Point K
  radius : K

namespace Watch

variable {K σ : Type} [Arith K]

def fields : List (Field (Watch K)) :=
  [.image ["background", "背景"] fun p w => { w with background? := p },
   tintField ["needle", "針"] fun c w => { w with tint := c },
   pointField ["center", "中心"] fun p w => { w with center := w.center.overlay p },
   positiveField ["radius", "半径"] fun r w => { w with radius := r }]

instance : Readable (Watch K) where
  fields := fields
  initial := ⟨none, Rgba.black, .zero, 16.0⟩

/-- The angle of the hour hand. -/
def hourFunction : Expr K :=
  [.name "time", .number 0.000277777777777778, .operator .multiply,
   .number 0.523598775598299, .operator .multiply]

/-- The angle of the minute hand. -/
def minuteFunction : Expr K :=
  [.name "time", .number 0.0166666666666667, .operator .multiply, .operator .floor,
   .number 0.10471975511966, .operator .multiply]

/-- The angle of the second hand. -/
def secondFunction : Expr K :=
  [.name "time", .operator .floor, .number 0.10471975511966, .operator .multiply]

/-- One hand, on the layer of the given number. -/
def handAt (w : Watch K) (s : Section) (space : Space K) (image : String) (layer : Int)
    (function : Expr K) : Build K σ (List (Step K)) :=
  hand s space .clock image w.center w.radius (Build.depthOf layer) w.tint function

def build (w : Watch K) (s : Section) (space : Space K) : Build K σ (List (Step K)) := do
  let background ← optionalImage s space .clock w.background? w.center (Build.depthOf 3)
  let hour ← w.handAt s space "needle_hour.png" 4 hourFunction
  let minute ← w.handAt s space "needle_minute.png" 5 minuteFunction
  let second ← w.handAt s space "needle_second.png" 6 secondFunction
  pure (background ++ hour ++ minute ++ second)

end Watch

end DriverDesk.Framed
