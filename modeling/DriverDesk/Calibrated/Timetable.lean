import DriverDesk.Build.Basic
import DriverDesk.PanelFile.Setting

/-!
# Timetables

`[Timetable]`: a rectangle on which the timetable of the train is drawn. A
transparent colour is read and has no effect.
-/

namespace DriverDesk.Calibrated

structure Timetable (K : Type) where
  location : Point K
  width : K
  height : K
  layer : Int

namespace Timetable

variable {K σ : Type} [Arith K]

def fields : List (Field (Timetable K)) :=
  [.pair ["location"] fun p t => { t with location := t.location.overlay p },
   .number ["width"] fun x t => { t with width := x },
   .number ["height"] fun x t => { t with height := x },
   .key fun _ t => t,
   .layer fun i t => { t with layer := i }]

instance : Readable (Timetable K) where
  fields := fields
  initial := ⟨.zero, 0.0, 0.0, 0⟩

def build (t : Timetable K) (s : Section) (space : Space K) : Build K σ (List (Step K)) := do
  if t.width ≤ 0.0 then Build.complain s "Width is required to be positive"
  if t.height ≤ 0.0 then Build.complain s "Height is required to be positive"
  if t.width ≤ 0.0 || t.height ≤ 0.0 then pure []
  else
    let rect : Rect K := ⟨t.location.x, t.location.y, t.width, t.height⟩
    let state ← Build.quadState s space rect (.both 0.5) (Build.depthOf t.layer)
      (.plain none none Rgba.white)
    let element := (Element.single .timetable state).selectedBy [.name "panel2timetable"]
    pure [.element { element with timetable := true }]

end Timetable

end DriverDesk.Calibrated
