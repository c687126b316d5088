import DriverDesk.Geometry.Viewport
import DriverDesk.Path
import DriverDesk.Text.Encoding

/-!
# Compile options

What a compile needs to know besides the panel file: the screen, the driver and
the train.
-/

namespace DriverDesk

/-- The brake handle of a train. -/
inductive BrakeHandle where
  /-- Release, lap and service positions of an automatic air brake. -/
  | automaticAir
  /-- Numbered notches, with or without a hold brake. -/
  | notched (maxNotch : Nat) (holdBrake : Bool)
  deriving DecidableEq, Repr, Inhabited

structure Options (K : Type) where
  viewport : Viewport K
  /-- The eye of the driver, relative to the car. -/
  driver : Vec K
  /-- The car that receives the elements. -/
  car : Nat
  /-- The number of cars of the train. -/
  cars : Nat
  brake : BrakeHandle
  /-- The folder of the stock images. -/
  stockFolder : Path
  encoding : Text.Encoding

namespace Options

/-- The options of a train that says nothing about itself. -/
def standard {K : Type} [Arith K] : Options K where
  viewport := Viewport.standard
  driver := ⟨0.0, 1.0, 0.0⟩
  car := 0
  cars := 1
  brake := .notched 8 false
  stockFolder := ⟨"Compatibility"⟩
  encoding := .auto

end Options

end DriverDesk
