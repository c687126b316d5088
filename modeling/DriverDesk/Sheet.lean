import DriverDesk.Arith
import DriverDesk.Texture

/-!
# Image sheets

An image that holds the frames of an instrument side by side or one above the
other. Pixel counts are the whole parts of lengths and stay within 32 bits.
-/

namespace DriverDesk.Sheet

variable {K : Type} [Arith K]

/-- The number of whole frames of length `interval` in a sheet of length `sheet`. -/
def frameCount (sheet interval : K) : Nat :=
  if interval ≤ 0.0 then 0
  else if sheet < interval then 0
  else Arith.whole (sheet / interval)

/-- The pixels of a length. -/
def pixels (x : K) : Nat := min (Arith.whole x) 4294967295

/-- The clip of frame `index` where frames stand one above the other. -/
def verticalClip (width interval : K) (index : Nat) : Clip :=
  ⟨0, pixels (Arith.ofInt index * interval), pixels width, pixels interval⟩

/-- The clip of frame `index` where frames stand side by side. -/
def horizontalClip (interval height : K) (index : Nat) : Clip :=
  ⟨pixels (Arith.ofInt index * interval), 0, pixels interval, pixels height⟩

end DriverDesk.Sheet
