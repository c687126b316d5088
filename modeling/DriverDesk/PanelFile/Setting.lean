import DriverDesk.Geometry.Point
import DriverDesk.PanelFile.Field

/-!
# Settings

The fields that kinds of sections share. Each is given by the way its value is
put into the settings of the section.
-/

namespace DriverDesk

/-- A subject as a section gives it, and the line that does. -/
structure SubjectSetting where
  name : String
  line? : Option Nat
  deriving DecidableEq, Repr

/-- The subject of a section that names none. -/
def SubjectSetting.standard : SubjectSetting := ⟨"true", none⟩

/-- Replace the coordinates that are given. -/
def Point.overlay {K : Type} (p : Point K) (new : Option K × Option K) : Point K :=
  ⟨new.1.getD p.x, new.2.getD p.y⟩

/-- Keep the older of two halves where the newer is missing. -/
def overlayPair {α : Type} (old new : Option α × Option α) : Option α × Option α :=
  (new.1 <|> old.1, new.2 <|> old.2)

namespace Field

variable {K α : Type} [Arith K]

def subject (put : SubjectSetting → α → α) : Field α :=
  always ["subject"] (fun c => pure ⟨c.value, some c.record.line⟩) put

/-- An image; a record without a usable one takes the image away. -/
def image (keys : List String) (put : Option Path → α → α) : Field α :=
  always keys RecordAt.image put

def key (put : Rgb → α → α) : Field α := keeping ["transparentcolor"] RecordAt.rgb put

def tint (put : Rgba → α → α) : Field α := keeping ["color"] RecordAt.rgba put

def layer (put : Int → α → α) : Field α :=
  keeping ["layer"] (fun c => c.integer "LayerIndex" c.value) put

/-- A number that diagnostics call `what`. -/
def numberOf (keys : List String) (what : String) (put : K → α → α) : Field α :=
  keeping keys (fun c => c.number what c.value) put

def number (keys : List String) (put : K → α → α) : Field α := numberOf keys "Value" put

/-- An angle, given in degrees. -/
def angle (keys : List String) (put : K → α → α) : Field α := keeping keys RecordAt.angle put

/-- A point, of which each half may be missing. -/
def pair (keys : List String) (put : Option K × Option K → α → α) : Field α :=
  keeping keys (fun c => c.numberPair "X" "Y") put

/-- A number that has to pass a test; one that does not is refused. -/
def testedNumber (keys : List String) (test : K → Bool) (message : String) (put : K → α → α) :
    Field α :=
  keeping keys (fun c => do
    match ← c.number "Value" c.value with
    | none => pure none
    | some x => if test x then pure (some x) else c.refuse message) put

/-- A number with a replacement for values that fail a test. -/
def mendedNumber (keys : List String) (test : K → Bool) (message : String) (mend : K → K)
    (put : K → α → α) : Field α :=
  keeping keys (fun c => do
    match ← c.number "Value" c.value with
    | none => pure none
    | some x =>
      if test x then pure (some x)
      else do
        Noted.report (c.complaint message)
        pure (some (mend x))) put

end Field

end DriverDesk
