import DriverDesk.PanelFile.Setting

/-!
# Settings of framed panels

The values that only the older format has: points and colours written as
separated arguments, and the choice between needles and lamps.
-/

namespace DriverDesk.Framed

variable {K α : Type} [Arith K]

/-- The first two of several arguments, as numbers. -/
def point (c : RecordAt) : Noted (Option (Option K × Option K)) :=
  match Argument.fields c.value with
  | x :: y :: _ => do
    let x ← c.number "X" x
    let y ← c.number "Y" y
    pure (some (x, y))
  | _ => c.refuse "Two arguments are expected"

/-- A colour channel. One out of range is reported and brought into it. -/
def channel (c : RecordAt) (what text : String) : Noted (Option UInt8) := do
  match ← c.integer what text with
  | none => pure none
  | some v =>
    if ¬ (0 ≤ v ∧ v ≤ 255) then
      Noted.report
        (c.complaint (what ++ " is required to be within the range from 0 to 255"))
    pure (some (UInt8.ofNat (min v.toNat 255)))

/-- An opaque tint of three arguments. The first that cannot be read ends it. -/
def tintOf (c : RecordAt) (arguments : List String) : Noted (Option Rgba) :=
  match arguments with
  | red :: green :: blue :: _ => do
    let some r ← channel c "Red" red | pure none
    let some g ← channel c "Green" green | pure none
    let some b ← channel c "Blue" blue | pure none
    pure (some ⟨r, g, b, 255⟩)
  | _ => c.refuse "Three color components are expected"

/-- `0` for a needle and `1` for lamps. -/
def usesLamps (c : RecordAt) : Noted (Option Bool) := do
  match ← c.integer "Type" c.value with
  | none => pure none
  | some n =>
    if n = 0 then pure (some false)
    else if n = 1 then pure (some true)
    else c.refuse "Type is expected to be either 0 or 1"

/-- A unit from a table of names and factors. -/
def unitOf (table : List (List String × K)) (c : RecordAt) : Noted (Option K) :=
  match table.find? fun row => row.1.contains (Text.asciiLower c.value) with
  | some row => pure (some row.2)
  | none => c.refuse ("Unit " ++ c.value ++ " is not supported")

/-- A point field. -/
def pointField (keys : List String) (put : Option K × Option K → α → α) : Field α :=
  .keeping keys point put

/-- A number above zero. -/
def positiveField (keys : List String) (put : K → α → α) : Field α :=
  .testedNumber keys (fun x => decide (0.0 < x)) "Value is expected to be positive" put

/-- A tint field. -/
def tintField (keys : List String) (put : Rgba → α → α) : Field α :=
  .keeping keys (fun c => tintOf c (Argument.fields c.value)) put

end DriverDesk.Framed
