import DriverDesk.Decimal.Power
import DriverDesk.Json.Decode
import DriverDesk.Json.Reader
import DriverDesk.Options

/-!
# Reading options

Options as JSON. What is left out keeps its standard value.
-/

namespace DriverDesk.Options

open Json (Member)

/-- The members of the screen. -/
def viewportMembers : List (Member (Viewport Float)) :=
  [.of "aspect_ratio" Json.number? fun x v => { v with aspect := x },
   .of "horizontal_half_fov" Json.number? fun x v => { v with horizontalHalf := x },
   .of "vertical_half_fov" Json.number? fun x v => { v with verticalHalf := x }]

/-- A vector of exactly three numbers. -/
def vector? : Json → Option (Vec Float)
  | .arr [x, y, z] => do some ⟨← x.number?, ← y.number?, ← z.number?⟩
  | _ => none

/-- The members of a handle with notches: their number has to be given. -/
def notchMembers : List (Member (Option Nat × Bool)) :=
  [.of "max_notch" (Json.natBelow? (twoTo 32)) fun n h => (some n, h.2),
   .of "hold_brake" Json.bool? fun b h => (h.1, b)]

/-- How deep a value may nest arrays and objects. -/
def deepest : Nat := 127

/-- A brake handle, which tells its type. The whole of it is read before its type
is looked for, so all of it has to be readable. It lies two levels deep. -/
def brake? (v : Json) : Option BrakeHandle := do
  guard (v.isReadable (deepest - 2))
  match ← v.tagged? "type" with
  | ("automatic_air", .arr (_ :: _)) => none
  | ("automatic_air", _) => some .automaticAir
  | ("notched", rest) => do
    let (some n, hold) ← Json.record notchMembers rest (none, false) | none
    some (.notched n hold)
  | _ => none

/-- The members of the train. -/
def trainMembers : List (Member (Options Float)) :=
  [.of "cars" (Json.natBelow? (twoTo 64)) fun n o => { o with cars := n },
   .of "brake" brake? fun b o => { o with brake := b }]

/-- The members of the options. -/
def members : List (Member (Options Float)) :=
  [.within "viewport" (·.viewport) (Json.record viewportMembers)
     fun v o => { o with viewport := v },
   .of "driver" vector? fun d o => { o with driver := d },
   .of "car" (Json.natBelow? (twoTo 64)) fun n o => { o with car := n },
   .within "train" id (Json.record trainMembers) fun t o => { o with cars := t.cars, brake := t.brake },
   .of "compatibility_folder" Json.text? fun s o => { o with stockFolder := ⟨s⟩ },
   .of "encoding" (Json.choice? Text.Encoding.ofName?) fun e o => { o with encoding := e }]

/-- The options that a JSON value stands for. -/
def ofJson? (v : Json) : Option (Options Float) := Json.record members v standard

end DriverDesk.Options
