/-!
# JSON values

A JSON text as data. Whole numbers and other numbers are kept apart, and an
object keeps its members in the order, and as often, as they are written. What
is well formed and still has no value is kept as unreadable, so that a reader
who does not need it can pass over it.
-/

namespace DriverDesk

inductive Json where
  | null
  | bool (b : Bool)
  | int (n : Int)
  | real (x : Float)
  | str (s : String)
  | arr (items : List Json)
  | obj (members : List (String × Json))
  /-- A number out of range, a text with half a surrogate pair, or an object with
  such a name. -/
  | unreadable
  deriving Inhabited

namespace Json

/-- The value of the last member of a name. -/
def field? (name : String) : Json → Option Json
  | obj ms => (ms.findRev? fun m => m.1 == name).map (·.2)
  | _ => none

/-- A text, or `null` for none. -/
def ofText? : Option String → Json
  | some s => str s
  | none => null

def ofNat (n : Nat) : Json := int n

end Json

end DriverDesk
