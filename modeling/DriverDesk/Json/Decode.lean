import DriverDesk.Json.Basic
import DriverDesk.Path

/-!
# Values out of JSON

How records of known members are read. A record is an object, whose members may
stand in any order and be left out, or an array of the members' values from the
first on. Members of other names are passed over; a known one may not be given
twice.
-/

namespace DriverDesk.Json

/-- A member of a record: its name, and how its value changes the record. -/
structure Member (α : Type) where
  name : String
  read : Json → α → Option α

namespace Member

variable {α β : Type}

/-- A member that is read on its own and then put into the record. -/
def of (name : String) (read : Json → Option β) (put : β → α → α) : Member α :=
  ⟨name, fun v a => (read v).map (put · a)⟩

/-- A member that is read on top of what the record has. -/
def within (name : String) (get : α → β) (read : Json → β → Option β) (put : β → α → α) :
    Member α :=
  ⟨name, fun v a => (read v (get a)).map (put · a)⟩

end Member

/-- Whether a name is given at most once. -/
def givenOnce (members : List (String × Json)) (name : String) : Bool :=
  members.countP (fun m => m.1 == name) ≤ 1

/-- Read a record on top of another. -/
def record {α : Type} (known : List (Member α)) : Json → α → Option α
  | obj members, a =>
    if known.all fun k => givenOnce members k.name then
      members.foldlM (fun a m => match known.find? fun k => k.name == m.1 with
        | some k => k.read m.2 a
        | none => some a) a
    else none
  | arr items, a =>
    if items.length ≤ known.length then
      (items.zip known).foldlM (fun a p => p.2.read p.1 a) a
    else none
  | _, _ => none

/-- Whether a value can be read to its leaves, and nests arrays and objects no
deeper than a depth. -/
def isReadable : Nat → Json → Bool
  | _, unreadable => false
  | 0, arr _ | 0, obj _ => false
  | depth + 1, arr items => items.all (isReadable depth)
  | depth + 1, obj members => members.all fun m => isReadable depth m.2
  | _, _ => true

/-- The kind of a value that a member of its own tells, and the rest of the value.
In an array the kind stands first. -/
def tagged? (name : String) : Json → Option (String × Json)
  | obj members => do
    let [(_, str kind)] := members.filter fun m => m.1 == name | none
    some (kind, obj (members.filter fun m => m.1 != name))
  | arr (str kind :: items) => some (kind, arr items)
  | _ => none

/-- A name out of a list of choices: a text, or an object that gives it nothing. -/
def choice? {α : Type} (ofName? : String → Option α) : Json → Option α
  | str s => ofName? s
  | obj [(s, null)] => ofName? s
  | _ => none

/-- A natural number below a bound. -/
def natBelow? (bound : Nat) : Json → Option Nat
  | int n => if 0 ≤ n ∧ n < bound then some n.toNat else none
  | _ => none

/-- A number. -/
def number? : Json → Option Float
  | int n => some (Float.ofInt n)
  | real x => some x
  | _ => none

def bool? : Json → Option Bool
  | bool b => some b
  | _ => none

def text? : Json → Option String
  | str s => some s
  | _ => none

end DriverDesk.Json
