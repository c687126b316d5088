import DriverDesk.Text.Line
import DriverDesk.Text.Lowercase

/-!
# Sections

The lines of a panel file in sections. A line `[name]` opens a section, a line
with an equals sign is a record of the open section, and any other line within a
section is passed over. What stands in front of the first section is kept apart.
-/

namespace DriverDesk

/-- A `key = value` line. -/
structure Record where
  key : String
  value : String
  /-- Counted from one. -/
  line : Nat
  deriving DecidableEq, Repr, Inhabited

/-- A `[name]` line and what follows it up to the next. -/
structure Section where
  name : String
  /-- The line of the header, counted from one. -/
  line : Nat
  /-- The lines it covers, counted from zero: from `start` up to before `stop`. -/
  start : Nat
  stop : Nat
  records : List Record
  deriving DecidableEq, Repr, Inhabited

/-- A panel file by sections. -/
structure Sections where
  /-- The lines in front of the first section that are not empty, with their numbers. -/
  preamble : List (Nat × String)
  sections : List Section
  deriving DecidableEq, Repr, Inhabited

namespace Record

/-- The key in the form that fields are looked up by. -/
def lowerKey (r : Record) : String := Text.lower r.key

end Record

namespace Section

/-- The name in the form that sections are told apart by. -/
def lowerName (s : Section) : String := Text.lower s.name

/-- The name on a header line: between a bracket at its start and the only
closing bracket at its end. -/
def header? (line : List Char) : Option (List Char) :=
  match Text.trim line with
  | '[' :: r =>
    match Text.cut? ']' r with
    | some (inner, []) => some (Text.trim inner)
    | _ => none
  | _ => none

end Section

namespace Record

/-- The key and the value around the first equals sign of a line. -/
def ofLine? (line : List Char) : Option (List Char × List Char) :=
  (Text.cut? '=' line).map fun p => (Text.trim p.1, Text.trim p.2)

end Record

namespace Sections

/-- What a line of a panel file is. -/
inductive Line where
  | empty
  | header (name : String)
  | record (key value : String)
  | other
  deriving DecidableEq, Repr

def classify (line : String) : Line :=
  if line.isEmpty then .empty
  else match Section.header? line.toList with
    | some n => .header (String.ofList n)
    | none => match Record.ofLine? line.toList with
      | some (k, v) => .record (String.ofList k) (String.ofList v)
      | none => .other

/-- The lines from one index on, cut at their headers. -/
structure Cut where
  /-- The records in front of the first header. -/
  records : List Record
  /-- The index of the first header, or of the end. -/
  next : Nat
  sections : List Section

/-- Cut lines at their headers; `i` is the index of the first line. -/
def cutFrom (i : Nat) : List String → Cut
  | [] => ⟨[], i, []⟩
  | l :: ls =>
    let after := cutFrom (i + 1) ls
    match classify l with
    | .header name => ⟨[], i, ⟨name, i + 1, i, after.next, after.records⟩ :: after.sections⟩
    | .record key value => { after with records := ⟨key, value, i + 1⟩ :: after.records }
    | _ => after

/-- The lines in front of the first header that are not empty. -/
def preambleOf (i : Nat) : List String → List (Nat × String)
  | [] => []
  | l :: ls =>
    match classify l with
    | .header _ => []
    | .empty => preambleOf (i + 1) ls
    | _ => (i + 1, l) :: preambleOf (i + 1) ls

/-- The sections of a file's lines. -/
def ofLines (lines : List String) : Sections := ⟨preambleOf 0 lines, (cutFrom 0 lines).sections⟩

end Sections

end DriverDesk
