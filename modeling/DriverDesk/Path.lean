import DriverDesk.Text.Line

/-!
# File paths

A path is a text with `/` between its components. Texts are kept as written:
`components` says which file a path means, and two paths are the same when
their components are equal. Repeated and trailing separators do not count, nor
does a `.` that is not the first component of a relative path.
-/

namespace DriverDesk

/-- A path as written. -/
structure Path where
  text : String
  deriving DecidableEq, Repr, Inhabited

namespace Path

/-- A component of a path. -/
inductive Component where
  | root
  | here
  | up
  | name (s : List Char)
  deriving DecidableEq, Repr

def isAbsolute (p : Path) : Bool := p.text.toList.head? == some '/'

/-- The part in front of the first segment: the root, a leading `.`, or nothing. -/
def lead (cs : List Char) : List Char × List Char :=
  match cs with
  | '/' :: r => (['/'], r)
  | ['.'] => (['.'], [])
  | '.' :: '/' :: r => (['.'], '/' :: r)
  | _ => ([], cs)

/-- Whether a segment between separators is a component. -/
def counts (segment : List Char) : Bool := segment != [] && segment != ['.']

def segments (cs : List Char) : List (List Char) := Text.pieces (· == '/') cs

/-- Drop the segments at the end that are no components. -/
def settle (segs : List (List Char)) : List (List Char) :=
  (segs.reverse.dropWhile fun s => !counts s).reverse

/-- Write segments with separators between them. -/
def joinSegments : List (List Char) → List Char
  | [] => []
  | [s] => s
  | s :: ss => s ++ '/' :: joinSegments ss

def componentOf (segment : List Char) : Component :=
  if segment = ['.', '.'] then .up else .name segment

/-- The components a path means. -/
def components (p : Path) : List Component :=
  let (front, body) := lead p.text.toList
  let first := match front with
    | ['/'] => [.root]
    | ['.'] => [.here]
    | _ => []
  first ++ ((segments body).filter counts).map componentOf

/-- Whether two paths have equal components. -/
def same (p q : Path) : Bool := p.components = q.components

/-- The last component, if it is a name. -/
def fileName? (p : Path) : Option (List Char) :=
  match p.components.getLast? with
  | some (.name s) => some s
  | _ => none

/-- The path without its last component; none for the root and the empty path. -/
def parent? (p : Path) : Option Path :=
  let (front, body) := lead p.text.toList
  match settle (segments body) with
  | [] => if front = ['.'] then some ⟨""⟩ else none
  | segs => some ⟨String.ofList (front ++ joinSegments (settle segs.dropLast))⟩

/-- The text after the last point of a file name, unless that is its first
character and only point. -/
def extensionOf? (name : List Char) : Option (List Char) :=
  match Text.cut? '.' name.reverse with
  | some (_, []) | none => none
  | some (ext, _) => some ext.reverse

/-- The extension of the file name. -/
def extension? (p : Path) : Option (List Char) := p.fileName?.bind extensionOf?

/-- Add an extension to a path that has a file name without one; what stands
behind the file name is dropped. -/
def defaultExtension (ext : String) (p : Path) : Path :=
  match p.fileName? with
  | none => p
  | some name =>
    if (extensionOf? name).isSome then p
    else
      let (front, body) := lead p.text.toList
      ⟨String.ofList (front ++ joinSegments (settle (segments body)) ++ '.' :: ext.toList)⟩

/-- A path read relative to another. An absolute path stands for itself. -/
def join (base relative : Path) : Path :=
  if relative.isAbsolute then relative
  else if base.text.isEmpty || base.text.toList.getLast? == some '/' then
    ⟨base.text ++ relative.text⟩
  else ⟨base.text ++ "/" ++ relative.text⟩

/-- The file name, or the whole path when it has none. -/
def displayName (p : Path) : String :=
  match p.fileName? with
  | some s => String.ofList s
  | none => p.text

end Path

end DriverDesk
