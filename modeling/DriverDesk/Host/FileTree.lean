import DriverDesk.Path
import DriverDesk.Text.Line

/-!
# File trees

Files and folders as a value, and the rules by which a path finds its way
through them: an absolute path starts at the root, any other at a working
folder; `..` leads to the folder above; nothing follows a file, not even a
separator. Names and paths have a greatest length.
-/

namespace DriverDesk

/-- A file or a folder. -/
inductive FileNode where
  | file (octets : List UInt8)
  /-- The entries in the order they are listed. -/
  | folder (entries : List (String × FileNode))
  deriving Inhabited

/-- Why a path leads nowhere. -/
inductive Fault where
  | missing
  | notFolder
  | isFolder
  /-- A name or a path no file can have. -/
  | badName
  deriving DecidableEq, Repr

/-- A tree and the place relative paths start at. -/
structure FileTree where
  root : FileNode
  /-- The working folder, as names from the root downwards. -/
  working : List String

namespace Fault

def message : Fault → String
  | missing => "No such file or directory (os error 2)"
  | notFolder => "Not a directory (os error 20)"
  | isFolder => "Is a directory (os error 21)"
  | badName => "File name too long (os error 36)"

end Fault

namespace FileNode

def isFolder : FileNode → Bool
  | folder _ => true
  | file _ => false

def entries : FileNode → List (String × FileNode)
  | folder es => es
  | file _ => []

/-- The entry of a name. -/
def child? (n : FileNode) (name : String) : Option FileNode :=
  (n.entries.find? fun e => e.1 == name).map (·.2)

/-- The node at a place below another. -/
def at? (n : FileNode) : List String → Option FileNode
  | [] => some n
  | name :: names => do
    let c ← n.child? name
    c.at? names

/-- Put an entry in place of the one with its name, or behind the others. -/
def setEntry (es : List (String × FileNode)) (name : String) (child : FileNode) :
    List (String × FileNode) :=
  if es.any fun e => e.1 == name then
    es.map fun e => if e.1 == name then (name, child) else e
  else es ++ [(name, child)]

/-- Put a node at a place below another, making the folders on the way. -/
def put (n : FileNode) : List String → FileNode → FileNode
  | [], new => new
  | name :: names, new =>
    let below := (n.child? name).getD (folder [])
    folder (setEntry n.entries name (below.put names new))

end FileNode

namespace FileTree

/-- Whether a name is one a file can have. -/
def usable (name : String) : Bool := name.utf8ByteSize ≤ 255

/-- Whether a path is one a file can have. -/
def allows (p : Path) : Bool := p.text.utf8ByteSize < 4096 && !p.text.toList.contains '\x00'

/-- Follow one segment of a path from a place, which is given as names from the
node upwards. -/
def step (t : FileTree) (place : List String) (segment : String) :
    Except Fault (List String) :=
  match t.root.at? place.reverse with
  | none => .error .missing
  | some node =>
    if !node.isFolder then .error .notFolder
    else if segment = "" ∨ segment = "." then .ok place
    else if segment = ".." then .ok place.tail
    else if !usable segment then .error .badName
    else match node.child? segment with
      | some _ => .ok (segment :: place)
      | none => .error .missing

/-- Follow segments one after the other. -/
def walk (t : FileTree) (place : List String) : List String → Except Fault (List String)
  | [] => .ok place
  | s :: ss => do
    let next ← t.step place s
    t.walk next ss

def segmentsOf (p : Path) : List String :=
  (Path.segments p.text.toList).map String.ofList

/-- Where a path starts: at the root or in the working folder. -/
def startOf (t : FileTree) (p : Path) : List String :=
  if p.isAbsolute then [] else t.working.reverse

/-- The place a path leads to, as names from the node upwards. -/
def resolve (t : FileTree) (p : Path) : Except Fault (List String) :=
  if !allows p then .error .badName
  else if p.text.isEmpty then .error .missing
  else t.walk (t.startOf p) (segmentsOf p)

/-- The node a path leads to. -/
def node (t : FileTree) (p : Path) : Except Fault FileNode := do
  let place ← t.resolve p
  match t.root.at? place.reverse with
  | some n => .ok n
  | none => .error .missing

def has (t : FileTree) (p : Path) : Bool := (t.node p).isOk

def isFile (t : FileTree) (p : Path) : Bool :=
  match t.node p with
  | .ok (.file _) => true
  | _ => false

def isFolder (t : FileTree) (p : Path) : Bool :=
  match t.node p with
  | .ok (.folder _) => true
  | _ => false

/-- The octets of a file. -/
def read (t : FileTree) (p : Path) : Except Fault (List UInt8) := do
  match ← t.node p with
  | .file octets => .ok octets
  | .folder _ => .error .isFolder

/-- The names in a folder. -/
def list? (t : FileTree) (p : Path) : Option (List String) :=
  match t.node p with
  | .ok (.folder es) => some (es.map (·.1))
  | _ => none

/-- The tree with a file written. The folder it is in must be there. -/
def write (t : FileTree) (p : Path) (octets : List UInt8) : Except Fault FileTree := do
  let segments := segmentsOf p
  let name := segments.getLastD ""
  if !allows p then .error .badName
  else if p.text.isEmpty then .error .missing
  else if name = "" ∨ name = "." ∨ name = ".." then .error .isFolder
  else if !usable name then .error .badName
  else
    let folder ← t.walk (t.startOf p) segments.dropLast
    match t.root.at? folder.reverse with
    | some (.folder es) =>
      match (FileNode.folder es).child? name with
      | some (.folder _) => .error .isFolder
      | _ => .ok { t with root := t.root.put (name :: folder).reverse (.file octets) }
    | some (.file _) => .error .notFolder
    | none => .error .missing

end FileTree

end DriverDesk
