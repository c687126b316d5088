import DriverDesk.Host.FileTree
import DriverDesk.PanelFile.Format
import DriverDesk.PanelFile.Source
import DriverDesk.Texture

/-!
# Panels on disk

How the files around a panel are found: image references with separators of
either kind and in any letter case, the panel file of a train folder, and the
text of a panel file.
-/

namespace DriverDesk

/-- What there is to see of folders. -/
structure FolderView where
  /-- Whether a path leads to a regular file. -/
  isFile : Path → Bool
  /-- The names in a folder in the order they are listed, unless it cannot be read. -/
  list? : Path → Option (List String)

namespace FolderView

/-- The file of a name in a folder, in any ASCII letter case. The name as it is goes first,
and is found in a folder that cannot be read too. -/
def findFile (v : FolderView) (folder : Path) (name : String) : Option Path :=
  let direct := folder.join ⟨name⟩
  if v.isFile direct then some direct
  else do
    let names ← v.list? folder
    let found ← names.find? fun n =>
      v.isFile (folder.join ⟨n⟩) && Text.asciiLower n == Text.asciiLower name
    some (folder.join ⟨found⟩)

/-- The panel file of a train folder; a calibrated one goes first. -/
def locate (v : FolderView) (folder : Path) : Except PanelError (Path × PanelFormat) :=
  match v.findFile folder PanelFormat.calibrated.fileName with
  | some p => .ok (p, .calibrated)
  | none => match v.findFile folder PanelFormat.framed.fileName with
    | some p => .ok (p, .framed)
    | none => .error (.noPanelFile folder.text)

end FolderView

namespace Disk

/-- A reference with separators of this system. One that has the other kind loses
its empty and `.` parts as well. -/
def normalize (reference : Path) : Path :=
  let cs := reference.text.toList
  if !cs.contains '\\' then reference
  else
    let start : Path := match cs.head? with
      | some c => if c = '/' || c = '\\' then ⟨"/"⟩ else ⟨""⟩
      | none => ⟨""⟩
    let parts := (Text.pieces (fun c => c = '/' || c = '\\') cs).filter Path.counts
    parts.foldl (fun p part => p.join ⟨String.ofList part⟩) start

/-- The text of a component. -/
def componentText : Path.Component → List Char
  | .root => ['/']
  | .here => ['.']
  | .up => ['.', '.']
  | .name s => s

/-- Follow components from a folder, each to the first entry of its name in any
letter case. -/
def findAnyCase (t : FileTree) (folder : Path) : List Path.Component → Option Path
  | [] => some folder
  | c :: cs => do
    let wanted := Text.lower (String.ofList (componentText c))
    let names ← t.list? folder
    let name ← names.find? fun n => Text.lower n == wanted
    findAnyCase t (folder.join ⟨name⟩) cs

/-- The file a reference means: as it is written if that exists, and otherwise
whatever the letter case. -/
def combine (t : FileTree) (base reference : Path) : Path :=
  let reference := normalize reference
  if reference.isAbsolute then reference
  else
    let direct := base.join reference
    if t.has direct then direct
    else (findAnyCase t base reference.components).getD direct

/-- The files of a tree, with the stock images in a folder of their own. -/
def view (t : FileTree) (stockFolder : Path) : FileView where
  isFile := t.isFile
  resolve := combine t
  stockImage name := stockFolder.join ⟨name⟩

/-- The folders of a tree. Each of them can be listed. -/
def folders (t : FileTree) : FolderView := ⟨t.isFile, t.list?⟩

/-- The panel file of a train folder. -/
def locate (t : FileTree) (folder : Path) : Except PanelError (Path × PanelFormat) :=
  (folders t).locate folder

/-- The source of a panel file; images are relative to its folder. -/
def source (t : FileTree) (p : Path) (e : Text.Encoding) : Except PanelError PanelSource :=
  match t.read p with
  | .ok octets => .ok (.ofText p (p.parent?.getD ⟨""⟩) (e.decode octets))
  | .error .missing => .error (.notFound p.text)
  | .error f => .error (.io p.text f.message)

end Disk

end DriverDesk
