import DriverDesk.Path
import DriverDesk.Text.Encoding
import DriverDesk.Text.Line

/-!
# Panel sources

The text of a panel file as clean lines: without blanks at the ends, and without
the comment that begins at the first semicolon. A line keeps its number, so a
line that only holds a comment becomes an empty one.
-/

namespace DriverDesk

/-- A panel file, ready to be divided into sections. -/
structure PanelSource where
  path : Path
  /-- The folder that image references are relative to. -/
  trainFolder : Path
  /-- The clean lines; the first has the number one. -/
  lines : List String
  deriving Repr, Inhabited

namespace PanelSource

/-- A line without comment and without blanks at its ends. -/
def cleanLine (cs : List Char) : List Char :=
  let cs := Text.trim cs
  match Text.cut? ';' cs with
  | some (before, _) => Text.trimEnd before
  | none => cs

/-- The source of a text. -/
def ofText (path trainFolder : Path) (content : String) : PanelSource :=
  ⟨path, trainFolder, (Text.lines content.toList).map fun l => String.ofList (cleanLine l)⟩

/-- The name diagnostics give to the file. -/
def fileName (s : PanelSource) : String := s.path.displayName

end PanelSource

end DriverDesk
