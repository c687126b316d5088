import DriverDesk.Path
import DriverDesk.Text.Lowercase

/-!
# Panel formats

The two formats of panel files, told apart by the name of the file, and the
errors that keep a panel from being compiled at all.
-/

namespace DriverDesk

/-- The format of a panel file. -/
inductive PanelFormat where
  /-- The panel brings its own calibration. -/
  | calibrated
  /-- The panel is drawn in the fixed frame. -/
  | framed
  deriving DecidableEq, Repr, Inhabited

/-- What keeps a panel from being compiled. -/
inductive PanelError where
  | io (path message : String)
  | notFound (path : String)
  | noPanelFile (folder : String)
  | unknownFormat (path : String)
  | invalidOptions (path message : String)
  deriving DecidableEq, Repr

namespace PanelFormat

/-- The name reports give to a format. -/
def name : PanelFormat → String
  | calibrated => "Calibrated"
  | framed => "Legacy"

/-- The file a format is kept in. -/
def fileName : PanelFormat → String
  | calibrated => "panel2.cfg"
  | framed => "panel.cfg"

/-- The format of a file, by its name in any letter case. -/
def ofPath? (p : Path) : Option PanelFormat :=
  let name := match p.fileName? with
    | some s => Text.lower (String.ofList s)
    | none => ""
  [calibrated, framed].find? fun f => f.fileName == name

/-- The format of a file; an unusual name means a calibrated panel. -/
def ofPathD (p : Path) : PanelFormat := (ofPath? p).getD .calibrated

end PanelFormat

namespace PanelError

def message : PanelError → String
  | io path reason => "I/O error reading '" ++ path ++ "': " ++ reason
  | notFound path => "Panel file not found: '" ++ path ++ "'"
  | noPanelFile folder => "No panel configuration found in '" ++ folder ++ "'"
  | unknownFormat path => "Unrecognised panel file name: '" ++ path ++ "'"
  | invalidOptions path reason => "Invalid compile options in '" ++ path ++ "': " ++ reason

end PanelError

/-- The format of a file, or why there is none. -/
def PanelFormat.ofPath (p : Path) : Except PanelError PanelFormat :=
  match PanelFormat.ofPath? p with
  | some f => .ok f
  | none => .error (.unknownFormat p.text)

end DriverDesk
