import DriverDesk.Host.FileTree
import DriverDesk.Options.Reading
import DriverDesk.Options.Writing
import DriverDesk.PanelFile.Format
import DriverDesk.Text.Utf8

/-!
# Options files

Options kept in a file of a tree.
-/

namespace DriverDesk.OptionsFile

/-- The options of a file. -/
def load (t : FileTree) (p : Path) : Except PanelError (Options Float) :=
  match t.read p with
  | .error f => .error (.io p.text f.message)
  | .ok octets =>
    match Text.Utf8.read? octets with
    | none => .error (.io p.text "stream did not contain valid UTF-8")
    | some text =>
      match Json.read? (String.ofList text) with
      | none => .error (.invalidOptions p.text "the text is no JSON value")
      | some v =>
        match Options.ofJson? v with
        | some o => .ok o
        | none => .error (.invalidOptions p.text "the value is no set of options")

/-- The tree with a file of the options. -/
def save (t : FileTree) (p : Path) (o : Options Float) : Except PanelError FileTree :=
  match t.write p o.text.toUTF8.toList with
  | .ok t => .ok t
  | .error f => .error (.io p.text f.message)

end DriverDesk.OptionsFile
