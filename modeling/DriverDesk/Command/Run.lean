import DriverDesk.Command.Help
import DriverDesk.Host.Disk
import DriverDesk.Host.ImageFiles
import DriverDesk.Host.OptionsFile
import DriverDesk.Report.Outcome

/-!
# The command

What the command answers to its arguments, in a tree of files.
-/

namespace DriverDesk.Command

/-- What a run of the command ends with. -/
structure Reply where
  /-- Zero for success, one for a failure, two for a command line that makes no sense. -/
  code : Nat
  /-- What is printed. -/
  out : String
  /-- What went wrong. -/
  error? : Option String
  deriving Repr

namespace Reply

def ok (out : String) : Reply := ⟨0, out, none⟩

def failure (out message : String) : Reply := ⟨1, out, some message⟩

/-- A reply, or the message of what kept it away. -/
def ofExcept : Except String Reply → Reply
  | .ok r => r
  | .error message => failure "" message

end Reply

/-- The options of a request. -/
def requestOptions (t : FileTree) (r : CompileRequest) : Except String (Options Float) := do
  let options ← match r.optionsFile? with
    | none => .ok Options.standard
    | some p => (OptionsFile.load t p).mapError fun _ => "loading options " ++ p.text
  .ok { options with car := r.car?.getD options.car }

/-- The panel file a path means, and its format: a folder means the panel it holds. -/
def panelAt (t : FileTree) (p : Path) : Except PanelError (Path × PanelFormat) :=
  if t.isFolder p then Disk.locate t p else .ok (p, .ofPathD p)

/-- The summary of a compile on one line. -/
def summaryLine (panel : Path) (elements textures errors diagnostics : Nat) : String :=
  panel.text ++ ": " ++ toString elements ++ " elements, " ++ toString textures ++ " textures, "
    ++ toString errors ++ " errors, " ++ toString diagnostics ++ " diagnostics\n"

/-- Compile a panel and report it, with a store of textures that is empty at first. The
report shows no other car than the one that receives the elements, so a table of one car
will do. -/
def compileReply (t : FileTree) (store : TextureStore (List Registered)) (r : CompileRequest) :
    Except String Reply := do
  let options ← requestOptions t r
  let (panel, detected) ← (panelAt t r.path).mapError PanelError.message
  let format := r.format?.getD detected
  let source ← (Disk.source t panel options.encoding).mapError PanelError.message
  let c := compileAs format source options (Disk.view t options.stockFolder) store
    Signal.never []
  let (outcome, cars) := c.commit (Cars.empty 1) 0
  let textures := c.bench.textures
  let diagnostics := c.bench.diagnostics
  let errors := diagnostics.countP fun d => d.severity == .error
  let out :=
    if r.summary then
      summaryLine panel outcome.elementsAdded textures.length errors diagnostics.length
    else
      (Report.panel panel format outcome (cars.elements 0) textures diagnostics).pretty
        ++ "\n"
  if r.strict && errors > 0 then
    .ok (.failure out (panel.text ++ " reported " ++ toString errors ++ " errors"))
  else .ok (.ok out)

/-- Tell which panel file a folder uses. -/
def locateReply (t : FileTree) (folder : Path) : Except String Reply := do
  let (p, format) ← (Disk.locate t folder).mapError PanelError.message
  .ok (.ok (p.text ++ " (" ++ format.name ++ ")\n"))

/-- Answer a request. -/
def answer (t : FileTree) (store : TextureStore (List Registered)) : Request → Reply
  | .help topic => .ok topic.text
  | .version => .ok versionText
  | .compile r => .ofExcept (compileReply t store r)
  | .locate folder => .ofExcept (locateReply t folder)
  | .defaultOptions => .ok ((Options.standard : Options Float).text ++ "\n")

/-- Answer a command line. Only here is it settled what reads the headers of images. -/
def run (t : FileTree) (arguments : List String) : Reply :=
  match Request.ofArguments? arguments with
  | some r => answer t (ImageStore.ofTree t) r
  | none => ⟨2, "", some "the arguments make no sense"⟩

end DriverDesk.Command
