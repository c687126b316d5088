import DriverDesk.Command.Grammar
import DriverDesk.Decimal.Numeral
import DriverDesk.PanelFile.Format

/-!
# Requests

What a command line asks for.
-/

namespace DriverDesk.Command

/-- What to compile, and how to report it. -/
structure CompileRequest where
  path : Path
  optionsFile? : Option Path
  /-- The format, where the name of the file is not to tell it. -/
  format? : Option PanelFormat
  car? : Option Nat
  /-- Whether an error of the panel is a failure. -/
  strict : Bool
  /-- Whether one line is enough. -/
  summary : Bool
  deriving Repr

/-- What help is about. -/
inductive Topic where
  | program
  | compile
  | locate
  | defaultOptions
  | help
  deriving DecidableEq, Repr

inductive Request where
  | help (topic : Topic)
  | version
  | compile (r : CompileRequest)
  | locate (folder : Path)
  | defaultOptions
  deriving Repr

namespace Request

/-- A path may not be empty. -/
def path? (s : String) : Option Path := if s.isEmpty then none else some ⟨s⟩

/-- The names command lines give to formats. -/
def format? : String → Option PanelFormat
  | "calibrated" => some .calibrated
  | "legacy" => some .framed
  | _ => none

/-- Fill a place that is empty so far. -/
def fill? {β : Type} (old new : Option β) : Option (Option β) :=
  if old.isSome || new.isNone then none else some new

/-- The arguments of a compile, of which the path may still be missing. -/
structure CompileArguments where
  path? : Option Path
  optionsFile? : Option Path
  format? : Option PanelFormat
  car? : Option Nat
  strict : Bool
  summary : Bool

def compileGrammar : Grammar CompileArguments where
  switches :=
    [⟨"strict", fun a => if a.strict then none else some { a with strict := true }⟩,
     ⟨"summary", fun a => if a.summary then none else some { a with summary := true }⟩]
  settings :=
    [⟨"options", some 'o', fun v a => do
        some { a with optionsFile? := ← fill? a.optionsFile? (path? v) }⟩,
     ⟨"format", none, fun v a => do some { a with format? := ← fill? a.format? (format? v) }⟩,
     ⟨"car", none, fun v a => do
        some { a with car? := ← fill? a.car? (Numeral.natBelow? (twoTo 64) v) }⟩]
  operand v a := do some { a with path? := ← fill? a.path? (path? v) }

/-- A command with a path as its only argument. -/
def pathGrammar : Grammar (Option Path) := ⟨[], [], fun v a => fill? a (path? v)⟩

/-- A command without arguments. -/
def emptyGrammar : Grammar Unit := ⟨[], [], fun _ _ => none⟩

/-- The request of a command, from what its line says. -/
def ofReading? {α : Type} (topic : Topic) (request? : α → Option Request) :
    Reading α → Option Request
  | .help => some (help topic)
  | .arguments a => request? a

/-- Read the arguments of a command. -/
def ofCommand? (command : String) (words : List String) : Option Request :=
  match command with
  | "compile" => do
    let r ← compileGrammar.read words ⟨none, none, none, none, false, false⟩
    ofReading? .compile (fun a => a.path?.map fun p =>
      compile ⟨p, a.optionsFile?, a.format?, a.car?, a.strict, a.summary⟩) r
  | "locate" => do
    let r ← pathGrammar.read words none
    ofReading? .locate (fun a => a.map locate) r
  | "default-options" => do
    let r ← emptyGrammar.read words ()
    ofReading? .defaultOptions (fun _ => some defaultOptions) r
  | "help" =>
    match words with
    | [] => some (help .program)
    | ["compile"] => some (help .compile)
    | ["locate"] => some (help .locate)
    | ["default-options"] => some (help .defaultOptions)
    | ["help"] => some (help .help)
    | _ => none
  | _ => none

/-- The request of a command line; none for one that makes no sense. -/
def ofArguments? : List String → Option Request
  | [] => none
  | w :: ws =>
    match Argument.ofWord w with
    | .operand => ofCommand? w ws
    | .long "help" none => some (help .program)
    | .long "version" none => some version
    | .short 'h' _ => some (help .program)
    | .short 'V' _ => some version
    | _ => none

end Request

end DriverDesk.Command
