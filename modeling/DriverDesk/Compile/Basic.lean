import DriverDesk.Compile.Plan
import DriverDesk.Compile.Walk
import DriverDesk.PanelFile.Source

/-!
# Compiling a panel

A compile reads the preamble and the headers of a panel, and then walks its
sections in the order of the file, building each one it comes to the end of. A
compile that is stopped has built the sections before the stop, each of them
whole.
-/

namespace DriverDesk

/-- What becomes of a panel. -/
structure Compilation (K σ : Type) where
  camera : Camera K
  /-- The steps of each section that was built. -/
  batches : List (List (Step K))
  calls : List SignalCall
  cancelled : Bool
  /-- What is left on the bench. -/
  bench : Bench σ

/-- The part of a compilation that a caller keeps. -/
structure Outcome (K : Type) where
  camera : Camera K
  elementsAdded : Nat
  cancelled : Bool

namespace Compilation

variable {K σ : Type} [Arith K]

/-- Drop the equals signs and blanks in front of a version. -/
def versionText (cs : List Char) : List Char :=
  cs.dropWhile fun c => c = '=' || Text.isBlank c

/-- What is wrong with a line in front of the first section: anything but the
version 1.0. -/
def preambleDiagnostic? (fileName : String) (line : Nat) (text : String) : Option Diagnostic :=
  let location : Location := ⟨fileName, none, none, some line⟩
  match Text.after? "version" (Text.asciiLower text) with
  | some rest =>
    let version := String.ofList (versionText rest.toList)
    match Numeral.lenient? version with
    | some d =>
      if d.toFloat == 1.0 then none
      else some (.ofKind .format ("The version " ++ version ++ " is not supported") location)
    | none => some (.ofKind .format ("The version " ++ version ++ " is not supported") location)
  | none =>
    some (Diagnostic.ofKind .format
      ("Unexpected line before the first section: " ++ text) location).asWarning

/-- The diagnostics of the lines in front of the first section. -/
def preambleDiagnostics (fileName : String) (preamble : List (Nat × String)) : List Diagnostic :=
  preamble.filterMap fun p => preambleDiagnostic? fileName p.1 p.2

/-- What the walk over the sections gives. -/
structure Walked (K : Type) where
  batches : List (List (Step K))
  calls : List SignalCall
  cancelled : Bool

/-- Walk the sections and build each after its lines. -/
def runParts (signal : Signal) (total : Nat) :
    List (Section × Build K σ (List (Step K))) → Build K σ (Walked K)
  | [] => pure ⟨[], [], false⟩
  | (s, build) :: rest => do
    let (calls, ended) := signal.walk total s.start (s.stop - s.start)
    if ended then
      let steps ← build
      let after ← runParts signal total rest
      pure ⟨steps :: after.batches, calls ++ after.calls, after.cancelled⟩
    else pure ⟨[], calls, true⟩

/-- Walk the lines in front of the first section, and then the sections. -/
def run (signal : Signal) (total : Nat) (parts : List (Section × Build K σ (List (Step K)))) :
    Build K σ (Walked K) := do
  let first := match parts with
    | [] => total
    | (s, _) :: _ => s.start
  let (calls, ended) := signal.walk total 0 first
  if ended then
    let walked ← runParts signal total parts
    pure { walked with calls := calls ++ walked.calls }
  else pure ⟨[], calls, true⟩

/-- Read the preamble and the headers, and walk the sections. -/
def body (format : PanelFormat) (source : PanelSource) (signal : Signal) :
    Build K σ (Camera K × Walked K) := do
  let parts := Sections.ofLines source.lines
  Build.take ⟨(), preambleDiagnostics source.fileName parts.preamble⟩
  let plan ← Plan.make format parts.sections
  let walked ← run signal source.lines.length plan.parts
  pure (plan.camera, walked)

end Compilation

/-- Compile a panel of a given format, starting from a state of the store. -/
def compileAs {K σ : Type} [Arith K] (format : PanelFormat) (source : PanelSource)
    (options : Options K) (files : FileView) (store : TextureStore σ) (signal : Signal)
    (textures : σ) : Compilation K σ :=
  let env : BuildEnv K σ :=
    ⟨⟨source.fileName, source.trainFolder, files⟩, store, options⟩
  let ((camera, walked), bench) :=
    Compilation.body format source signal env ⟨textures, [], []⟩
  ⟨camera, walked.batches, walked.calls, walked.cancelled, bench⟩

/-- Compile a panel in the format its name stands for. -/
def compile {K σ : Type} [Arith K] (source : PanelSource) (options : Options K)
    (files : FileView) (store : TextureStore σ) (signal : Signal) (textures : σ) :
    Compilation K σ :=
  compileAs (.ofPathD source.path) source options files store signal textures

namespace Compilation

variable {K σ : Type}

/-- Put what was built into a car. -/
def commit (c : Compilation K σ) (cars : Cars K) (car : Nat) : Outcome K × Cars K :=
  let (added, cars) := cars.applyAll car c.batches
  (⟨c.camera, added, c.cancelled⟩, cars)

end Compilation

end DriverDesk
