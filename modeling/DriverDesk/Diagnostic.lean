/-!
# Diagnostics

What is wrong with a panel file, and where. A problem never ends a compile: it
becomes a diagnostic, and the value or the instrument it concerns is left out.
-/

namespace DriverDesk

inductive Severity where
  | information
  | warning
  | error
  deriving DecidableEq, Repr

/-- What a diagnostic is about. -/
inductive DiagnosticKind where
  /-- A malformed value; the field keeps what it had. -/
  | field
  /-- A section that cannot be built as asked. -/
  | element
  /-- A missing image. -/
  | resource
  /-- A line in front of the first section. -/
  | format
  deriving DecidableEq, Repr

/-- A place in a panel file. -/
structure Location where
  file : String
  sectionName? : Option String
  key? : Option String
  /-- Counted from one. -/
  line? : Option Nat
  deriving DecidableEq, Repr

structure Diagnostic where
  severity : Severity
  /-- Whether it is shown even when nothing else is. -/
  critical : Bool
  kind : DiagnosticKind
  message : String
  location : Location
  deriving DecidableEq, Repr

namespace Severity

def name : Severity → String
  | information => "Information"
  | warning => "Warning"
  | error => "Error"

end Severity

namespace DiagnosticKind

def name : DiagnosticKind → String
  | field => "Field"
  | element => "Element"
  | resource => "Resource"
  | format => "Format"

def ofName? (s : String) : Option DiagnosticKind :=
  [field, element, resource, format].find? fun k => k.name == s

end DiagnosticKind

namespace Location

/-- The key, section and line that are known, and the file. -/
def describe (l : Location) : String :=
  let key := match l.key? with
    | some k => "in " ++ k ++ " "
    | none => ""
  let sec := match l.sectionName? with
    | some s => "in [" ++ s ++ "] "
    | none => ""
  let line := match l.line? with
    | some n => "at line " ++ toString n ++ " "
    | none => ""
  key ++ sec ++ line ++ "in " ++ l.file

end Location

namespace Diagnostic

/-- An error of a kind; a missing image is critical, nothing else is. -/
def ofKind (kind : DiagnosticKind) (message : String) (location : Location) : Diagnostic :=
  ⟨.error, kind == .resource, kind, message, location⟩

/-- The diagnostic as a warning. -/
def asWarning (d : Diagnostic) : Diagnostic := { d with severity := .warning }

/-- The message and where it points. -/
def describe (d : Diagnostic) : String := d.message ++ " " ++ d.location.describe

end Diagnostic

/-- A value together with the diagnostics its making reported. -/
structure Noted (α : Type) where
  value : α
  notes : List Diagnostic

namespace Noted

instance : Monad Noted where
  pure a := ⟨a, []⟩
  bind x f := ⟨(f x.value).value, x.notes ++ (f x.value).notes⟩

variable {α β : Type}

/-- Report one diagnostic. -/
def report (d : Diagnostic) : Noted Unit := ⟨(), [d]⟩

/-- No value, and a diagnostic that says why. -/
def refuse (d : Diagnostic) : Noted (Option α) := ⟨none, [d]⟩

@[simp] theorem value_pure (a : α) : (pure a : Noted α).value = a := rfl

@[simp] theorem notes_pure (a : α) : (pure a : Noted α).notes = [] := rfl

@[simp] theorem value_bind (x : Noted α) (f : α → Noted β) :
    (x >>= f).value = (f x.value).value := rfl

@[simp] theorem notes_bind (x : Noted α) (f : α → Noted β) :
    (x >>= f).notes = x.notes ++ (f x.value).notes := rfl

end Noted

end DriverDesk
