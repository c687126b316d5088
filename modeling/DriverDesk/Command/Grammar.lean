import DriverDesk.Text.Line

/-!
# Command lines

The words of a command line. A word `--name` or `-n` is an option; an option with
a value takes it from behind an equals sign, from the rest of a short word, or
from the next word if that is no option itself. Any other word is an operand, and
so is every word behind `--`. Words are read from left to right: a call for help
ends the reading, and so does the first mistake.
-/

namespace DriverDesk.Command

/-- An option without a value. -/
structure Switch (α : Type) where
  name : String
  /-- None when the option may not be given, for instance not again. -/
  set : α → Option α

/-- An option with a value. -/
structure Setting (α : Type) where
  name : String
  short? : Option Char
  /-- None when the value does not fit. -/
  set : String → α → Option α

/-- The options and operands of a command. -/
structure Grammar (α : Type) where
  switches : List (Switch α)
  settings : List (Setting α)
  operand : String → α → Option α

/-- What a command line says. -/
inductive Reading (α : Type) where
  | help
  | arguments (a : α)
  deriving Repr

/-- What a word of a command line is. -/
inductive Argument where
  | separator
  | long (name : String) (value? : Option String)
  | short (letter : Char) (rest : List Char)
  | operand
  deriving DecidableEq, Repr

namespace Argument

def ofWord (word : String) : Argument :=
  match word.toList with
  | ['-', '-'] => separator
  | '-' :: '-' :: cs =>
    match Text.cut? '=' cs with
    | some (name, value) => long (String.ofList name) (some (String.ofList value))
    | none => long (String.ofList cs) none
  | '-' :: c :: cs => short c cs
  | _ => operand

/-- The value a short option has in its own word. -/
def attached? : List Char → Option String
  | [] => none
  | '=' :: cs => some (String.ofList cs)
  | cs => some (String.ofList cs)

end Argument

namespace Grammar

variable {α : Type}

/-- Read words that are all operands. -/
def readOperands (g : Grammar α) : List String → α → Option (Reading α)
  | [], a => some (.arguments a)
  | w :: ws, a => do g.readOperands ws (← g.operand w a)

/-- Read the words of a command line. -/
def read (g : Grammar α) : List String → α → Option (Reading α)
  | [], a => some (.arguments a)
  | w :: ws, a =>
    let setting (s : Setting α) (value? : Option String) : Option (Reading α) :=
      match value? with
      | some v => do g.read ws (← s.set v a)
      | none =>
        match ws with
        | v :: ws => if Argument.ofWord v = .operand then do g.read ws (← s.set v a) else none
        | [] => none
    match Argument.ofWord w with
    | .separator => g.readOperands ws a
    | .operand => do g.read ws (← g.operand w a)
    | .long name value? =>
      if name = "help" then if value?.isNone then some .help else none
      else match g.switches.find? fun s => s.name == name with
        | some s => if value?.isNone then do g.read ws (← s.set a) else none
        | none =>
          match g.settings.find? fun s => s.name == name with
          | some s => setting s value?
          | none => none
    | .short letter rest =>
      if letter = 'h' then some .help
      else match g.settings.find? fun s => s.short? == some letter with
        | some s => setting s (Argument.attached? rest)
        | none => none

end Grammar

end DriverDesk.Command
