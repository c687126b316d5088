import DriverDesk.Json.Basic
import DriverDesk.Decimal.Positional

/-!
# Writing JSON

The text of a JSON value, on one line or indented with one item on each line.
What JSON cannot write is written `null`.
-/

namespace DriverDesk.Json

def hexChar (n : Nat) : Char :=
  if n < 10 then Char.ofNat ('0'.toNat + n) else Char.ofNat ('a'.toNat + (n - 10))

/-- A character inside quotes. -/
def escapeChar (c : Char) : List Char :=
  if c = '"' then ['\\', '"']
  else if c = '\\' then ['\\', '\\']
  else if c = '\x08' then ['\\', 'b']
  else if c = '\x0c' then ['\\', 'f']
  else if c = '\n' then ['\\', 'n']
  else if c = '\r' then ['\\', 'r']
  else if c = '\t' then ['\\', 't']
  else if c.toNat < 0x20 then
    ['\\', 'u', '0', '0', hexChar (c.toNat / 16), hexChar (c.toNat % 16)]
  else [c]

def quote (s : String) : String :=
  String.ofList ('"' :: s.toList.flatMap escapeChar ++ ['"'])

/-- The shortest text of a number that reads back as it: positional from `1e-5`
up to `1e16`, with at least one place, and with a power of ten outside. -/
def realText (x : Float) : String :=
  match Binary.ofFloat? x with
  | none => "null"
  | some b =>
    let sign := if b.negative then ['-'] else []
    if b.mantissa = 0 then String.ofList (sign ++ "0.0".toList)
    else
      let d := Decimal.shortest b
      let ds := Decimal.digitChars d.coefficient
      let point := (ds.length : Int) + d.exponent
      let body :=
        if 0 ≤ d.exponent ∧ point ≤ 16 then
          Decimal.positionalChars d.coefficient d.exponent ++ ['.', '0']
        else if -5 < point ∧ point ≤ 16 then
          Decimal.positionalChars d.coefficient d.exponent
        else
          let power := (toString (point - 1)).toList
          match ds with
          | [c] => c :: 'e' :: power
          | c :: r => c :: '.' :: r ++ 'e' :: power
          | [] => []
      String.ofList (sign ++ body)

/-- The text of a value that holds no other values. -/
def scalarText : Json → String
  | null | unreadable => "null"
  | bool b => if b then "true" else "false"
  | int n => toString n
  | real x => realText x
  | str s => quote s
  | arr _ => "[]"
  | obj _ => "\x7b\x7d"

mutual

/-- The text on one line. -/
def compactText : Json → String
  | arr items => "[" ++ String.intercalate "," (compactItems items) ++ "]"
  | obj members => "\x7b" ++ String.intercalate "," (compactMembers members) ++ "\x7d"
  | v => scalarText v

def compactItems : List Json → List String
  | [] => []
  | v :: vs => compactText v :: compactItems vs

def compactMembers : List (String × Json) → List String
  | [] => []
  | (k, v) :: ms => (quote k ++ ":" ++ compactText v) :: compactMembers ms

end

def indent (depth : Nat) : String := String.ofList (List.replicate (2 * depth) ' ')

/-- Lines between an opening and a closing bracket. -/
def block (depth : Nat) (opening closing : String) (items : List String) : String :=
  opening ++ "\n" ++ indent (depth + 1)
    ++ String.intercalate (",\n" ++ indent (depth + 1)) items
    ++ "\n" ++ indent depth ++ closing

mutual

/-- The text with one item on each line, at a nesting depth. -/
def prettyAt (depth : Nat) : Json → String
  | arr (v :: vs) => block depth "[" "]" (prettyItems (depth + 1) (v :: vs))
  | obj (m :: ms) => block depth "\x7b" "\x7d" (prettyMembers (depth + 1) (m :: ms))
  | v => scalarText v

def prettyItems (depth : Nat) : List Json → List String
  | [] => []
  | v :: vs => prettyAt depth v :: prettyItems depth vs

def prettyMembers (depth : Nat) : List (String × Json) → List String
  | [] => []
  | (k, v) :: ms => (quote k ++ ": " ++ prettyAt depth v) :: prettyMembers depth ms

end

/-- The text with one item on each line. -/
def pretty (v : Json) : String := prettyAt 0 v

end DriverDesk.Json
