import DriverDesk.Json.Number

/-!
# Reading JSON

A reader of one JSON text. A number that is out of range and a text with an
unpaired surrogate are well formed and unreadable; text after the value is
refused.
-/

namespace DriverDesk.Json.Reader

/-- Drop blanks between tokens. -/
def skip (cs : List Char) : List Char :=
  cs.dropWhile fun c => c = ' ' || c = '\n' || c = '\t' || c = '\r'

/-- Drop a given word. -/
def word? : List Char → List Char → Option (List Char)
  | [], cs => some cs
  | w :: ws, c :: cs => if w = c then word? ws cs else none
  | _ :: _, [] => none

def hexDigit? (c : Char) : Option Nat :=
  if c.isDigit then some (c.toNat - '0'.toNat)
  else if 'a' ≤ c && c ≤ 'f' then some (c.toNat - 'a'.toNat + 10)
  else if 'A' ≤ c && c ≤ 'F' then some (c.toNat - 'A'.toNat + 10)
  else none

/-- A 16-bit unit written by four hexadecimal digits. -/
def unit? : List Char → Option (Nat × List Char)
  | a :: b :: c :: d :: r => do
    let a ← hexDigit? a
    let b ← hexDigit? b
    let c ← hexDigit? c
    let d ← hexDigit? d
    some (((a * 16 + b) * 16 + c) * 16 + d, r)
  | _ => none

/-- The character written by the units after a `u`; none for an unpaired
surrogate. -/
def escapedUnit? (cs : List Char) : Option (Option Char × List Char) := do
  let (u, r) ← unit? cs
  if 0xD800 ≤ u ∧ u < 0xDC00 then
    match r with
    | '\\' :: 'u' :: r' =>
      let (v, r'') ← unit? r'
      if 0xDC00 ≤ v ∧ v < 0xE000 then
        some (some (Char.ofNat (0x10000 + (u - 0xD800) * 0x400 + (v - 0xDC00))), r'')
      else some (none, r)
    | _ => some (none, r)
  else if 0xDC00 ≤ u ∧ u < 0xE000 then some (none, r)
  else some (some (Char.ofNat u), r)

/-- The character of a one-letter escape. -/
def letterEscape? (c : Char) : Option Char :=
  if c = '"' || c = '\\' || c = '/' then some c
  else if c = 'b' then some '\x08'
  else if c = 'f' then some '\x0c'
  else if c = 'n' then some '\n'
  else if c = 'r' then some '\r'
  else if c = 't' then some '\t'
  else none

/-- A character in front of a text, unless one of them is unreadable. -/
def joined (c : Option Char) (text : Option (List Char)) : Option (List Char) := do
  some ((← c) :: (← text))

/-- The characters of a string up to its closing quote; none if one of them is
unreadable. -/
def stringBody? : Nat → List Char → Option (Option (List Char) × List Char)
  | 0, _ => none
  | fuel + 1, cs =>
    match cs with
    | [] => none
    | '"' :: r => some (some [], r)
    | '\\' :: 'u' :: r => do
      let (c, r') ← escapedUnit? r
      let (s, rest) ← stringBody? fuel r'
      some (joined c s, rest)
    | '\\' :: e :: r => do
      let c ← letterEscape? e
      let (s, rest) ← stringBody? fuel r
      some (joined c s, rest)
    | c :: r =>
      if c = '\\' || c.toNat < 0x20 then none
      else do
        let (s, rest) ← stringBody? fuel r
        some (joined c s, rest)

/-- The digits of a number's whole part: no zero in front of others. -/
def wholePart? (cs : List Char) : Option (List Char × List Char) :=
  match cs.takeWhile Char.isDigit with
  | [] => none
  | ['0'] => some (['0'], cs.dropWhile Char.isDigit)
  | '0' :: _ => none
  | ds => some (ds, cs.dropWhile Char.isDigit)

/-- The digits after a point; a point needs some. -/
def fractionPart? : List Char → Option (Option (List Char) × List Char)
  | '.' :: r =>
    match r.takeWhile Char.isDigit with
    | [] => none
    | ds => some (some ds, r.dropWhile Char.isDigit)
  | cs => some (none, cs)

/-- The power of ten after an `e`; the letter needs digits. -/
def exponentPart? (cs : List Char) : Option (Option Int × List Char) :=
  match cs with
  | e :: r =>
    if e = 'e' || e = 'E' then
      let (negative, t) := Numeral.takeSign r
      match t.takeWhile Char.isDigit with
      | [] => none
      | ds =>
        let n : Int := Numeral.digitsValue ds
        some (some (if negative then -n else n), t.dropWhile Char.isDigit)
    else some (none, cs)
  | [] => some (none, cs)

/-- A number in the form of the standard. -/
def number? (cs : List Char) : Option (Json × List Char) := do
  let (negative, r) := match cs with
    | '-' :: r => (true, r)
    | _ => (false, cs)
  let (whole, r) ← wholePart? r
  let (fraction, r) ← fractionPart? r
  let (power, r) ← exponentPart? r
  some (Number.value negative whole fraction power, r)

/-- The value of a string. -/
def ofString (text : Option (List Char)) : Json :=
  match text with
  | some s => .str (String.ofList s)
  | none => .unreadable

/-- The value of an object; none are the members of one with an unreadable name. -/
def ofMembers (members : Option (List (String × Json))) : Json :=
  match members with
  | some ms => .obj ms
  | none => .unreadable

mutual

/-- One value off the front of a text without leading blanks. -/
def value? : Nat → List Char → Option (Json × List Char)
  | 0, _ => none
  | fuel + 1, cs =>
    match cs with
    | '"' :: r => (stringBody? fuel r).map fun p => (ofString p.1, p.2)
    | '[' :: r =>
      match skip r with
      | ']' :: rest => some (.arr [], rest)
      | r' => (items? fuel r').map fun p => (.arr p.1, p.2)
    | '\x7b' :: r =>
      match skip r with
      | '\x7d' :: rest => some (.obj [], rest)
      | r' => (members? fuel r').map fun p => (ofMembers p.1, p.2)
    | 't' :: r => (word? "rue".toList r).map fun rest => (.bool true, rest)
    | 'f' :: r => (word? "alse".toList r).map fun rest => (.bool false, rest)
    | 'n' :: r => (word? "ull".toList r).map fun rest => (.null, rest)
    | _ => number? cs

/-- The items of an array up to its closing bracket; at least one. -/
def items? : Nat → List Char → Option (List Json × List Char)
  | 0, _ => none
  | fuel + 1, cs => do
    let (v, r) ← value? fuel cs
    match skip r with
    | ',' :: r' => do
      let (vs, rest) ← items? fuel (skip r')
      some (v :: vs, rest)
    | ']' :: rest => some ([v], rest)
    | _ => none

/-- The members of an object up to its closing brace, at least one; none if a
name is unreadable. -/
def members? : Nat → List Char → Option (Option (List (String × Json)) × List Char)
  | 0, _ => none
  | fuel + 1, cs =>
    match cs with
    | '"' :: r => do
      let (name, r) ← stringBody? fuel r
      match skip r with
      | ':' :: r' => do
        let (v, r) ← value? fuel (skip r')
        let m := name.map fun n => (String.ofList n, v)
        match skip r with
        | ',' :: r' => do
          let (ms, rest) ← members? fuel (skip r')
          some (m.bind fun m => ms.map (m :: ·), rest)
        | '\x7d' :: rest => some (m.map ([·]), rest)
        | _ => none
      | _ => none
    | _ => none

end

end DriverDesk.Json.Reader

namespace DriverDesk.Json

/-- The value of a JSON text. Every step of the reader takes a character at
least, so twice the length bounds their number. -/
def read? (s : String) : Option Json := do
  let cs := s.toList
  let (v, r) ← Reader.value? (2 * cs.length + 2) (Reader.skip cs)
  if (Reader.skip r).isEmpty then some v else none

end DriverDesk.Json
