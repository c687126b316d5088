import DriverDesk.Diagnostic
import DriverDesk.Decimal.Numeral
import DriverDesk.Expr.Basic
import DriverDesk.Text.Line
import DriverDesk.Text.Lowercase

/-!
# Subjects

The names by which panels bind instruments to the state of the train, and the
expressions they stand for. A subject may end in `D` and a number that selects
one decimal digit of its value, the units being digit 0.
-/

namespace DriverDesk.Subject

open Operator Word

variable {K : Type} [Arith K]

/-- The expression of a subject that is not known. -/
def inert : Expr K := [integer 0]

/-- A variable scaled by a number. -/
def scaled (variableName : String) (factor : K) : Expr K :=
  [name variableName, number factor, operator multiply]

/-- The size of the speed in a unit given by its count in one metre per second. -/
def speedIn (factor : K) : Expr K :=
  [name "speedometer", operator abs, number factor, operator multiply]

/-- The time in a unit given by its count in a second, and by where it wraps. -/
def clock (factor : K) (wrap : Int) : Expr K :=
  [number factor, name "time", operator multiply, integer wrap, operator modulo, operator floor]

/-- Subjects that are variables of their own. -/
def passed : List String :=
  ["klaxon", "primaryklaxon", "secondaryklaxon", "musicklaxon", "passalarm", "pilotlamp",
   "stationadjustalarm", "wiperposition"]

/-- The expressions of the subjects without an index. -/
def fixed? (subject : String) : Option (Expr K) :=
  match subject with
  | "acc" => some [name "acceleration"]
  | "atc" => some [integer 271, operator pluginState]
  | "bc" => some (scaled "brakecylinder" 0.001)
  | "mr" => some (scaled "mainreservoir" 0.001)
  | "sap" => some (scaled "straightairpipe" 0.001)
  | "bp" => some (scaled "brakepipe" 0.001)
  | "er" => some (scaled "equalizingreservoir" 0.001)
  | "door" => some [integer 1, name "doors", operator subtract]
  | "csc" => some [name "constSpeed"]
  | "power" => some [name "brakeNotchLinear", integer 0, operator notEqual, integer 0,
      name "powerNotch", operator choose]
  | "brake" => some [name "brakeNotchLinear"]
  | "rev" => some [name "reverserNotch", operator increment]
  | "hour" => some (clock 0.000277777777777778 24)
  | "min" => some (clock 0.0166666666666667 60)
  | "sec" => some [name "time", integer 60, operator modulo, operator floor]
  | "kmph" => some (speedIn 3.6)
  | "mph" => some (speedIn 2.2369362920544)
  | "ms" => some [name "speedometer", operator abs]
  | "true" => some [integer 1]
  | s => if passed.contains s then some [name s] else none

/-- The highest index of a plugin state. -/
def lastPluginState : Nat := 255

/-- The state of the doors on one side of a car; a car outside the train has
doors that are neither open nor closed. -/
def doors (cars : Nat) (car : Int) (side : Operator) : Expr K :=
  if 0 ≤ car ∧ car < cars then [integer car, operator side, operator ceiling] else [integer 2]

/-- The expressions of the subjects with an index. -/
def indexed? (cars : Nat) (subject : String) : Option (Expr K) :=
  match Text.after? "ats" subject with
  | some index => do
    let n ← Numeral.natBelow? (twoTo 64) index
    if n ≤ lastPluginState then some [integer n, operator pluginState] else none
  | none =>
    match Text.after? "doorl" subject with
    | some index => (Numeral.intWithin? (twoTo 63) index).map (doors cars · leftDoorsIndex)
    | none =>
      match Text.after? "doorr" subject with
      | some index => (Numeral.intWithin? (twoTo 63) index).map (doors cars · rightDoorsIndex)
      | none => none

/-- The expression of a subject without a digit suffix, in a train of `cars` cars. -/
def resolve? (cars : Nat) (subject : String) : Option (Expr K) :=
  let s := Text.asciiLower (String.ofList (Text.trim subject.toList))
  match fixed? s with
  | some e => some e
  | none => indexed? cars s

/-- Select the decimal digit `n` of the value on the stack. A value without that
digit selects 10, the blank frame. -/
def digitSelector (n : Int) : Expr K :=
  if n = 0 then [operator floor, integer 10, operator modulo]
  else
    [operator duplicate, number (Arith.power 10.0 n), operator greaterOrEqual, operator swap,
     number (Arith.power 10.0 (-n)), operator multiply, operator floor, integer 10,
     operator modulo, integer 10, operator choose]

/-- Split a subject at the digit suffix it ends in: the last `d` or `D`, with
nothing but digits behind it and no line feed in front of it. -/
def splitDigit (subject : String) : String × Option Int :=
  let cs := subject.toList.reverse
  let behind := cs.takeWhile fun c => c.toLower != 'd'
  match cs.dropWhile fun c => c.toLower != 'd' with
  | [] => (subject, none)
  | _ :: front =>
    if front.contains '\n' then (subject, none)
    else if behind.all Char.isDigit then
      match Numeral.intWithin? (twoTo 31) (String.ofList behind.reverse) with
      | some n => (String.ofList front.reverse, some n)
      | none => (subject, none)
    else (subject, none)

/-- The expression of a subject with an optional digit suffix. An unknown subject
is reported and inert. -/
def expression (cars : Nat) (subject : String) (location : Location) : Noted (Expr K) := do
  let (base, digit) := splitDigit (String.ofList (Text.trim subject.toList))
  let e ← match resolve? cars base with
    | some e => pure e
    | none => do
      Noted.report (.ofKind .field ("Invalid subject " ++ subject) location)
      pure inert
  match digit with
  | some n => pure (e ++ digitSelector n)
  | none => pure e

end DriverDesk.Subject
