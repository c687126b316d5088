import DriverDesk.Decimal.Basic
import DriverDesk.Text.Blank

/-!
# Numerals

Numbers read from text. A numeral is an optional sign, digits with at most one
point among or beside them, and an optional power of ten. Panel files are read
leniently: blanks do not count, and the longest beginning that is the numeral
of a finite number is taken. Whole numbers elsewhere are read strictly.
-/

namespace DriverDesk.Numeral

open Text

/-- The sign in front of a number, and what follows it. -/
def takeSign : List Char → Bool × List Char
  | '-' :: r => (true, r)
  | '+' :: r => (false, r)
  | cs => (false, cs)

/-- The number written by a run of digits. -/
def digitsValue (ds : List Char) : Nat :=
  ds.foldl (fun n c => 10 * n + (c.toNat - '0'.toNat)) 0

/-- A numeral by its parts. -/
structure Parts where
  negative : Bool
  whole : List Char
  fraction : List Char
  powerNegative : Bool
  power : List Char

namespace Parts

def digits (p : Parts) : List Char := p.whole ++ p.fraction

/-- The number the parts write. -/
def value (p : Parts) : Decimal :=
  let power : Int := digitsValue p.power
  ⟨p.negative, digitsValue p.digits,
    (if p.powerNegative then -power else power) - (p.fraction.length : Int)⟩

/-- A number the power of ten is not below, if it is told by nine digits at most or
by a missing minus sign. -/
def powerBound? (p : Parts) : Option Int :=
  let ds := p.power.dropWhile (· == '0')
  if ds.length ≤ 9 then
    let n : Int := digitsValue ds
    some (if p.powerNegative then -n else n)
  else if p.powerNegative then none
  else some (tenTo 9)

/-- Whether the count of the digits tells that the number is beyond the doubles, the
greatest of which is less than ten to the power of 309. -/
def isBeyond (p : Parts) : Bool :=
  let ds := p.digits.dropWhile (· == '0')
  match p.powerBound? with
  | some bound => !ds.isEmpty && 309 ≤ (ds.length : Int) - 1 - p.fraction.length + bound
  | none => false

end Parts

/-- The sign and the digits of the power of ten after an `e`. -/
def power? (cs : List Char) : Option (Bool × List Char) :=
  let (negative, ds) := takeSign cs
  if ds.isEmpty || !ds.all Char.isDigit then none else some (negative, ds)

/-- The fraction digits after a point, and what follows them. -/
def takeFraction : List Char → List Char × List Char
  | '.' :: r => (r.takeWhile Char.isDigit, r.dropWhile Char.isDigit)
  | cs => ([], cs)

/-- The parts of the numeral that a whole text is. -/
def parts? (cs : List Char) : Option Parts :=
  let (negative, r) := takeSign cs
  let whole := r.takeWhile Char.isDigit
  let (fraction, rest) := takeFraction (r.dropWhile Char.isDigit)
  if whole.isEmpty && fraction.isEmpty then none
  else
    match rest with
    | [] => some ⟨negative, whole, fraction, false, []⟩
    | c :: t =>
      if c = 'e' || c = 'E' then
        (power? t).map fun (powerNegative, power) =>
          ⟨negative, whole, fraction, powerNegative, power⟩
      else none

/-- The number a whole text writes. -/
def read? (cs : List Char) : Option Decimal := (parts? cs).map Parts.value

/-- The number a whole text writes, if a double can hold it. -/
def readFinite? (cs : List Char) : Option Decimal := do
  let p ← parts? cs
  if p.isBeyond then none
  else
    let d := p.value
    if d.toFloat.isFinite then some d else none

/-- The characters that occur in numerals. -/
def isNumeralChar (c : Char) : Bool :=
  c.isDigit || c = '+' || c = '-' || c = '.' || c = 'e' || c = 'E'

/-- The first of the beginnings of `cs`, from `n` characters downwards, at which
`f` succeeds. -/
def longest? {α : Type} (f : List Char → Option α) (cs : List Char) : Nat → Option α
  | 0 => none
  | n + 1 => match f (cs.take (n + 1)) with
    | some a => some a
    | none => longest? f cs n

/-- The number at the beginning of a text, blanks not counted. -/
def lenient? (s : String) : Option Decimal :=
  let cs := (compact s.toList).takeWhile isNumeralChar
  longest? readFinite? cs cs.length

/-- The number at the beginning of a text, rounded to a 32-bit integer. -/
def lenientInt? (s : String) : Option Int := do
  let d ← lenient? s
  let b ← Binary.ofFloat? d.toFloat
  let n := b.round
  if -2147483648 ≤ n ∧ n ≤ 2147483647 then some n else none

/-- The natural number below `bound` that a text writes, with an optional `+`. -/
def natBelow? (bound : Nat) (s : String) : Option Nat :=
  let ds := match s.toList with
    | '+' :: r => r
    | cs => cs
  if ds.isEmpty || !ds.all Char.isDigit then none
  else if digitsValue ds < bound then some (digitsValue ds) else none

/-- The integer in `[-bound, bound)` that a text writes, with an optional sign. -/
def intWithin? (bound : Nat) (s : String) : Option Int :=
  let (negative, ds) := takeSign s.toList
  if ds.isEmpty || !ds.all Char.isDigit then none
  else
    let n : Int := if negative then -(digitsValue ds : Int) else digitsValue ds
    if -(bound : Int) ≤ n ∧ n < bound then some n else none

end DriverDesk.Numeral
