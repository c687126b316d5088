import DriverDesk.Text.Blank
import DriverDesk.Text.Slice

/-!
# Colours

Colours with and without opacity, and their hexadecimal notation: `#RRGGBB`,
and `#RRGGBBAA` where opacity is allowed. A pair of digits may also be a plus
sign and one digit.
-/

namespace DriverDesk

/-- An opaque colour, used as the transparent key of an image. -/
structure Rgb where
  r : UInt8
  g : UInt8
  b : UInt8
  deriving DecidableEq, Repr, Inhabited

/-- A colour with opacity, used as the tint of a mesh. -/
structure Rgba where
  r : UInt8
  g : UInt8
  b : UInt8
  a : UInt8
  deriving DecidableEq, Repr, Inhabited

namespace Hex

def digit? (c : Char) : Option Nat :=
  if '0' ≤ c && c ≤ '9' then some (c.toNat - '0'.toNat)
  else if 'a' ≤ c && c ≤ 'f' then some (c.toNat - 'a'.toNat + 10)
  else if 'A' ≤ c && c ≤ 'F' then some (c.toNat - 'A'.toNat + 10)
  else none

/-- The value of digits. -/
def value? (ds : List Char) : Option Nat :=
  ds.foldlM (fun v c => (digit? c).map (16 * v + ·)) 0

/-- The digits of a number that may have a plus sign in front. -/
def dropPlus : List Char → List Char
  | '+' :: ds => ds
  | cs => cs

/-- A number below 256, maybe with a plus sign in front of its digits. -/
def octet? (cs : List Char) : Option UInt8 :=
  let ds := dropPlus cs
  if ds.isEmpty then none
  else do
    let v ← value? ds
    if v < 256 then some (UInt8.ofNat v) else none

/-- What keeps a text from being a colour. -/
inductive Fault where
  | malformed
  /-- There is no slice between two positions. This is a failure of the reader, which checks
  the text before it takes slices. -/
  | slice (first last : Nat)
  deriving DecidableEq, Repr

/-- The characters behind the number sign of a colour. -/
def body (s : String) : Except Fault (List Char) :=
  match Text.trim s.toList with
  | '#' :: r => .ok r
  | _ => .error .malformed

/-- The channel written at a position and the one behind it. -/
def channelAt (cs : List Char) (i : Nat) : Except Fault UInt8 :=
  match Text.slice? cs i (i + 2) with
  | none => .error (.slice i (i + 2))
  | some pair => match octet? pair with
    | none => .error .malformed
    | some v => .ok v

end Hex

namespace Rgb

/-- The usual transparent key. -/
def blue : Rgb := ⟨0, 0, 255⟩

def read (s : String) : Except Hex.Fault Rgb := do
  let cs ← Hex.body s
  if Text.octetCount cs ≠ 6 || !Text.isAscii cs then .error .malformed
  else
    let r ← Hex.channelAt cs 0
    let g ← Hex.channelAt cs 2
    let b ← Hex.channelAt cs 4
    .ok ⟨r, g, b⟩

/-- The colour that a text means, if it is one. -/
def ofHex? (s : String) : Option Rgb := (read s).toOption

end Rgb

namespace Rgba

def white : Rgba := ⟨255, 255, 255, 255⟩

def black : Rgba := ⟨0, 0, 0, 255⟩

def read (s : String) : Except Hex.Fault Rgba := do
  let cs ← Hex.body s
  if !Text.isAscii cs then .error .malformed
  else if Text.octetCount cs = 6 then
    let r ← Hex.channelAt cs 0
    let g ← Hex.channelAt cs 2
    let b ← Hex.channelAt cs 4
    .ok ⟨r, g, b, 255⟩
  else if Text.octetCount cs = 8 then
    let r ← Hex.channelAt cs 0
    let g ← Hex.channelAt cs 2
    let b ← Hex.channelAt cs 4
    let a ← Hex.channelAt cs 6
    .ok ⟨r, g, b, a⟩
  else .error .malformed

/-- The colour that a text means, if it is one. -/
def ofHex? (s : String) : Option Rgba := (read s).toOption

end Rgba

end DriverDesk
