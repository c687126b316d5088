import DriverDesk.Decimal.Power

/-!
# Reading octets

Headers of image files are read front to back. A `Scan` takes octets off the
front of what is left and fails when too few are there.
-/

namespace DriverDesk.Image

/-- A reading of the octets in front, and what is left behind them. -/
abbrev Scan := StateT (List UInt8) Option

/-- The number octets write, the most significant first. -/
def bigEndian (os : List UInt8) : Nat := os.foldl (fun n o => 256 * n + o.toNat) 0

/-- The number octets write, the least significant first. -/
def littleEndian (os : List UInt8) : Nat := bigEndian os.reverse

namespace Scan

/-- A given number of octets. -/
def octets (n : Nat) : Scan (List UInt8) := fun os =>
  if n ≤ os.length then some (os.take n, os.drop n) else none

/-- Pass over a given number of octets. -/
def skip (n : Nat) : Scan Unit := do
  let _ ← octets n

/-- Octets that have to be there. -/
def expect (wanted : List UInt8) : Scan Unit := do
  guard ((← octets wanted.length) == wanted)

def octet : Scan Nat := bigEndian <$> octets 1

/-- The next octet, which is left in place; none at the end. -/
def peek : Scan (Option Nat) := fun os => some (os.head?.map (·.toNat), os)

/-- A number of two octets, the least significant first. -/
def little16 : Scan Nat := littleEndian <$> octets 2

/-- A number of four octets, the least significant first. -/
def little32 : Scan Nat := littleEndian <$> octets 4

/-- A number of four octets, the most significant first. -/
def big32 : Scan Nat := bigEndian <$> octets 4

/-- A signed number of four octets in two's complement, the least significant first. -/
def signed32 : Scan Int := do
  let n ← little32
  pure (if n < twoTo 31 then (n : Int) else (n : Int) - twoTo 32)

/-- The value read from the front of some octets. -/
def reading {α : Type} (os : List UInt8) (s : Scan α) : Option α := (s.run os).map (·.1)

end Scan

/-- The octets of a text of ASCII characters. -/
def ascii (s : String) : List UInt8 := s.toUTF8.toList

end DriverDesk.Image
