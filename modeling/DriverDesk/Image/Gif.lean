import DriverDesk.Image.Octets
import DriverDesk.Texture

/-!
# GIF headers

The size of a GIF image: that of its screen, if the file goes on to the first
block that is no extension. The extensions before it have to be whole.
-/

namespace DriverDesk.Image.Gif

/-- The octets of the palette that the flags of a screen announce. -/
def paletteLength (flags : Nat) : Nat :=
  if flags / 128 % 2 = 1 then 3 * twoTo (flags % 8 + 1) else 0

/-- The octet that opens an extension. -/
def extension : Nat := 0x21

/-- The octet that ends a file. -/
def trailer : Nat := 0x3B

/-- The label of an extension that tells how the next image is shown. -/
def control : Nat := 0xF9

/-- The labels of extensions: plain text, control, comment and application. -/
def labels : List Nat := [0x01, control, 0xFE, 0xFF]

/-- Pass over parts of data, each behind its length, up to an empty one; the length
of the last before it, given that of the one in front. Every part takes an octet
at least, which bounds their number. -/
def lastPart : Nat → Nat → Scan Nat
  | 0, _ => failure
  | fuel + 1, last => do
    let length ← Scan.octet
    if length = 0 then pure last
    else
      Scan.skip length
      lastPart fuel length

/-- Pass over an extension behind the octet that opens it. The last part of a
control extension counts, and holds four octets. -/
def passExtension (fuel : Nat) : Scan Unit := do
  let label ← Scan.octet
  guard (label ∈ labels)
  let length ← lastPart fuel 0
  guard (label ≠ control ∨ length = 4)

/-- Reach the first block that is no extension. An octet has to follow the one that
opens it, but for a trailer behind an extension. -/
def seekBlock : Nat → Scan Unit
  | 0 => failure
  | fuel + 1 => do
    let opening ← Scan.octet
    if opening = extension then
      passExtension fuel
      if (← Scan.peek) ≠ some trailer then seekBlock fuel
    else Scan.skip 1

/-- The size of a GIF image. -/
def size? (os : List UInt8) : Option PixelSize :=
  Scan.reading os do
    let version ← Scan.octets 6
    guard (version = ascii "GIF87a" ∨ version = ascii "GIF89a")
    let width ← Scan.little16
    let height ← Scan.little16
    let flags ← Scan.octet
    Scan.skip 2
    Scan.skip (paletteLength flags)
    seekBlock os.length
    pure ⟨width, height⟩

end DriverDesk.Image.Gif
