import DriverDesk.Image.Octets
import DriverDesk.Texture

/-!
# Bitmap headers

The size of a BMP image. The file header is followed by the old core header of
twelve octets or by an information header of one of several lengths. The size
stands in front, but it counts only if the rest of the header describes an image
that can be read: the bits of a pixel, the compression, the masks of the colour
channels and the palette.
-/

namespace DriverDesk.Image.Bitmap

/-- The greatest width and height. -/
def greatest : Nat := 65535

/-- What a header says. -/
structure Header where
  size : PixelSize
  /-- The bits of a pixel. -/
  depth : Nat
  /-- Zero for pixels as they are, one and two for run lengths, three for channel masks. -/
  compression : Nat
  /-- The number of palette entries; zero for as many as a pixel can tell apart. -/
  colors : Nat
  deriving Repr, Inhabited

/-- The header lengths besides that of the core header. -/
def lengths : List Nat := [40, 52, 56, 108, 124]

/-- The core header, behind its length. -/
def core : Scan Header := do
  let width ← Scan.little16
  let height ← Scan.little16
  guard (width ≠ 0 ∧ height ≠ 0)
  guard ((← Scan.little16) = 1)
  let depth ← Scan.little16
  guard (depth ∈ [1, 4, 8, 24])
  pure ⟨⟨width, height⟩, depth, 0, 0⟩

/-- Whether a compression takes pixels of a depth. -/
def compresses (compression depth : Nat) : Bool :=
  match compression with
  | 0 => [1, 2, 4, 8, 16, 24, 32].contains depth
  | 1 => depth == 8
  | 2 => depth == 4
  | 3 => depth == 16 || depth == 32
  | _ => false

/-- An information header, behind its length. A negative height tells that the
rows stand from the top downwards; such an image is not run-length encoded. -/
def information : Scan Header := do
  let width ← Scan.signed32
  let height ← Scan.signed32
  guard (0 < width ∧ width ≤ greatest ∧ height ≤ greatest)
  guard (height ≠ 0 ∧ height ≠ -(twoTo 31 : Int))
  guard ((← Scan.little16) = 1)
  let depth ← Scan.little16
  let compression ← Scan.little32
  guard (0 < height ∨ compression = 0 ∨ compression = 3)
  guard (compresses compression depth)
  Scan.skip 12
  let colors ← Scan.little32
  Scan.skip 4
  pure ⟨⟨width.toNat, height.natAbs⟩, depth, compression, colors⟩

/-- Whether a mask is one run of bits within a pixel. -/
def isRun (depth mask : Nat) : Bool :=
  (List.range depth).any fun low =>
    (List.range (depth + 1 - low)).any fun count => mask == (twoTo count - 1) * twoTo low

/-- The masks of the channels; only the one of opacity may be empty. -/
def masks (depth headerLength : Nat) : Scan Unit := do
  let channels ← (List.replicate 3 ()).mapM fun _ => Scan.little32
  let opacity ← if headerLength ∈ [56, 108, 124] then Scan.little32 else pure 0
  guard ((opacity :: channels).all (isRun depth))
  guard (channels.all (· ≠ 0))

/-- The palette behind a header: four octets for a colour, three after a core
header. -/
def palette (h : Header) (headerLength : Nat) : Scan Unit := do
  guard (h.colors ≤ twoTo h.depth)
  let colors := if h.colors = 0 then twoTo h.depth else h.colors
  Scan.skip (min colors 256 * if headerLength = 12 then 3 else 4)

/-- The size of a BMP image. -/
def size? (os : List UInt8) : Option PixelSize := do
  let (headerLength, h) ← Scan.reading os do
    Scan.expect (ascii "BM")
    Scan.skip 12
    let n ← Scan.little32
    guard (n = 12 ∨ n ∈ lengths)
    let h ← if n = 12 then core else information
    if h.compression = 3 then masks h.depth n
    pure (n, h)
  if h.compression ≠ 3 ∧ h.depth ≤ 8 then
    Scan.reading (os.drop (14 + headerLength)) (palette h headerLength)
  pure h.size

end DriverDesk.Image.Bitmap
