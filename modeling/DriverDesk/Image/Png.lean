import DriverDesk.Image.Checksum
import DriverDesk.Image.Octets
import DriverDesk.Texture

/-!
# PNG headers

The size of a PNG image. The file is a row of chunks: a length, a name, the data
and a checksum. The first chunk describes the image, and an image needs a chunk
with pixels; what lies between has to be whole. Few mistakes in chunks that are
not critical count: `Description.note` says which.
-/

namespace DriverDesk.Image.Png

/-- What is known of an image before its pixels. -/
structure Description where
  size : PixelSize
  /-- The bits of a sample. -/
  bits : Nat
  colorType : Nat
  hasPalette : Bool
  /-- Whether colours or palette entries are given as transparent. -/
  hasTransparency : Bool
  /-- Whether the colour space is given by code points. -/
  hasCodePoints : Bool
  /-- The number of animation frames announced. -/
  frames : Nat
  deriving Repr, Inhabited

/-- A chunk without its checksum. -/
structure Chunk where
  name : List UInt8
  data : List UInt8
  deriving Repr, Inhabited

/-- The octets every file begins with. -/
def signature : List UInt8 := [0x89, 0x50, 0x4E, 0x47, 0x0D, 0x0A, 0x1A, 0x0A]

/-- Whether a chunk is needed to show the image: its name begins with a capital. -/
def isCritical (name : List UInt8) : Bool := name.head?.any fun o => o &&& 32 = 0

/-- The data of a chunk of a given length, and whether the checksum is right. -/
def chunk (name : List UInt8) (length : Nat) : Scan (Chunk × Bool) := do
  let data ← Scan.octets length
  let sum ← Scan.big32
  pure (⟨name, data⟩, sum = (checksum (name ++ data)).toNat)

/-! ## The first chunk -/

/-- Whether pixels of a colour type can have samples of a number of bits. -/
def allows (colorType bits : Nat) : Bool :=
  match colorType with
  | 0 => [1, 2, 4, 8, 16].contains bits
  | 3 => [1, 2, 4, 8].contains bits
  | 2 | 4 | 6 => [8, 16].contains bits
  | _ => false

/-- What the first chunk says. -/
def header : Scan Description := do
  let width ← Scan.big32
  let height ← Scan.big32
  guard (width ≠ 0 ∧ height ≠ 0)
  let bits ← Scan.octet
  let colorType ← Scan.octet
  guard (allows colorType bits)
  guard ((← Scan.octet) = 0)
  guard ((← Scan.octet) = 0)
  guard ((← Scan.octet) ≤ 1)
  pure ⟨⟨width, height⟩, bits, colorType, false, false, false, 0⟩

/-! ## Chunks before the pixels -/

/-- The number of octets with the samples of a pixel, once samples of fewer than
eight bits are widened, palette entries replaced by their colours, and an opacity
is added where something is transparent. -/
def Description.pixelLength (d : Description) : Nat :=
  let samples := match d.colorType with
    | 0 => if d.hasTransparency then 2 else 1
    | 4 => 2
    | 6 => 4
    | _ => if d.hasTransparency then 4 else 3
  samples * if d.bits = 16 then 2 else 1

/-- The greatest number of octets in a row of pixels. -/
def greatestRow : Nat := twoTo 29

/-- The announcement of a frame. The first one before the pixels is the image
itself, and so is any other there. -/
def Description.frame (d : Description) : Scan Unit := do
  guard ((← Scan.big32) = d.frames)
  guard ((← Scan.big32) = d.size.width)
  guard ((← Scan.big32) = d.size.height)
  guard ((← Scan.big32) = 0)
  guard ((← Scan.big32) = 0)
  Scan.skip 4
  guard ((← Scan.octet) ≤ 2)
  guard ((← Scan.octet) ≤ 1)

/-- Whether transparency data of a length suits the colours of the image. -/
def Description.takesTransparency (d : Description) (length : Nat) : Bool :=
  match d.colorType with
  | 0 => 2 ≤ length && length ≤ 256
  | 2 => 6 ≤ length && length ≤ 256
  | 3 => d.hasPalette && 1 ≤ length && length ≤ 256
  | _ => false

/-- The description with what a critical chunk tells: a palette, which is given
once. Other critical chunks have no place here. -/
def Description.noteCritical (d : Description) (c : Chunk) : Option Description := do
  guard (c.name = ascii "PLTE")
  guard (3 ≤ c.data.length ∧ c.data.length ≤ 768 ∧ !d.hasPalette)
  some { d with hasPalette := true }

/-- The description with what another chunk tells. Most mistakes make a chunk
count for nothing. An announced frame has to be right; so have the code points
of a colour space, if their number is; and a background colour out of a palette
needs the palette. -/
def Description.noteOther (d : Description) (c : Chunk) : Option Description :=
  let length := c.data.length
  if c.name = ascii "fcTL" then
    (Scan.reading c.data d.frame).map fun _ => { d with frames := d.frames + 1 }
  else if c.name = ascii "cICP" then
    if length = 4 ∧ !d.hasPalette ∧ !d.hasCodePoints then do
      guard (c.data.drop 2 = [0, 0] ∨ c.data.drop 2 = [0, 1])
      some { d with hasCodePoints := true }
    else some d
  else if c.name = ascii "bKGD" then do
    guard (!(d.colorType = 3 ∧ !d.hasPalette ∧ 1 ≤ length ∧ length ≤ 6))
    some d
  else if c.name = ascii "tRNS" then
    some { d with hasTransparency := d.hasTransparency || d.takesTransparency length }
  else some d

/-- The description with what a chunk tells. A chunk with a wrong checksum counts
for nothing, unless it is critical. The pixels of further frames have no place
before those of the image. -/
def Description.note (d : Description) (c : Chunk) (isSound : Bool) : Option Description :=
  if isCritical c.name then if isSound then d.noteCritical c else none
  else if c.name = ascii "fdAT" then none
  else if c.name = ascii "fcTL" ∧ c.data.length ≠ 26 then none
  else if isSound then d.noteOther c
  else some d

/-! ## The image -/

/-- Note chunks up to the first with pixels. Every chunk takes twelve octets at
least, which bounds their number. -/
def seekPixels : Nat → Description → Scan Description
  | 0, _ => failure
  | fuel + 1, d => do
    let length ← Scan.big32
    let name ← Scan.octets 4
    if name = ascii "IDAT" then pure d
    else
      let (c, isSound) ← chunk name length
      let some d := d.note c isSound | failure
      seekPixels fuel d

/-- The size of a PNG image. -/
def size? (os : List UInt8) : Option PixelSize :=
  Scan.reading os do
    Scan.expect signature
    let length ← Scan.big32
    guard (length = 13)
    Scan.expect (ascii "IHDR")
    let (first, isSound) ← chunk (ascii "IHDR") length
    guard isSound
    let some d := Scan.reading first.data header | failure
    let d ← seekPixels os.length d
    guard (d.size.width * d.pixelLength ≤ greatestRow)
    pure d.size

end DriverDesk.Image.Png
