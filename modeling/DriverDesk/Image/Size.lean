import DriverDesk.Image.Bitmap
import DriverDesk.Image.Gif
import DriverDesk.Image.Png
import DriverDesk.Path
import DriverDesk.Text.Lowercase

/-!
# Image sizes

The size of an image file, of the format that the extension of its path tells. Only the
command settles on these formats: a store of textures takes any reader of headers.
-/

namespace DriverDesk.Image

/-- The formats whose headers can be read. -/
inductive Format where
  | bitmap
  | png
  | gif
  deriving DecidableEq, Repr

/-- The format of an extension, in any ASCII letter case. -/
def Format.ofExtension? (extension : String) : Option Format :=
  match Text.asciiLower extension with
  | "bmp" => some .bitmap
  | "png" | "apng" => some .png
  | "gif" => some .gif
  | _ => none

/-- The size of an image of a format. -/
def Format.size? : Format → List UInt8 → Option PixelSize
  | bitmap => Bitmap.size?
  | png => Png.size?
  | gif => Gif.size?

/-- The size of an image file. -/
def size? (p : Path) (octets : List UInt8) : Option PixelSize := do
  let extension ← p.extension?
  let format ← Format.ofExtension? (String.ofList extension)
  format.size? octets

end DriverDesk.Image
