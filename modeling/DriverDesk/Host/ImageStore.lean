import DriverDesk.Host.Registered

/-!
# Textures of image files

A store that knows the size of an image from its header and never looks at its
pixels. What reads the headers is a parameter of the store: the formats of images,
and how an image is opened, are not its concern. An image that is registered twice
in the same way is one texture.
-/

namespace DriverDesk

/-- A reader of image headers: the size of the image a path leads to, and none where the
image is missing or not readable. -/
abbrev ImageReader := Path → Option PixelSize

namespace ImageStore

/-- The part of an image that lies in a clip; none for a clip beside the image. -/
def clippedSize? (size : PixelSize) : Option Clip → Option PixelSize
  | none => some size
  | some c =>
    if size.width ≤ c.left ∨ size.height ≤ c.top then none
    else some ⟨min c.width (size.width - c.left), min c.height (size.height - c.top)⟩

/-- The texture of an image that is registered already. -/
def known? (textures : List Registered) (p : Path) (params : TextureParams) : Option TextureId :=
  textures.findIdx? fun t => t.params == params && t.path.same p

/-- Register an image, unless it is known or cannot be used. -/
def register (reader : ImageReader) (textures : List Registered) (p : Path)
    (params : TextureParams) : Option TextureId × List Registered :=
  match known? textures p params with
  | some id => (some id, textures)
  | none =>
    match (reader p).bind (clippedSize? · params.clip?) with
    | some size => (some textures.length, textures ++ [⟨p, params, size⟩])
    | none => (none, textures)

/-- The store of the images that a reader reads. -/
def ofReader (reader : ImageReader) : TextureStore (List Registered) where
  register := register reader
  size? := Registered.sizeOf?
  imageSize? _ := reader

end ImageStore

end DriverDesk
