import DriverDesk.Color
import DriverDesk.Path

/-!
# Textures

How an image file becomes a texture, and the two services a compile asks of its
surroundings: a store of textures that changes as textures are registered, and a
view of the files.
-/

namespace DriverDesk

/-- What is sampled outside the texture along one axis. -/
inductive Wrap where
  /-- The texel at the border. -/
  | clampToEdge
  /-- The texture again. -/
  | tiled
  deriving DecidableEq, Repr, Inhabited

namespace Wrap

/-- The name reports give to a wrap. -/
def name : Wrap → String
  | clampToEdge => "ClampToEdge"
  | tiled => "Repeat"

def ofName? (s : String) : Option Wrap := [clampToEdge, tiled].find? fun w => w.name == s

end Wrap

/-- Part of an image, in pixels. -/
structure Clip where
  left : Nat
  top : Nat
  width : Nat
  height : Nat
  deriving DecidableEq, Repr, Inhabited

/-- How an image file becomes a texture. -/
structure TextureParams where
  /-- Pixels of this colour become transparent. -/
  key? : Option Rgb
  /-- The part of the image to use; all of it when unset. -/
  clip? : Option Clip
  wrapU : Wrap
  wrapV : Wrap
  deriving DecidableEq, Repr, Inhabited

namespace TextureParams

/-- The whole image as it is. -/
def plain : TextureParams := ⟨none, none, .clampToEdge, .clampToEdge⟩

/-- The whole image with a transparent colour. -/
def keyed (key : Rgb) : TextureParams := { plain with key? := some key }

def clipped (p : TextureParams) (clip : Clip) : TextureParams := { p with clip? := some clip }

end TextureParams

/-- Names a registered texture. -/
abbrev TextureId := Nat

/-- A width and a height in pixels. -/
structure PixelSize where
  width : Nat
  height : Nat
  deriving DecidableEq, Repr, Inhabited

/-- A store of textures with states `σ`. -/
structure TextureStore (σ : Type) where
  /-- Register a texture, if the image can be used. -/
  register : σ → Path → TextureParams → Option TextureId × σ
  /-- The size of a registered texture, after clipping. -/
  size? : σ → TextureId → Option PixelSize
  /-- The size of an image that need not be registered. -/
  imageSize? : σ → Path → Option PixelSize

/-- A view of the files around a panel. -/
structure FileView where
  isFile : Path → Bool
  /-- The file an image reference means. -/
  resolve : Path → Path → Path
  /-- Where the stock image of a name is kept. -/
  stockImage : String → Path

end DriverDesk
