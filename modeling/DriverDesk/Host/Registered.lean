import DriverDesk.Texture

/-!
# Registered textures

Textures as a store keeps them: one after the other, each named by its place.
-/

namespace DriverDesk

/-- A texture that is known to a store. -/
structure Registered where
  path : Path
  params : TextureParams
  /-- The size after clipping. -/
  size : PixelSize
  deriving DecidableEq, Repr

namespace Registered

/-- The size of the texture of a given place. -/
def sizeOf? (textures : List Registered) (id : TextureId) : Option PixelSize :=
  textures[id]?.map (·.size)

end Registered

end DriverDesk
