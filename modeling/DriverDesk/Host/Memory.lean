import DriverDesk.Host.Registered

/-!
# A host in memory

A table of files with image sizes that takes the place of a disk. Every
registration makes a texture of its own, up to a number that a file may set.
-/

namespace DriverDesk

/-- A file of the table. -/
structure MemoryFile where
  path : Path
  /-- None for a file that is no image. -/
  size? : Option PixelSize
  /-- The number of textures the image can be registered as. -/
  limit? : Option Nat

namespace Memory

/-- The file a path means. -/
def find? (files : List MemoryFile) (p : Path) : Option MemoryFile :=
  files.find? fun f => f.path.same p

/-- The files of the table; a reference is read relative to its base. -/
def view (files : List MemoryFile) (stockFolder : Path) : FileView where
  isFile p := (find? files p).isSome
  resolve base relative := base.join relative
  stockImage name := stockFolder.join ⟨name⟩

/-- The part of a size that a clip leaves. -/
def clippedSize (size : PixelSize) : Option Clip → PixelSize
  | none => size
  | some c => ⟨min c.width size.width, min c.height size.height⟩

/-- Whether an image may be registered once more. -/
def allows (textures : List Registered) (p : Path) : Option Nat → Bool
  | none => true
  | some limit => textures.countP (fun t => t.path.same p) < limit

/-- Register an image, unless it has no size or its number is used up. -/
def register (files : List MemoryFile) (textures : List Registered) (p : Path)
    (params : TextureParams) : Option TextureId × List Registered :=
  match find? files p with
  | some ⟨_, some size, limit?⟩ =>
    if allows textures p limit? then
      (some textures.length, textures ++ [⟨p, params, clippedSize size params.clip?⟩])
    else (none, textures)
  | _ => (none, textures)

/-- The store of the table's textures. -/
def store (files : List MemoryFile) : TextureStore (List Registered) where
  register := register files
  size? := Registered.sizeOf?
  imageSize? _ p := (find? files p).bind (·.size?)

end Memory

end DriverDesk
