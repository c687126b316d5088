import DriverDesk.Host.FileTree
import DriverDesk.Host.ImageStore
import DriverDesk.Image.Size

/-!
# Image files of a tree

The reader of image headers that the command runs with: it opens a file of a tree and
reads the headers of bitmaps, PNG and GIF images.
-/

namespace DriverDesk.ImageStore

/-- The size of an image file of a tree. -/
def imageSize? (t : FileTree) : ImageReader :=
  fun p => (t.read p).toOption.bind (Image.size? p)

/-- The store of the images of a tree. -/
def ofTree (t : FileTree) : TextureStore (List Registered) := ofReader (imageSize? t)

end DriverDesk.ImageStore
