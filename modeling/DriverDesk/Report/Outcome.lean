import DriverDesk.Compile.Basic
import DriverDesk.Report.Element

/-!
# Compiled panels in reports

The JSON form of what a compile gives, and the report of a whole compile.
-/

namespace DriverDesk.Report

def camera (c : Camera Float) : Json :=
  .obj [("bottom_left", vec c.bottomLeft), ("top_right", vec c.topRight), ("yaw", .real c.yaw),
    ("pitch", .real c.pitch)]

def outcome (o : Outcome Float) : Json :=
  .obj [("camera", camera o.camera), ("elements_added", .ofNat o.elementsAdded),
    ("cancelled", .bool o.cancelled)]

/-- The report of a panel: its file and format, and what became of it. -/
def panel (path : Path) (format : PanelFormat) (o : Outcome Float) (es : List (Element Float))
    (textures : List Registered) (diagnostics : List Diagnostic) : Json :=
  .obj [("panel", .str path.text), ("format", .str format.name), ("outcome", outcome o),
    ("elements", elements es), ("textures", .arr (textures.map texture)),
    ("diagnostics", .arr (diagnostics.map diagnostic))]

end DriverDesk.Report
