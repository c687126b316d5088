import DriverDesk.Color
import DriverDesk.Diagnostic
import DriverDesk.Geometry.Point
import DriverDesk.Host.Registered
import DriverDesk.Json.Basic

/-!
# Values in reports

The JSON form of vectors, colours, textures and diagnostics. Something that is
missing is `null`.
-/

namespace DriverDesk.Report

def optional {α : Type} (f : α → Json) : Option α → Json
  | some a => f a
  | none => .null

def point (p : Point Float) : Json := .arr [.real p.x, .real p.y]

def vec (v : Vec Float) : Json := .arr [.real v.x, .real v.y, .real v.z]

def channel (c : UInt8) : Json := .ofNat c.toNat

def rgb (c : Rgb) : Json := .obj [("r", channel c.r), ("g", channel c.g), ("b", channel c.b)]

def rgba (c : Rgba) : Json :=
  .obj [("r", channel c.r), ("g", channel c.g), ("b", channel c.b), ("a", channel c.a)]

def clip (c : Clip) : Json :=
  .obj [("left", .ofNat c.left), ("top", .ofNat c.top), ("width", .ofNat c.width),
    ("height", .ofNat c.height)]

def params (p : TextureParams) : Json :=
  .obj [("transparent_color", optional rgb p.key?), ("clip", optional clip p.clip?),
    ("wrap_u", .str p.wrapU.name), ("wrap_v", .str p.wrapV.name)]

def texture (t : Registered) : Json :=
  .obj [("path", .str t.path.text), ("params", params t.params),
    ("width", .ofNat t.size.width), ("height", .ofNat t.size.height)]

def location (l : Location) : Json :=
  .obj [("file", .str l.file), ("section", .ofText? l.sectionName?), ("key", .ofText? l.key?),
    ("line", optional .ofNat l.line?)]

def diagnostic (d : Diagnostic) : Json :=
  .obj [("severity", .str d.severity.name), ("critical", .bool d.critical),
    ("kind", .str d.kind.name), ("message", .str d.message), ("location", location d.location)]

end DriverDesk.Report
