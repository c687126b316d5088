import DriverDesk.Element.Basic
import DriverDesk.Report.Basic

/-!
# Elements in reports

The JSON form of elements: their states, and the texts of the expressions they
are bound to.
-/

namespace DriverDesk.Report

def expr (e : Expr Float) : Json := .str e.text

def vertex (v : Vertex Float) : Json :=
  .obj [("position", vec v.position), ("texcoord", point v.texcoord)]

def material (m : Material) : Json :=
  .obj [("daytime", optional .ofNat m.daytime?), ("nighttime", optional .ofNat m.nighttime?),
    ("color", rgba m.tint), ("transparent_color", optional rgb m.key?)]

def mesh (m : Mesh Float) : Json :=
  .obj [("vertices", .arr (m.vertices.map vertex)),
    ("faces", .arr (m.faces.map fun f => .arr (f.map .ofNat))), ("material", material m.material)]

def state (s : ElementState Float) : Json :=
  .obj [("offset", vec s.offset), ("mesh", mesh s.mesh)]

def axes (a : Axes Float) : Json := .obj [("x", vec a.x), ("y", vec a.y), ("z", vec a.z)]

def damping (d : Damping Float) : Json :=
  .obj [("natural_frequency", .real d.naturalFrequency), ("damping_ratio", .real d.dampingRatio)]

def rotation (r : Rotation Float) : Json :=
  .obj [("axes", axes r.axes), ("function", expr r.function),
    ("damping", optional damping r.damping?),
    ("clamp", optional (fun c => .arr [.real c.1, .real c.2]) r.clamp?),
    ("smoothed", .bool r.smoothed)]

def sweep (s : Sweep Float) : Json :=
  .obj [("initial_angle", .real s.initialAngle), ("last_angle", .real s.lastAngle),
    ("clockwise", .bool s.clockwise), ("vectors", .arr (s.vectors.map vec)),
    ("function", expr s.function)]

def shift (s : Shift Float) : Json :=
  .obj [("direction", .arr [.int s.direction.1, .int s.direction.2]),
    ("function", expr s.function)]

/-- The three movements of an element, of which one at most is not `null`. -/
def motion (m : Motion Float) : List (String × Json) :=
  [("rotation", optional rotation m.rotation?), ("radial_sweep", optional sweep m.sweep?),
    ("texture_shift", optional shift m.shift?)]

def element (e : Element Float) : Json :=
  .obj ([("kind", .str e.kind.name), ("states", .arr (e.states.map state)),
    ("current_state", .ofNat e.current), ("state_function", optional expr e.stateFunction?)]
    ++ motion e.motion ++ [("timetable", .bool e.timetable)])

def elements (es : List (Element Float)) : Json := .arr (es.map element)

end DriverDesk.Report
