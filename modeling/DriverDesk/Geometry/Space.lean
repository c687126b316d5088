import DriverDesk.Geometry.Viewport

/-!
# Pixel rectangles in eye space

`Rect` is a rectangle in panel pixels, `y` growing downwards. A `Space` says
where its corners lie on the panel plane; `Space.quad` turns it into a quad
around a pivot, so that the quad can be rotated in place.
-/

namespace DriverDesk

/-- A rectangle in panel pixels. -/
structure Rect (K : Type) where
  left : K
  top : K
  width : K
  height : K
  deriving Repr, Inhabited

namespace Rect

variable {K : Type} [Arith K]

/-- The square of side `2 · radius` around a point. -/
def around (center : Point K) (radius : K) : Rect K :=
  ⟨center.x - radius, center.y - radius, 2.0 * radius, 2.0 * radius⟩

/-- Whether the rectangle has no area. -/
def isDegenerate (r : Rect K) : Bool := r.width == 0.0 || r.height == 0.0

def center (r : Rect K) : Point K := ⟨r.left + 0.5 * r.width, r.top + 0.5 * r.height⟩

end Rect

/-- A vertex of a mesh, with its place in the texture. -/
structure Vertex (K : Type) where
  position : Vec K
  texcoord : Point K
  deriving Repr, Inhabited

/-- Four vertices relative to the eye-space position of their pivot. -/
structure Quad (K : Type) where
  bottomLeft : Vertex K
  topLeft : Vertex K
  topRight : Vertex K
  bottomRight : Vertex K
  offset : Vec K
  deriving Repr, Inhabited

namespace Quad

variable {K : Type} [Arith K]

/-- The vertices in the order of the face. -/
def vertices (q : Quad K) : List (Vertex K) :=
  [q.bottomLeft, q.topLeft, q.topRight, q.bottomRight]

/-- The eye-space corners. -/
def corners (q : Quad K) : List (Vec K) := q.vertices.map fun v => v.position.add q.offset

/-- The centroid of the vertices, relative to the pivot. -/
def centroid (q : Quad K) : Vec K :=
  ((q.vertices.map (·.position)).foldl Vec.add Vec.zero).scale 0.25

end Quad

/-- A coordinate system panels are authored in. -/
structure Space (K : Type) where
  /-- The left top and right bottom corners of a rectangle on the panel plane. -/
  project : Rect K → Point K × Point K
  /-- The eye of the driver, relative to the car. -/
  driver : Vec K

namespace Space

variable {K : Type} [Arith K]

/-- The quad of a rectangle, turning about `pivot` (fractions of the rectangle)
and standing `depth` in front of the panel plane. -/
def quad (s : Space K) (rect : Rect K) (pivot : Point K) (depth : K) : Quad K :=
  let (p, q) := s.project rect
  let xm := p.x * (1.0 - pivot.x) + q.x * pivot.x
  let ym := p.y * (1.0 - pivot.y) + q.y * pivot.y
  let vertex (x y u v : K) : Vertex K := ⟨⟨x - xm, y - ym, 0.0⟩, ⟨u, v⟩⟩
  { bottomLeft := vertex p.x q.y 0.0 1.0
    topLeft := vertex p.x p.y 0.0 0.0
    topRight := vertex q.x p.y 1.0 0.0
    bottomRight := vertex q.x q.y 1.0 1.0
    offset := ⟨xm, ym, eyeDistance - depth + s.driver.z⟩ }

end Space

end DriverDesk
