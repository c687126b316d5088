import DriverDesk.Expr.Basic
import DriverDesk.Geometry.Space
import DriverDesk.Texture

/-!
# Elements

An element is one visible part of an instrument: the states it can show, the
expression that selects one, and the motion another expression drives.
-/

namespace DriverDesk

/-- The instrument an element belongs to. -/
inductive ElementKind where
  | background
  | pilotLamp
  | needle
  | linearGauge
  | digitalNumber
  | digitalGauge
  | timetable
  | pressureGauge
  | speedometer
  | digitalIndicator
  | clock
  | brakeIndicator
  deriving DecidableEq, Repr, Inhabited

/-- Textures and tint of a mesh. -/
structure Material where
  daytime? : Option TextureId
  nighttime? : Option TextureId
  tint : Rgba
  /-- The transparent colour of the daytime texture. -/
  key? : Option Rgb
  deriving DecidableEq, Repr, Inhabited

namespace Material

/-- A tint and textures without a transparent colour. -/
def plain (daytime? nighttime? : Option TextureId) (tint : Rgba) : Material :=
  ⟨daytime?, nighttime?, tint, none⟩

/-- Note the colour the daytime texture was keyed with, if there is one. -/
def keyed (m : Material) (key : Rgb) : Material :=
  if m.daytime?.isSome then { m with key? := some key } else m

end Material

structure Mesh (K : Type) where
  vertices : List (Vertex K)
  /-- The vertex indices of each face. -/
  faces : List (List Nat)
  material : Material

namespace Mesh

variable {K : Type} [Arith K]

/-- One face with four vertices. -/
def ofQuad (q : Quad K) (m : Material) : Mesh K := ⟨q.vertices, [[0, 1, 2, 3]], m⟩

/-- The fan of a sweep: five triangles around vertex 0, whose vertices are placed
while the train runs. -/
def sweepFan (m : Material) : Mesh K :=
  ⟨List.replicate 11 ⟨Vec.zero, Point.zero⟩,
   [[0, 1, 2], [0, 3, 4], [0, 5, 6], [0, 7, 8], [0, 9, 10]], m⟩

end Mesh

/-- One state an element can show. -/
structure ElementState (K : Type) where
  /-- The eye-space position of the pivot. -/
  offset : Vec K
  mesh : Mesh K

/-- The spring a needle turns against. -/
structure Damping (K : Type) where
  /-- In radians per second. -/
  naturalFrequency : K
  dampingRatio : K

/-- The frame a needle turns in. -/
structure Axes (K : Type) where
  x : Vec K
  y : Vec K
  z : Vec K

/-- The axes of a needle in the panel plane. -/
def Axes.panel {K : Type} [Arith K] : Axes K :=
  ⟨⟨1.0, 0.0, 0.0⟩, ⟨0.0, -1.0, 0.0⟩, ⟨0.0, 0.0, -1.0⟩⟩

/-- How a needle turns. -/
structure Rotation (K : Type) where
  axes : Axes K
  /-- The angle in radians. -/
  function : Expr K
  damping? : Option (Damping K)
  /-- The angles the needle stops at. -/
  clamp? : Option (K × K)
  smoothed : Bool

/-- A needle without spring and stops. -/
def Rotation.free {K : Type} [Arith K] (function : Expr K) : Rotation K :=
  ⟨Axes.panel, function, none, none, false⟩

/-- How a sweep fills its quad. -/
structure Sweep (K : Type) where
  initialAngle : K
  lastAngle : K
  clockwise : Bool
  /-- The corners of the quad and their centroid. -/
  vectors : List (Vec K)
  function : Expr K

/-- The sweep of a quad between two angles. -/
def Sweep.over {K : Type} [Arith K] (q : Quad K) (initial last : K) (function : Expr K) :
    Sweep K :=
  ⟨initial, last, decide (initial ≤ last), q.vertices.map (·.position) ++ [q.centroid], function⟩

/-- How a texture is shifted along its gauge. -/
structure Shift (K : Type) where
  direction : Int × Int
  function : Expr K

/-- What an expression moves about an element. An element has three optional movements, a
rotation, a sweep and a shift, and no builder gives it more than one; this is the one. -/
inductive Motion (K : Type) where
  | still
  | turning (r : Rotation K)
  | sweeping (s : Sweep K)
  | scrolling (s : Shift K)

namespace Motion

variable {K : Type}

def rotation? : Motion K → Option (Rotation K)
  | turning r => some r
  | _ => none

def sweep? : Motion K → Option (Sweep K)
  | sweeping s => some s
  | _ => none

def shift? : Motion K → Option (Shift K)
  | scrolling s => some s
  | _ => none

end Motion

structure Element (K : Type) where
  kind : ElementKind
  states : List (ElementState K)
  /-- The state shown first. -/
  current : Nat
  /-- Selects the state to show; an index out of range hides the element. -/
  stateFunction? : Option (Expr K)
  motion : Motion K
  /-- Whether the timetable of the train is drawn on it. -/
  timetable : Bool

namespace Element

variable {K : Type}

/-- An element with one state and no motion. -/
def single (kind : ElementKind) (s : ElementState K) : Element K :=
  ⟨kind, [s], 0, none, .still, false⟩

/-- Select the state to show. -/
def selectedBy (e : Element K) (function : Expr K) : Element K :=
  { e with stateFunction? := some function }

def moving (e : Element K) (m : Motion K) : Element K := { e with motion := m }

/-- Add a state behind the others. -/
def addState (e : Element K) (s : ElementState K) : Element K :=
  { e with states := e.states ++ [s] }

end Element

namespace ElementKind

def name : ElementKind → String
  | background => "Background"
  | pilotLamp => "PilotLamp"
  | needle => "Needle"
  | linearGauge => "LinearGauge"
  | digitalNumber => "DigitalNumber"
  | digitalGauge => "DigitalGauge"
  | timetable => "Timetable"
  | pressureGauge => "PressureGauge"
  | speedometer => "Speedometer"
  | digitalIndicator => "DigitalIndicator"
  | clock => "Clock"
  | brakeIndicator => "BrakeIndicator"

def all : List ElementKind :=
  [background, pilotLamp, needle, linearGauge, digitalNumber, digitalGauge, timetable,
   pressureGauge, speedometer, digitalIndicator, clock, brakeIndicator]

def ofName? (s : String) : Option ElementKind := all.find? fun k => k.name == s

end ElementKind

end DriverDesk
