import DriverDesk.Element.Basic
import DriverDesk.Expr.AngleMap
import DriverDesk.Geometry.Camera
import DriverDesk.Proofs.Checked
import DriverDesk.Proofs.Headers
import DriverDesk.Proofs.Postfix

/-!
# Defined geometry and expressions

What a panel is laid out to in checked arithmetic is defined if all of its numbers have values.
Each way of making one from another divides by something that is not zero, if it starts from
defined numbers: a viewport by its aspect, a calibration by its resolution, an angle map by its
range, and an expression by a step or a power of ten.
-/

namespace DriverDesk

open Checked

/-! ## Points, vectors and quads -/

structure Point.Defined (p : Point Checked) : Prop where
  x : p.x.Defined
  y : p.y.Defined

structure Vec.Defined (v : Vec Checked) : Prop where
  x : v.x.Defined
  y : v.y.Defined
  z : v.z.Defined

structure Rect.Defined (r : Rect Checked) : Prop where
  left : r.left.Defined
  top : r.top.Defined
  width : r.width.Defined
  height : r.height.Defined

structure Vertex.Defined (v : Vertex Checked) : Prop where
  position : v.position.Defined
  texcoord : v.texcoord.Defined

structure Quad.Defined (q : Quad Checked) : Prop where
  vertices : ∀ v ∈ q.vertices, v.Defined
  offset : q.offset.Defined

/-- The middle of a rectangle, as the pivot of its quad. -/
theorem Point.defined_middle : (both 0.5 : Point Checked).Defined :=
  ⟨defined_ofScientific .., defined_ofScientific ..⟩

theorem Point.defined_zero : (zero : Point Checked).Defined :=
  ⟨defined_ofScientific .., defined_ofScientific ..⟩

theorem Point.Defined.overlay {p : Point Checked} {new : Option Checked × Option Checked}
    (h : p.Defined) (hx : ∀ x, new.1 = some x → x.Defined) (hy : ∀ y, new.2 = some y → y.Defined) :
    (p.overlay new).Defined := by
  obtain ⟨_ | x, _ | y⟩ := new
  · exact h
  · exact ⟨h.x, hy y rfl⟩
  · exact ⟨hx x rfl, h.y⟩
  · exact ⟨hx x rfl, hy y rfl⟩

theorem Vec.defined_zero : (zero : Vec Checked).Defined := by
  constructor <;> exact defined_ofScientific ..

theorem Vec.Defined.add {v w : Vec Checked} (hv : v.Defined) (hw : w.Defined) :
    (v.add w).Defined :=
  ⟨defined_add.mpr ⟨hv.x, hw.x⟩, defined_add.mpr ⟨hv.y, hw.y⟩, defined_add.mpr ⟨hv.z, hw.z⟩⟩

theorem Vec.Defined.scale {v : Vec Checked} {k : Checked} (hv : v.Defined) (hk : k.Defined) :
    (v.scale k).Defined :=
  ⟨defined_mul.mpr ⟨hv.x, hk⟩, defined_mul.mpr ⟨hv.y, hk⟩, defined_mul.mpr ⟨hv.z, hk⟩⟩

theorem Rect.defined_around {center : Point Checked} {radius : Checked} (hcenter : center.Defined)
    (hradius : radius.Defined) : (around center radius).Defined := by
  constructor <;> simp [around, hcenter.x, hcenter.y, hradius]

theorem Quad.Defined.centroid {q : Quad Checked} (h : q.Defined) : q.centroid.Defined := by
  have hvertices : ∀ v ∈ [q.bottomLeft, q.topLeft, q.topRight, q.bottomRight], v.Defined :=
    h.vertices
  simp only [List.forall_mem_cons] at hvertices
  obtain ⟨h₁, h₂, h₃, h₄, -⟩ := hvertices
  exact ((((Vec.defined_zero.add h₁.position).add h₂.position).add h₃.position).add
    h₄.position).scale (defined_ofScientific ..)

theorem defined_eyeDistance : (eyeDistance : Checked).Defined := defined_ofScientific ..

/-! ## Spaces -/

/-- A space that puts defined rectangles at defined corners, and rectangles without area at
corners without area. -/
structure Space.Sound (s : Space Checked) : Prop where
  depth : s.driver.z.Defined
  corners : ∀ r : Rect Checked, r.Defined →
    (s.project r).1.Defined ∧ (s.project r).2.Defined
  narrow : ∀ r : Rect Checked, r.width = value 0 → (s.project r).1.x = (s.project r).2.x
  low : ∀ r : Rect Checked, r.height = value 0 → (s.project r).1.y = (s.project r).2.y

/-- The mesh has no area: its vertices stand above each other or side by side. -/
def Mesh.Flat (m : Mesh Checked) : Prop :=
  (∃ x, ∀ v ∈ m.vertices, v.position.x = x) ∨ ∃ y, ∀ v ∈ m.vertices, v.position.y = y

namespace Space.Sound

variable {s : Space Checked} {rect : Rect Checked} {pivot : Point Checked} {depth : Checked}

theorem quad_defined (h : s.Sound) (hrect : rect.Defined) (hpivot : pivot.Defined)
    (hdepth : depth.Defined) : (s.quad rect pivot depth).Defined := by
  obtain ⟨⟨hpx, hpy⟩, hqx, hqy⟩ := h.corners rect hrect
  refine ⟨?_, ?_⟩
  · simp only [quad, Quad.vertices, List.forall_mem_cons]
    refine ⟨?_, ?_, ?_, ?_, List.forall_mem_nil _⟩ <;>
      refine ⟨⟨?_, ?_, ?_⟩, ⟨?_, ?_⟩⟩ <;> simp [hpx, hpy, hqx, hqy, hpivot.x, hpivot.y]
  · refine ⟨?_, ?_, ?_⟩ <;>
      simp [quad, hpx, hpy, hqx, hqy, hpivot.x, hpivot.y, hdepth, h.depth, defined_eyeDistance]

/-- A rectangle without area stands as a quad without area. -/
theorem quad_flat (h : s.Sound) (hrect : rect.isDegenerate = true) (m : Material) :
    (Mesh.ofQuad (s.quad rect pivot depth) m).Flat := by
  rw [Rect.isDegenerate, Bool.or_eq_true, beq_zero_iff, beq_zero_iff] at hrect
  rcases hrect with hwidth | hheight
  · refine .inl ⟨(s.quad rect pivot depth).bottomLeft.position.x, ?_⟩
    simp [Mesh.ofQuad, quad, Quad.vertices, h.narrow rect hwidth]
  · refine .inr ⟨(s.quad rect pivot depth).bottomLeft.position.y, ?_⟩
    simp [Mesh.ofQuad, quad, Quad.vertices, h.low rect hheight]

end Space.Sound

/-! ## Viewports, calibrations and frames -/

/-- A viewport with an aspect that may be divided by. -/
structure Viewport.Sound (v : Viewport Checked) : Prop where
  aspect : v.aspect.Divisor
  horizontalHalf : v.horizontalHalf.Defined
  verticalHalf : v.verticalHalf.Defined

theorem Viewport.Sound.worldSize {v : Viewport Checked} (h : v.Sound) {frameAspect : Checked}
    (hframe : frameAspect.Divisor) : (v.worldSize frameAspect).Defined := by
  unfold Viewport.worldSize
  split <;> constructor <;>
    simp [h.aspect, h.horizontalHalf, h.verticalHalf, hframe, hframe.defined, defined_eyeDistance]

/-- A calibration with a resolution that may be divided by. -/
structure Calibration.Sound (c : Calibration Checked) : Prop where
  resolution : c.resolution.Divisor
  left : c.left.Defined
  right : c.right.Defined
  top : c.top.Defined
  bottom : c.bottom.Defined
  center : c.center.Defined
  origin : c.origin.Defined

/-- The top of what the screen shows is one screen above its bottom, which is not nothing. -/
theorem Calibration.Sound.space {c : Calibration Checked} (h : c.Sound) {v : Viewport Checked}
    (hv : v.Sound) {driver : Vec Checked} (hdriver : driver.Defined) :
    (c.space v driver).Sound := by
  have hworld := hv.worldSize hv.aspect
  have hrange : (c.bottom - (c.bottom - c.resolution / v.aspect)).Divisor :=
    divisor_sub_sub h.bottom (divisor_div.mpr ⟨h.resolution, hv.aspect⟩)
  refine ⟨hdriver.z, fun r hr => ⟨⟨?_, ?_⟩, ⟨?_, ?_⟩⟩, fun r hr => ?_, fun r hr => ?_⟩
  iterate 4
    simp [Calibration.space, project, h.resolution, h.resolution.defined, h.bottom, h.center.x,
      h.center.y, hv.aspect, hv.aspect.defined, hr.left, hr.top, hr.width, hr.height, hworld.x,
      hworld.y, hrange, hdriver.x, hdriver.y]
  · simp [Calibration.space, project, hr, add_value_zero]
  · simp [Calibration.space, project, hr, add_value_zero]

/-- A frame whose measures have values. -/
structure Frame.Sound (f : Frame Checked) : Prop where
  semiHeight : f.semiHeight.Defined
  worldWidth : f.worldWidth.Defined
  worldHeight : f.worldHeight.Defined
  worldLeft : f.worldLeft.Defined
  worldTop : f.worldTop.Defined

namespace Frame

theorem divisor_pixelWidth : (pixelWidth : Checked).Divisor := by simp [pixelWidth]

theorem divisor_pixelHeight : (pixelHeight : Checked).Divisor := by simp [pixelHeight]

theorem sound_centered {v : Viewport Checked} (hv : v.Sound) {driver : Vec Checked}
    (hdriver : driver.Defined) : (centered v driver).Sound := by
  have hworld := hv.worldSize (divisor_div.mpr ⟨divisor_pixelWidth, divisor_pixelHeight⟩)
  constructor <;> simp [centered, hworld.x, hworld.y, hdriver.x, hdriver.y]

theorem Sound.space {f : Frame Checked} (h : f.Sound) {driver : Vec Checked}
    (hdriver : driver.Defined) : (f.space driver).Sound := by
  refine ⟨hdriver.z, fun r hr => ⟨⟨?_, ?_⟩, ⟨?_, ?_⟩⟩, fun r hr => ?_, fun r hr => ?_⟩
  iterate 4
    simp [Frame.space, toWorld, h.worldLeft, h.worldTop, h.worldWidth, h.worldHeight, hr.left,
      hr.top, hr.width, hr.height, divisor_pixelWidth, divisor_pixelHeight]
  · simp [Frame.space, toWorld, hr, add_value_zero]
  · simp [Frame.space, toWorld, hr, add_value_zero]

end Frame

/-! ## Cameras -/

structure Camera.Defined (c : Camera Checked) : Prop where
  bottomLeft : c.bottomLeft.Defined
  topRight : c.topRight.Defined
  yaw : c.yaw.Defined
  pitch : c.pitch.Defined

theorem Camera.defined_ofCalibration {c : Calibration Checked} (h : c.Sound)
    {v : Viewport Checked} (hv : v.Sound) : (ofCalibration c v).Defined := by
  have hworld := hv.worldSize hv.aspect
  refine ⟨⟨?_, ?_, ?_⟩, ⟨?_, ?_, ?_⟩, ?_, ?_⟩ <;>
    simp [ofCalibration, h.resolution, h.left, h.right, h.top, h.bottom, h.center.x, h.center.y,
      h.origin.x, h.origin.y, hv.aspect.defined, hworld.x, hworld.y, defined_eyeDistance]

theorem Camera.defined_ofFrame {f : Frame Checked} (h : f.Sound) {yaw pitch : Checked}
    (hyaw : yaw.Defined) (hpitch : pitch.Defined) : (ofFrame f yaw pitch).Defined := by
  refine ⟨⟨?_, ?_, ?_⟩, ⟨?_, ?_, ?_⟩, ?_, ?_⟩ <;>
    simp [ofFrame, framePitch, h.worldWidth, h.worldHeight, hyaw, hpitch, defined_eyeDistance]

/-! ## Expressions -/

def Word.Defined : Word Checked → Prop
  | .number x => x.Defined
  | _ => True

def Expr.Defined (e : Expr Checked) : Prop := ∀ w ∈ e, w.Defined

theorem Expr.Defined.append {e f : Expr Checked} (he : e.Defined) (hf : f.Defined) :
    Expr.Defined (e ++ f) :=
  List.forall_mem_append.mpr ⟨he, hf⟩

theorem Arith.divisor_powLoop {fuel m : Nat} {a acc : Checked} (ha : a.Divisor)
    (hacc : acc.Divisor) : (powLoop fuel m a acc).Divisor := by
  induction fuel generalizing m a acc with
  | zero => exact hacc
  | succ fuel ih =>
    have hacc' : (if m % 2 = 1 then acc * a else acc).Divisor := by
      split
      · exact divisor_mul.mpr ⟨hacc, ha⟩
      · exact hacc
    rw [powLoop]
    split
    · exact hacc'
    · exact ih (divisor_mul.mpr ⟨ha, ha⟩) hacc'

/-- A power is not zero, so its reciprocal has a value. -/
theorem Arith.divisor_power {a : Checked} (ha : a.Divisor) (n : Int) : (power a n).Divisor := by
  have hone : (1.0 : Checked).Divisor := by simp
  unfold power
  split
  · exact divisor_div.mpr ⟨hone, divisor_powLoop ha hone⟩
  · exact divisor_powLoop ha hone

namespace Subject

open Operator Word

theorem defined_digitSelector (n : Int) : (digitSelector n : Expr Checked).Defined := by
  have hpower (n : Int) : (Arith.power (10.0 : Checked) n).Defined :=
    (Arith.divisor_power (by simp) n).defined
  unfold digitSelector
  split <;> simp [Expr.Defined, Word.Defined, hpower]

theorem defined_of_fixed {subject : String} {e : Expr Checked} (h : fixed? subject = some e) :
    e.Defined := by
  unfold fixed? at h
  split at h
  case h_20 =>
    split at h
    · exact Option.some.inj h ▸ by simp [Expr.Defined, Word.Defined]
    · cases h
  all_goals
    exact Option.some.inj h ▸ by simp [Expr.Defined, Word.Defined, scaled, clock, speedIn]

theorem defined_of_indexed {cars : Nat} {subject : String} {e : Expr Checked}
    (h : indexed? cars subject = some e) : e.Defined := by
  have hdoors (car : Int) (side : Operator) : (doors cars car side : Expr Checked).Defined := by
    unfold doors
    split <;> simp [Expr.Defined, Word.Defined]
  unfold indexed? at h
  split at h
  · simp only [Option.bind_eq_bind, Option.bind_eq_some_iff] at h
    obtain ⟨n, -, h⟩ := h
    split at h
    · exact Option.some.inj h ▸ by simp [Expr.Defined, Word.Defined]
    · cases h
  · split at h
    · obtain ⟨n, -, rfl⟩ := Option.map_eq_some_iff.mp h
      exact hdoors n _
    · split at h
      · obtain ⟨n, -, rfl⟩ := Option.map_eq_some_iff.mp h
        exact hdoors n _
      · cases h

/-- Whatever a section names as its subject, the numbers of the expression have values. -/
theorem defined_expression (cars : Nat) (subject : String) (location : Location) :
    (expression cars subject location).value.Defined := by
  rw [value_expression]
  refine Expr.Defined.append ?_ ?_
  · cases hbase : resolve? (K := Checked) cars _ with
    | none => simp [inert, Expr.Defined, Word.Defined]
    | some e =>
      unfold resolve? at hbase
      dsimp only at hbase
      split at hbase
      next he => exact Option.some.inj hbase ▸ defined_of_fixed he
      next => exact defined_of_indexed hbase
  · cases (splitDigit _).2 with
    | none => exact List.forall_mem_nil _
    | some n => exact defined_digitSelector n

end Subject

/-- An angle map whose range may be divided by. -/
structure AngleMap.Sound (m : AngleMap Checked) : Prop where
  initial : m.initial.Defined
  last : m.last.Defined
  minimum : m.minimum.Defined
  maximum : m.maximum.Defined
  range : (m.maximum - m.minimum).Divisor

namespace AngleMap.Sound

variable {m : AngleMap Checked}

theorem coefficients (h : m.Sound) : m.coefficients.1.Defined ∧ m.coefficients.2.Defined := by
  constructor <;> simp [AngleMap.coefficients, h.initial, h.last, h.minimum, h.maximum, h.range]

theorem expression (h : m.Sound) {value : Expr Checked} (hvalue : value.Defined) :
    (m.expression value).Defined :=
  hvalue.append (by simp [Expr.Defined, Word.Defined, h.coefficients])

end AngleMap.Sound

/-- A step of zero leaves its value as it is, and any other has a reciprocal. -/
theorem defined_quantize {step : Checked} (h : step.Defined) : (quantize step).Defined := by
  unfold quantize
  split
  · simp [Expr.Defined, Word.Defined]
  split
  · exact nofun
  next hzero => simp [Expr.Defined, Word.Defined, h, divisor_of_bne h hzero]

/-! ## Elements -/

structure ElementState.Defined (s : ElementState Checked) : Prop where
  offset : s.offset.Defined
  vertices : ∀ v ∈ s.mesh.vertices, v.Defined

structure Rotation.Defined (r : Rotation Checked) : Prop where
  axes : r.axes.x.Defined ∧ r.axes.y.Defined ∧ r.axes.z.Defined
  function : r.function.Defined
  damping : ∀ d, r.damping? = some d → d.naturalFrequency.Defined ∧ d.dampingRatio.Defined
  clamp : ∀ c, r.clamp? = some c → c.1.Defined ∧ c.2.Defined

structure Sweep.Defined (s : Sweep Checked) : Prop where
  initialAngle : s.initialAngle.Defined
  lastAngle : s.lastAngle.Defined
  vectors : ∀ v ∈ s.vectors, v.Defined
  function : s.function.Defined

def Motion.Defined : Motion Checked → Prop
  | .still => True
  | .turning r => r.Defined
  | .sweeping s => s.Defined
  | .scrolling s => s.function.Defined

/-- Every number of the element has a value. -/
structure Element.Defined (e : Element Checked) : Prop where
  states : ∀ s ∈ e.states, s.Defined
  function : ∀ f, e.stateFunction? = some f → f.Defined
  motion : e.motion.Defined

theorem Space.Sound.state_defined {s : Space Checked} (h : s.Sound) {rect : Rect Checked}
    {pivot : Point Checked} {depth : Checked} (hrect : rect.Defined) (hpivot : pivot.Defined)
    (hdepth : depth.Defined) (m : Material) :
    ElementState.Defined
      ⟨(s.quad rect pivot depth).offset, .ofQuad (s.quad rect pivot depth) m⟩ :=
  have hquad := h.quad_defined hrect hpivot hdepth
  ⟨hquad.offset, hquad.vertices⟩

theorem Rotation.defined_free {function : Expr Checked} (h : function.Defined) :
    (free function).Defined where
  axes := by
    refine ⟨⟨?_, ?_, ?_⟩, ⟨?_, ?_, ?_⟩, ⟨?_, ?_, ?_⟩⟩ <;> simp [free, Axes.panel]
  function := h
  damping := nofun
  clamp := nofun

theorem Sweep.defined_over {q : Quad Checked} (hq : q.Defined) {initial last : Checked}
    (hinitial : initial.Defined) (hlast : last.Defined) {function : Expr Checked}
    (h : function.Defined) : (Sweep.over q initial last function).Defined where
  initialAngle := hinitial
  lastAngle := hlast
  vectors := by
    refine List.forall_mem_append.mpr ⟨fun v hv => ?_, List.forall_mem_singleton.mpr hq.centroid⟩
    obtain ⟨vertex, hvertex, rfl⟩ := List.mem_map.mp hv
    exact (hq.vertices vertex hvertex).position
  function := h

theorem ElementState.defined_sweepFan {q : Quad Checked} (hq : q.Defined) (m : Material) :
    ElementState.Defined ⟨q.offset, .sweepFan m⟩ where
  offset := hq.offset
  vertices := by
    intro v hv
    rw [List.eq_of_mem_replicate hv]
    exact ⟨Vec.defined_zero, Point.defined_zero⟩

namespace Element

variable {kind : ElementKind} {s : ElementState Checked}

theorem defined_single (hs : s.Defined) : (single kind s).Defined :=
  ⟨List.forall_mem_singleton.mpr hs, nofun, trivial⟩

theorem Defined.selectedBy {e : Element Checked} (he : e.Defined) {function : Expr Checked}
    (h : function.Defined) : (e.selectedBy function).Defined :=
  ⟨he.states, fun _ hf => Option.some.inj hf ▸ h, he.motion⟩

theorem Defined.moving {e : Element Checked} (he : e.Defined) {m : Motion Checked}
    (h : m.Defined) : (e.moving m).Defined :=
  ⟨he.states, he.function, h⟩

end Element

end DriverDesk
