import Mathlib
import DriverDesk.Proofs.Gauges
import DriverDesk.Proofs.Projection

/-!
# Pivots

Needles, hands and sweeps stand relative to the point they turn about, read exactly. A space
carries pixels to the panel plane by a linear map on each axis; so the pivot of a quad is where
its pixel lies, and moving the pivot moves no corner. A quad that turns about its middle is the
same upside down.
-/

namespace DriverDesk

open Build Step

/-! ## Spaces -/

/-- A space that panels are drawn in, of either format. -/
inductive PanelSpace where
  | calibrated (c : Calibration ℝ) (v : Viewport ℝ) (driver : Vec ℝ)
  | framed (f : Frame ℝ) (driver : Vec ℝ)

noncomputable def PanelSpace.space : PanelSpace → Space ℝ
  | calibrated c v driver => c.space v driver
  | framed f driver => f.space driver

namespace Space

/-- Where a pixel lies on the panel plane: where a rectangle without area does. -/
def pixel (space : Space ℝ) (p : Point ℝ) : Point ℝ := (space.project ⟨p.x, p.y, 0, 0⟩).1

/-- The corners of a rectangle on the panel plane, in the order of a face. -/
noncomputable def outline (space : Space ℝ) (r : Rect ℝ) : List (Point ℝ) :=
  [space.pixel ⟨r.left, r.top + r.height⟩, space.pixel ⟨r.left, r.top⟩,
    space.pixel ⟨r.left + r.width, r.top⟩, space.pixel ⟨r.left + r.width, r.top + r.height⟩]

/-- Each axis is carried to the panel plane by a linear map. -/
def Linear (space : Space ℝ) : Prop :=
  ∃ x₀ dx y₀ dy : ℝ, ∀ r, space.project r =
    (⟨x₀ + dx * r.left, y₀ + dy * r.top⟩,
      ⟨x₀ + dx * (r.left + r.width), y₀ + dy * (r.top + r.height)⟩)

/-- The corners stand around the offset as the rectangle does around the pixel `center`: the
offset is where that lies, at its depth in front of the panel plane. -/
structure Pivots (space : Space ℝ) (r : Rect ℝ) (center : Point ℝ) (depth : ℝ) (offset : Vec ℝ)
    (corners : List (Vec ℝ)) : Prop where
  pivot : offset = ⟨(space.pixel center).x, (space.pixel center).y, 1 - depth + space.driver.z⟩
  outline : corners.map (fun v => (⟨v.x + offset.x, v.y + offset.y⟩ : Point ℝ)) = space.outline r

end Space

theorem PanelSpace.linear_space (p : PanelSpace) : p.space.Linear := by
  cases p with
  | calibrated c v driver =>
    let world := v.worldSize v.aspect
    let yt := c.bottom - c.resolution / v.aspect
    refine ⟨(0.5 - c.center.x / c.resolution - 0.5) * world.x + driver.x, world.x / c.resolution,
      (c.bottom / c.resolution * v.aspect + ((c.center.y - yt) / (c.bottom - yt) - 0.5) - 0.5) *
        world.y + driver.y, -(v.aspect * world.y / c.resolution), fun r => ?_⟩
    simp only [space, Calibration.space, Calibration.project, Prod.mk.injEq, Point.mk.injEq]
    refine ⟨⟨?_, ?_⟩, ?_, ?_⟩ <;> ring
  | framed f driver =>
    refine ⟨f.worldLeft, f.worldWidth / Frame.pixelWidth, f.worldTop,
      -(f.worldHeight / Frame.pixelHeight), fun r => ?_⟩
    simp only [space, Frame.space, Frame.toWorld, Prod.mk.injEq, Point.mk.injEq]
    refine ⟨⟨?_, ?_⟩, ?_, ?_⟩ <;> ring

/-! ## Quads -/

namespace Space

variable {space : Space ℝ}

/-- The pivot cancels in the corners, and it is the pixel at its fractions of the rectangle. -/
theorem Linear.quad_pivots (h : space.Linear) (r : Rect ℝ) (pivot : Point ℝ) (depth : ℝ) :
    space.Pivots r ⟨r.left + pivot.x * r.width, r.top + pivot.y * r.height⟩ depth
      (space.quad r pivot depth).offset ((space.quad r pivot depth).vertices.map (·.position)) := by
  obtain ⟨x₀, dx, y₀, dy, hproject⟩ := h
  have hone : (1.0 : ℝ) = 1 := by norm_num
  constructor
  · simp only [quad, pixel, hproject, eyeDistance, hone, Vec.mk.injEq, and_true]
    constructor <;> ring
  · simp only [quad, pixel, outline, hproject, Quad.vertices, List.map_cons, List.map_nil,
      add_zero, sub_add_cancel]

/-- The middle of a rectangle. -/
theorem Linear.quad_middle (h : space.Linear) (r : Rect ℝ) (depth : ℝ) :
    space.Pivots r r.center depth (space.quad r (.both 0.5) depth).offset
      ((space.quad r (.both 0.5) depth).vertices.map (·.position)) :=
  h.quad_pivots r (.both 0.5) depth

/-- About its middle a quad is the same upside down. -/
theorem quad_opposite (space : Space ℝ) (r : Rect ℝ) (depth : ℝ) :
    ∃ a b : Vec ℝ,
      (space.quad r (.both 0.5) depth).vertices.map (·.position) =
        [a, b, a.scale (-1), b.scale (-1)] ∧
      (space.quad r (.both 0.5) depth).centroid = ⟨0, 0, 0⟩ := by
  have hhalf : (0.5 : ℝ) = 1 / 2 := by norm_num
  have hzero : (0.0 : ℝ) = 0 := by norm_num
  have hone : (1.0 : ℝ) = 1 := by norm_num
  refine ⟨_, _, List.cons_eq_cons.mpr ⟨rfl, List.cons_eq_cons.mpr ⟨rfl, ?_⟩⟩, ?_⟩
  · simp only [quad, Point.both, Vec.scale, hhalf, hzero, hone, List.map_cons, List.map_nil,
      List.cons.injEq, Vec.mk.injEq, and_true]
    refine ⟨⟨?_, ?_, ?_⟩, ?_, ?_, ?_⟩ <;> ring
  · simp only [Quad.centroid, Quad.vertices, quad, Point.both, Vec.scale, Vec.add, Vec.zero, hhalf,
      hzero, hone, List.map_cons, List.map_nil, List.foldl_cons, List.foldl_nil, Vec.mk.injEq]
    refine ⟨?_, ?_, ?_⟩ <;> ring

end Space

theorem Rect.center_around (center : Point ℝ) (radius : ℝ) :
    (Rect.around center radius).center = center := by
  have hhalf : (0.5 : ℝ) * (2.0 * radius) = radius := by norm_num; ring
  simp only [Rect.center, around, hhalf, sub_add_cancel]

theorem Framed.center_handRect (center : Point ℝ) (radius : ℝ) (size : Point ℝ) :
    (handRect center radius size).center = center := by
  have hhalf (k : ℝ) : (0.5 : ℝ) * (2.0 * k) = k := by norm_num; ring
  simp only [Rect.center, handRect, mul_assoc, hhalf, sub_add_cancel]

/-! ## Elements -/

variable {σ : Type}

/-- A quad whose pivot is the middle of its rectangle: opposite corners are negatives of each
other. -/
structure Space.Centers (space : Space ℝ) (r : Rect ℝ) (center : Point ℝ) (depth : ℝ)
    (offset : Vec ℝ) (corners : List (Vec ℝ)) : Prop where
  pivots : space.Pivots r center depth offset corners
  opposite : ∃ a b : Vec ℝ, corners = [a, b, a.scale (-1), b.scale (-1)]

theorem Space.Linear.quad_centers {space : Space ℝ} (h : space.Linear) {r : Rect ℝ}
    {center : Point ℝ} (hcenter : r.center = center) (depth : ℝ) :
    space.Centers r center depth (space.quad r (.both 0.5) depth).offset
      ((space.quad r (.both 0.5) depth).vertices.map (·.position)) := by
  obtain ⟨a, b, hcorners, -⟩ := space.quad_opposite r depth
  exact ⟨hcenter ▸ h.quad_middle r depth, a, b, hcorners⟩

namespace Element

/-- The element has one state, which turns and shows all of an image as the store loads it; the
state stands as `P` says of the size of the image. -/
def Turns (store : TextureStore σ) (path : Path) (params : TextureParams)
    (P : PixelSize → Vec ℝ → List (Vec ℝ) → Prop) (e : Element ℝ) : Prop :=
  ∃ t id size state r, store.load? t path params = some (id, size) ∧ e.states = [state] ∧
    state.mesh.material.daytime? = some id ∧ e.motion = .turning r ∧
    P size state.offset (state.mesh.vertices.map (·.position))

/-- The element sweeps a square around the pixel `center`, and the last of its vectors, which is
their centroid, is zero. -/
def Sweeps (space : Space ℝ) (center : Point ℝ) (radius depth : ℝ) (e : Element ℝ) : Prop :=
  ∃ state w corners, e.states = [state] ∧ e.motion = .sweeping w ∧
    w.vectors = corners ++ [⟨0, 0, 0⟩] ∧
    space.Centers (.around center radius) center depth state.offset corners

theorem sweeps_over {space : Space ℝ} (h : space.Linear) (kind : ElementKind) (center : Point ℝ)
    (radius depth : ℝ) (m : Material) (initial last : ℝ) (function : Expr ℝ) :
    let quad := space.quad (.around center radius) (.both 0.5) depth
    ((single kind ⟨quad.offset, .sweepFan m⟩).moving
      (.sweeping (.over quad initial last function))).Sweeps space center radius depth := by
  intro quad
  obtain ⟨_, _, -, hcentroid⟩ := space.quad_opposite (.around center radius) depth
  refine ⟨_, _, _, rfl, rfl, ?_, h.quad_centers (Rect.center_around center radius) depth⟩
  rw [Sweep.over, hcentroid]

end Element

/-- All elements among the steps have `P`. -/
def Step.Each (P : Element ℝ → Prop) (steps : List (Step ℝ)) : Prop :=
  ∀ e, .element e ∈ steps → P e

theorem Step.each_nil {P : Element ℝ → Prop} : Each P [] := fun _ h => nomatch h

theorem Step.each_single {P : Element ℝ → Prop} {e : Element ℝ} (h : P e) :
    Each P [.element e] := by
  intro e' he'
  cases List.mem_singleton.mp he'
  exact h

variable {env : BuildEnv ℝ σ} {t : σ}

/-! ## Calibrated panels -/

namespace Calibrated

namespace Needle

/-- How a needle stands with an image of the size: its pivot pixel, in the scale of the needle,
is at its location, and with a radius and a vertical origin its top edge is the radius above. -/
structure Stands (n : Needle ℝ) (space : Space ℝ) (size : Point ℝ) (offset : Vec ℝ)
    (corners : List (Vec ℝ)) : Prop where
  pivots : space.Pivots (n.rect size) n.location (depthOf n.layer) offset corners
  scaled : ∃ k, n.rect size = ⟨n.location.x - k * (n.pivotPixel size).x,
    n.location.y - k * (n.pivotPixel size).y, k * size.x, k * size.y⟩
  top : n.radius ≠ 0 → (n.pivotPixel size).y ≠ 0 → (n.rect size).top = n.location.y - n.radius

theorem rect_eq (n : Needle ℝ) {size : Point ℝ} (hx : size.x ≠ 0) (hy : size.y ≠ 0) :
    n.rect size = ⟨n.location.x - n.scale size * (n.pivotPixel size).x,
      n.location.y - n.scale size * (n.pivotPixel size).y, n.scale size * size.x,
      n.scale size * size.y⟩ := by
  simp only [rect, pivot, Rect.mk.injEq]
  refine ⟨?_, ?_, ?_, ?_⟩
  · field_simp
  · field_simp
  · ring
  · ring

theorem scale_eq (n : Needle ℝ) {size : Point ℝ} (hradius : n.radius ≠ 0)
    (horigin : (n.pivotPixel size).y ≠ 0) : n.scale size = n.radius / (n.pivotPixel size).y := by
  have hzero : (0.0 : ℝ) = 0 := by norm_num
  refine if_neg fun h => ?_
  rw [Bool.or_eq_true, Arith.beq_iff_eq, Arith.beq_iff_eq, hzero] at h
  exact h.elim hradius horigin

theorem stands (n : Needle ℝ) {space : Space ℝ} (h : space.Linear) {size : Point ℝ}
    (hx : size.x ≠ 0) (hy : size.y ≠ 0) :
    let quad := space.quad (n.rect size) (n.pivot size) (depthOf n.layer)
    n.Stands space size quad.offset (quad.vertices.map (·.position)) := by
  intro quad
  have hlocation : (⟨(n.rect size).left + (n.pivot size).x * (n.rect size).width,
      (n.rect size).top + (n.pivot size).y * (n.rect size).height⟩ : Point ℝ) = n.location := by
    simp only [rect, sub_add_cancel]
  refine ⟨?_, ⟨_, n.rect_eq hx hy⟩, fun hradius horigin => ?_⟩
  · exact hlocation ▸ h.quad_pivots (n.rect size) (n.pivot size) (depthOf n.layer)
  · rw [n.rect_eq hx hy, n.scale_eq hradius horigin, div_mul_cancel₀ _ horigin]

/-- A needle whose image has an area stands on its location. -/
def Turning (n : Needle ℝ) (store : TextureStore σ) (space : Space ℝ) : List (Step ℝ) → Prop :=
  Each fun e => ∃ day, n.daytime? = some day ∧
    e.Turns store day (.keyed n.key) fun size offset corners =>
      0 < size.width → 0 < size.height → n.Stands space (lengths size) offset corners

theorem build_turns (n : Needle ℝ) (s : Section) {space : Space ℝ} (h : space.Linear) :
    Yields env t (n.build s space) (n.Turning env.store space) := by
  unfold build
  cases hday : n.daytime? with
  | none => exact (giveUp_gives s _ each_nil).yields
  | some day =>
  refine .ite (fun _ => (giveUp_gives s _ each_nil).yields) fun _ => ?_
  refine (texture_yields s _ _).bindOption (fun _ => .pure each_nil)
    fun ⟨texture, length⟩ _ hfound => ?_
  obtain ⟨⟨id, size⟩, hload, hsize⟩ := Option.map_eq_some_iff.mp hfound.symm
  cases hsize
  refine (optionalTexture_gives s _ _).yields.bind fun night _ _ => ?_
  refine (quadState_asks s _ _ _ _ _).yields.bind fun state _ hstate => ?_
  obtain ⟨_, _, rfl⟩ := hstate
  refine (subject_yields s _ _).bind fun subject _ _ => .pure (each_single ?_)
  refine ⟨day, hday, _, id, size, _, _, hload, rfl, rfl, rfl, fun hwidth hheight => ?_⟩
  have hx : (size.width : ℤ) ≠ 0 := by exact_mod_cast hwidth.ne'
  have hy : (size.height : ℤ) ≠ 0 := by exact_mod_cast hheight.ne'
  exact n.stands h (Int.cast_ne_zero.mpr hx) (Int.cast_ne_zero.mpr hy)

end Needle

/-- A digital gauge sweeps around its location. -/
def DigitalGauge.Turning (g : DigitalGauge ℝ) (space : Space ℝ) : List (Step ℝ) → Prop :=
  Each (·.Sweeps space g.location g.radius (depthOf g.layer))

theorem DigitalGauge.build_turns (g : DigitalGauge ℝ) (s : Section) {space : Space ℝ}
    (h : space.Linear) : Gives (g.build s space : Build ℝ σ _) (g.Turning space) := by
  unfold build
  refine .ite (giveUp_gives s _ each_nil) (.ite (giveUp_gives s _ each_nil) ?_)
  refine .when (warn_gives s _) ?_
  refine (subject_gives s _ _).bind fun subject _ => .pure (each_single ?_)
  exact Element.sweeps_over h _ _ _ _ _ _ _ _

end Calibrated

/-! ## Framed panels -/

theorem Build.stockImage_yields (s : Section) (image : String) :
    Yields env t (stockImage s image : Build ℝ σ _)
      fun path? => ∀ path, path? = some path → path = env.read.files.stockImage image := by
  refine Yields.bind (x := read) (P := (· = env)) (fun _ _ => rfl) fun env' t' henv => ?_
  subst henv
  refine .ite (fun _ => .pure ?_) fun _ => ?_
  · rintro _ ⟨⟩
    rfl
  · exact (report_gives _).yields.bind fun _ _ _ => .pure nofun

namespace Framed

/-- A hand shows a stock image, as high as its dial and around the centre of that. -/
def Handed (env : BuildEnv ℝ σ) (space : Space ℝ) (image : String) (center : Point ℝ)
    (radius depth : ℝ) (e : Element ℝ) : Prop :=
  e.Turns env.store (env.read.files.stockImage image) .plain fun size offset corners =>
    space.Centers (handRect center radius (lengths size)) center depth offset corners

theorem hand_turns (s : Section) {space : Space ℝ} (h : space.Linear) (kind : ElementKind)
    (image : String) (center : Point ℝ) (radius depth : ℝ) (tint : Rgba) (function : Expr ℝ) :
    Yields env t (hand s space kind image center radius depth tint function)
      (Each (Handed env space image center radius depth)) := by
  unfold hand
  refine (stockImage_yields s image).bindOption (fun _ => .pure each_nil) fun path _ hpath => ?_
  cases hpath path rfl
  refine (texture_yields s _ _).bindOption (fun _ => .pure each_nil) fun _ t' hfound => ?_
  obtain ⟨⟨id, size⟩, hload, hsize⟩ := Option.map_eq_some_iff.mp hfound.symm
  cases hsize
  refine (quadState_asks s _ _ _ _ _).yields.bind fun state _ hstate => ?_
  obtain ⟨_, _, rfl⟩ := hstate
  exact .pure (each_single ⟨_, id, size, _, _, hload, rfl, rfl, rfl,
    h.quad_centers (center_handRect center radius _) depth⟩)

/-- A dial is shown by lamps or by a hand around its centre. -/
def Pointed (env : BuildEnv ℝ σ) (space : Space ℝ) (usesLamps : Bool) (image : String)
    (center : Point ℝ) (radius depth : ℝ) (e : Element ℝ) : Prop :=
  if usesLamps then e.Sweeps space center radius depth
  else Handed env space image center radius depth e

theorem pointer_turns (s : Section) {space : Space ℝ} (h : space.Linear) {usesLamps : Bool}
    (kind : ElementKind) (image : String) (center : Point ℝ) (radius depth initial last : ℝ)
    (lampTint tint : Rgba) (function : Expr ℝ) :
    Yields env t
      (if usesLamps then
        pure [lamps space kind center radius depth lampTint initial last function]
      else hand s space kind image center radius depth tint function)
      (Each (Pointed env space usesLamps image center radius depth)) := by
  cases usesLamps with
  | true => exact .pure (each_single (Element.sweeps_over h kind _ _ _ _ _ _ _))
  | false => exact hand_turns s h kind image center radius depth tint function

/-- Between images that stand still, the pointers of both pressures around the centre. -/
def PressureGauge.Turning (g : PressureGauge ℝ) (env : BuildEnv ℝ σ) (space : Space ℝ)
    (steps : List (Step ℝ)) : Prop :=
  ∃ background lower upper cover, steps = background ++ lower ++ upper ++ cover ∧
    Moving (· = .still) (background ++ cover) ∧
    Each (Pointed env space g.usesLamps "needle_pressuregauge_lower.png" g.center g.radius
      (depthOf 4)) lower ∧
    Each (Pointed env space g.usesLamps "needle_pressuregauge_upper.png" g.center g.radius
      (depthOf 5)) upper

theorem PressureGauge.pointer_turns (g : PressureGauge ℝ) (s : Section) {space : Space ℝ}
    (h : space.Linear) (needle? : Option PressureNeedle) (image : String) (layer : Int) :
    Yields env t (g.pointer s space needle? image layer)
      (Each (Pointed env space g.usesLamps image g.center g.radius (depthOf layer))) := by
  unfold pointer
  cases needle? with
  | none => exact .pure each_nil
  | some needle => exact Framed.pointer_turns s h _ _ _ _ _ _ _ _ _ _

theorem PressureGauge.build_turns (g : PressureGauge ℝ) (s : Section) {space : Space ℝ}
    (h : space.Linear) : Yields env t (g.build s space) (g.Turning env space) := by
  unfold build
  refine .ite (fun _ => (giveUp_gives s _ ?_).yields) fun _ => ?_
  · exact ⟨[], [], [], [], rfl, moving_nil, each_nil, each_nil⟩
  refine (optionalImage_still s space _ _ _ _).yields.bind fun background _ hbackground => ?_
  refine (g.pointer_turns s h _ _ _).bind fun lower _ hlower => ?_
  refine (g.pointer_turns s h _ _ _).bind fun upper _ hupper => ?_
  refine (optionalImage_still s space _ _ _ _).yields.bind fun cover _ hcover => .pure ?_
  exact ⟨background, lower, upper, cover, rfl, moving_append hbackground hcover, hlower, hupper⟩

/-- Between images that stand still, the pointer of the speed around the centre. -/
def Speedometer.Turning (m : Speedometer ℝ) (env : BuildEnv ℝ σ) (space : Space ℝ)
    (steps : List (Step ℝ)) : Prop :=
  ∃ background signals pointer cover, steps = background ++ signals ++ pointer ++ cover ∧
    Moving (· = .still) (background ++ signals ++ cover) ∧
    Each (Pointed env space m.usesLamps "needle_speedometer.png" m.center m.radius
      (depthOf 5)) pointer

theorem Speedometer.build_turns (m : Speedometer ℝ) (s : Section) {space : Space ℝ}
    (h : space.Linear) : Yields env t (m.build s space) (m.Turning env space) := by
  unfold build
  refine (optionalImage_still s space _ _ _ _).yields.bind fun background _ hbackground => ?_
  refine (m.signals_still s space).yields.bind fun signals _ hsignals => ?_
  refine (Framed.pointer_turns s h _ _ _ _ _ _ _ _ _ _).bind fun pointer _ hpointer => ?_
  refine (optionalImage_still s space _ _ _ _).yields.bind fun cover _ hcover => .pure ?_
  exact ⟨background, signals, pointer, cover, rfl,
    moving_append (moving_append hbackground hsignals) hcover, hpointer⟩

/-- Before an image that stands still, the hands of the clock around the centre. -/
def Watch.Turning (w : Watch ℝ) (env : BuildEnv ℝ σ) (space : Space ℝ) (steps : List (Step ℝ)) :
    Prop :=
  ∃ background hour minute second, steps = background ++ hour ++ minute ++ second ∧
    Moving (· = .still) background ∧
    Each (Handed env space "needle_hour.png" w.center w.radius (depthOf 4)) hour ∧
    Each (Handed env space "needle_minute.png" w.center w.radius (depthOf 5)) minute ∧
    Each (Handed env space "needle_second.png" w.center w.radius (depthOf 6)) second

theorem Watch.build_turns (w : Watch ℝ) (s : Section) {space : Space ℝ}
    (h : space.Linear) : Yields env t (w.build s space) (w.Turning env space) := by
  unfold build
  refine (optionalImage_still s space _ _ _ _).yields.bind fun background _ hbackground => ?_
  refine (hand_turns s h _ _ _ _ _ _ _).bind fun hour _ hhour => ?_
  refine (hand_turns s h _ _ _ _ _ _ _).bind fun minute _ hminute => ?_
  refine (hand_turns s h _ _ _ _ _ _ _).bind fun second _ hsecond => .pure ?_
  exact ⟨background, hour, minute, second, rfl, hbackground, hhour, hminute, hsecond⟩

end Framed

/-! ## Sections -/

/-- The elements of a calibrated section stand on the point that its settings name. -/
structure Calibrated.Turning (env : BuildEnv ℝ σ) (space : Space ℝ) (s : Section)
    (steps : List (Step ℝ)) : Prop where
  needle : s.lowerName = "needle" →
    ((s.read env.read).value : Needle ℝ).Turning env.store space steps
  digitalGauge : s.lowerName = "digitalgauge" →
    ((s.read env.read).value : DigitalGauge ℝ).Turning space steps

/-- The pointers of a framed section stand on the point that its settings name. -/
structure Framed.Turning (env : BuildEnv ℝ σ) (space : Space ℝ) (s : Section)
    (steps : List (Step ℝ)) : Prop where
  pressureGauge :
    s.lowerName ∈ ["pressuregauge", "pressuremeter", "pressureindicator", "圧力計"] →
      ((s.read env.read).value : PressureGauge ℝ).Turning env space steps
  speedometer : s.lowerName ∈ ["speedometer", "speedindicator", "速度計"] →
    ((s.read env.read).value : Speedometer ℝ).Turning env space steps
  watch : s.lowerName ∈ ["watch", "時計"] →
    ((s.read env.read).value : Watch ℝ).Turning env space steps

/-- What turns or is swept stands on its authored point, in every space of either format. -/
theorem turning_about_points (env : BuildEnv ℝ σ) (b : Bench σ) (p : PanelSpace) (s : Section) :
    Calibrated.Turning env p.space s (Calibrated.instrument p.space s env b).1 ∧
      Framed.Turning env p.space s (Framed.instrument p.space s env b).1 := by
  have h := p.linear_space
  refine ⟨⟨fun hname => ?_, fun hname => ?_⟩, fun hname => ?_, fun hname => ?_, fun hname => ?_⟩
  · rw [Calibrated.instrument_needle hname]
    exact buildWith_yields (Calibrated.Needle.build_turns _ s h) b rfl
  · rw [Calibrated.instrument_digitalGauge hname]
    exact buildWith_yields (Calibrated.DigitalGauge.build_turns _ s h).yields b rfl
  · rw [Framed.instrument_pressureGauge hname]
    exact buildWith_yields (Framed.PressureGauge.build_turns _ s h) b rfl
  · rw [Framed.instrument_speedometer hname]
    exact buildWith_yields (Framed.Speedometer.build_turns _ s h) b rfl
  · rw [Framed.instrument_watch hname]
    exact buildWith_yields (Framed.Watch.build_turns _ s h) b rfl

end DriverDesk
