import Mathlib
import DriverDesk.Geometry.Camera
import DriverDesk.Proofs.Exact

/-!
# Cameras and projections

A panel is laid out twice: a space projects its rectangles to the panel plane, and a camera
bounds the view of it by corners of its own. Read exactly, both come from one map of the
pixels, which is drawn to one scale on both axes. Every number is the tangent of some angle,
so that the half angles of a viewport stand for tangents of any size.
-/

namespace DriverDesk

/-- The left top and right bottom corners of the view on the panel plane. -/
noncomputable def Camera.view (camera : Camera ℝ) (driver : Vec ℝ) : Point ℝ × Point ℝ :=
  (⟨camera.bottomLeft.x + driver.x, camera.topRight.y + driver.y⟩,
   ⟨camera.topRight.x + driver.x, camera.bottomLeft.y + driver.y⟩)

/-- The world of a frame has the aspect of the frame. -/
theorem Viewport.worldSize_y (v : Viewport ℝ) {frameAspect : ℝ} (h : frameAspect ≠ 0) :
    (v.worldSize frameAspect).y = (v.worldSize frameAspect).x / frameAspect := by
  unfold worldSize
  split
  · rfl
  · exact (mul_div_cancel_right₀ _ h).symm

/-! ## Calibrated panels -/

namespace Calibration

section

variable (c : Calibration ℝ) (v : Viewport ℝ) (driver : Vec ℝ)

/-- The size of a pixel on the panel plane. -/
noncomputable def scale : ℝ := (v.worldSize v.aspect).x / c.resolution

/-- Where a pixel lies on the panel plane. -/
noncomputable def toWorld (x y : ℝ) : Point ℝ :=
  ⟨driver.x + c.scale v * (x - c.center.x), driver.y + c.scale v * (c.center.y - y)⟩

/-- The part of the panel that may come into view. -/
noncomputable def crop : Rect ℝ := ⟨c.left, c.top, c.right - c.left, c.bottom - c.top⟩

/-- The projection of a panel and its camera come from one map of the pixels. -/
structure Coherent : Prop where
  project : ∀ r, c.project v driver r =
    (c.toWorld v driver r.left r.top,
      c.toWorld v driver (r.left + r.width) (r.top + r.height))
  /-- A pixel is as wide as it is high. -/
  square : ∀ x y,
    (c.toWorld v driver (x + 1) y).x - (c.toWorld v driver x y).x =
      (c.toWorld v driver x y).y - (c.toWorld v driver x (y + 1)).y
  center : c.toWorld v driver c.center.x c.center.y = ⟨driver.x, driver.y⟩
  /-- The bounds of the panel place nothing. -/
  bounds : ∀ left right top bottom,
    ({ c with left, right, top, bottom } : Calibration ℝ).project v driver = c.project v driver
  view : (Camera.ofCalibration c v).view driver = c.project v driver c.crop
  yaw : Real.tan (Camera.ofCalibration c v).yaw =
    -((c.toWorld v driver c.origin.x c.origin.y).x - driver.x)
  pitch : Real.tan (Camera.ofCalibration c v).pitch =
    -((c.toWorld v driver c.origin.x c.origin.y).y - driver.y)

end

variable {c : Calibration ℝ} {v : Viewport ℝ}

/-- The bottom of the panel cancels, and so does the aspect of the screen. -/
theorem project_eq (hc : 0 < c.resolution) (hv : 0 < v.aspect) (driver : Vec ℝ) (r : Rect ℝ) :
    c.project v driver r =
      (c.toWorld v driver r.left r.top,
        c.toWorld v driver (r.left + r.width) (r.top + r.height)) := by
  have hheight : c.bottom - (c.bottom - c.resolution / v.aspect) = c.resolution / v.aspect := by
    ring
  simp only [project, toWorld, scale, v.worldSize_y hv.ne', hheight, Prod.mk.injEq,
    Point.mk.injEq]
  refine ⟨⟨?_, ?_⟩, ?_, ?_⟩ <;> field_simp <;> ring

theorem view_eq (hc : 0 < c.resolution) (hv : 0 < v.aspect) (driver : Vec ℝ) :
    (Camera.ofCalibration c v).view driver = c.project v driver c.crop := by
  rw [project_eq hc hv]
  simp only [Camera.view, Camera.ofCalibration, toWorld, scale, crop, v.worldSize_y hv.ne',
    add_sub_cancel, Prod.mk.injEq, Point.mk.injEq]
  refine ⟨⟨?_, ?_⟩, ?_, ?_⟩ <;> field_simp <;> ring

theorem coherent (hc : 0 < c.resolution) (hv : 0 < v.aspect) (driver : Vec ℝ) :
    c.Coherent v driver where
  project := project_eq hc hv driver
  square x y := by simp only [toWorld]; ring
  center := by simp [toWorld]
  bounds left right top bottom := by
    funext r
    rw [project_eq hc hv, project_eq (by exact hc) hv]
    rfl
  view := view_eq hc hv driver
  yaw := by
    refine (Real.tan_arctan _).trans ?_
    simp only [toWorld, scale]
    ring
  pitch := by
    refine (Real.tan_arctan _).trans ?_
    simp only [toWorld, scale]
    ring

end Calibration

/-! ## Framed panels -/

namespace Frame

/-- The frame on the driver, whatever background stands in it. -/
def CenteredOn {K : Type} [Arith K] (v : Viewport K) (driver : Vec K) (f : Frame K) : Prop :=
  ∃ semiHeight, f = { centered v driver with semiHeight }

/-- All pixels of the frame. -/
noncomputable def full : Rect ℝ := ⟨0, 0, pixelWidth, pixelHeight⟩

/-- The projection of a frame and its camera agree, and its pixels are squares. -/
structure Coherent (f : Frame ℝ) (driver : Vec ℝ) : Prop where
  square : ∀ x y,
    (f.toWorld (x + 1) y).x - (f.toWorld x y).x = (f.toWorld x y).y - (f.toWorld x (y + 1)).y
  view : ∀ yaw pitch, (Camera.ofFrame f yaw pitch).view driver = (f.space driver).project full

theorem coherent {v : Viewport ℝ} {driver : Vec ℝ} {f : Frame ℝ} (h : f.CenteredOn v driver) :
    f.Coherent driver := by
  obtain ⟨semiHeight, rfl⟩ := h
  have hwidth : (pixelWidth : ℝ) ≠ 0 := by norm_num [pixelWidth]
  have hheight : (pixelHeight : ℝ) ≠ 0 := by norm_num [pixelHeight]
  refine ⟨fun x y => ?_, fun yaw pitch => ?_⟩
  · simp only [toWorld, centered, v.worldSize_y (div_ne_zero hwidth hheight)]
    field_simp
    ring
  · simp only [Camera.view, Camera.ofFrame, space, toWorld, centered, full, Prod.mk.injEq,
      Point.mk.injEq]
    refine ⟨⟨?_, ?_⟩, ?_, ?_⟩ <;> field_simp <;> ring

end Frame

/-- A panel is seen where it is drawn. -/
theorem camera_agrees_with_projection {v : Viewport ℝ} (hv : 0 < v.aspect) (driver : Vec ℝ) :
    (∀ c : Calibration ℝ, 0 < c.resolution → c.Coherent v driver) ∧
      ∀ f : Frame ℝ, f.CenteredOn v driver → f.Coherent driver :=
  ⟨fun _ hc => Calibration.coherent hc hv driver, fun _ hf => Frame.coherent hf⟩

/-- The standard panel and the frame, on a screen that is higher than wide. -/
theorem portrait_screen_agrees :
    (0 : ℝ) < 1 / 2 ∧ (0 : ℝ) < (Calibration.standard : Calibration ℝ).resolution ∧
      (Calibration.standard : Calibration ℝ).Coherent ⟨1 / 2, 1, 1⟩ ⟨3, 4, 5⟩ ∧
      (Frame.centered (K := ℝ) ⟨1 / 2, 1, 1⟩ ⟨3, 4, 5⟩).Coherent ⟨3, 4, 5⟩ := by
  have hv : (0 : ℝ) < 1 / 2 := by norm_num
  have hc : (0 : ℝ) < (Calibration.standard : Calibration ℝ).resolution := by
    norm_num [Calibration.standard]
  have h := camera_agrees_with_projection (v := ⟨1 / 2, 1, 1⟩) hv ⟨3, 4, 5⟩
  exact ⟨hv, hc, h.1 _ hc, h.2 _ ⟨_, rfl⟩⟩

end DriverDesk
