import DriverDesk.Host.Memory
import DriverDesk.Proofs.Accounted
import DriverDesk.Proofs.LaidInstruments
import DriverDesk.Proofs.Unmeasured

/-!
# Panels with images of any size

A compile on a screen with an aspect above zero works out its camera and its elements without a
quotient by zero, whatever sizes its surroundings report for images: a needle whose image has no
area and a linear gauge whose image has no width apart. Where an image has no area, the element
has none either and its section is warned, unless the section has measures of its own.
-/

namespace DriverDesk

open Checked Build Step

variable {σ : Type}

namespace Options

variable {o : Options ℝ}

theorem sound_viewport (h : 0 < o.viewport.aspect) : o.checked.viewport.Sound :=
  ⟨divisor_value.mpr h.ne', defined_value _, defined_value _⟩

theorem standard_aspect_pos : 0 < (standard : Options ℝ).viewport.aspect := by
  norm_num [standard, Viewport.standard, Viewport.ofVerticalFov]

theorem defined_driver (o : Options ℝ) : o.checked.driver.Defined :=
  ⟨defined_value _, defined_value _, defined_value _⟩

end Options

/-! ## Plans -/

/-- The camera of the plan has values, and every part of it lays out its elements. -/
structure Plan.Lays (env : BuildEnv Checked σ) (p : Plan Checked σ) : Prop where
  camera : p.camera.Defined
  parts : ∀ part ∈ p.parts, ∀ warned,
    Build.Lays env part.1 warned part.2 (Step.Laid env.store warned)

variable {env : BuildEnv Checked σ} {t : σ}

theorem Framed.defined_topRow (fitted? : Option PixelSize) :
    (topRow fitted? : Checked).Defined := by
  cases fitted? with
  | none => exact defined_ofScientific ..
  | some size =>
    exact defined_sub.mpr ⟨Frame.divisor_pixelHeight.defined, defined_ofInt _⟩

theorem Framed.sound_fittedFrame (hviewport : env.options.viewport.Sound)
    (hdriver : env.options.driver.Defined) (sections : List Section) :
    (fittedFrame env t sections).Sound :=
  { Frame.sound_centered hviewport hdriver with semiHeight := defined_topRow _ }

theorem Plan.make_lays (hviewport : env.options.viewport.Sound)
    (hdriver : env.options.driver.Defined) (format : PanelFormat) (sections : List Section) :
    Asks env t (Plan.make format sections) (Quietly (Plan.Lays env)) := by
  cases format with
  | calibrated =>
    refine (Calibrated.plan_asks_eq sections).mono fun plan _ ⟨hrs, hplan⟩ => ⟨hrs, ?_⟩
    subst hplan
    have hcalibration := Calibrated.sound_calibration sections
    refine ⟨Camera.defined_ofCalibration hcalibration hviewport, fun part hpart warned => ?_⟩
    obtain ⟨s, -, rfl⟩ := List.mem_map.mp hpart
    exact Calibrated.part_lays (hcalibration.space hviewport hdriver) _ _
  | framed =>
    refine (Framed.plan_asks_eq sections).mono fun plan _ ⟨hrs, hplan⟩ => ⟨hrs, ?_⟩
    subst hplan
    have hframe := Framed.sound_fittedFrame (t := t) hviewport hdriver sections
    have hdirection := Framed.defined_directionOf sections
    refine ⟨Camera.defined_ofFrame hframe hdirection.x hdirection.y, fun part hpart warned => ?_⟩
    obtain ⟨s, -, rfl⟩ := List.mem_map.mp hpart
    exact Framed.part_lays (hframe.space hdriver) hframe _

/-! ## Compiles -/

namespace Compilation

/-- What a compile leaves is laid out: the camera has values, and the sections that were built,
all of them if the compile was not cancelled, have made elements that are laid out. -/
structure LaidOut (source : PanelSource) (store : TextureStore σ) (c : Compilation Checked σ) :
    Prop where
  camera : c.camera.Defined
  sections : ∃ built, built <+: (Sections.ofLines source.lines).sections ∧
    (c.cancelled = false → built = (Sections.ofLines source.lines).sections) ∧
    List.Forall₂ (fun s steps => ∀ e ∈ made steps,
      e.Laid store (s.emptyWarning source.fileName ∈ c.bench.diagnostics)) built c.batches

/-- A compile divides by nothing that is zero: what it works out has values, and the frames of a
sheet are counted as they are in the exact reading. -/
theorem laidOut (format : PanelFormat) (source : PanelSource) (options : Options ℝ)
    (files : FileView) (store : TextureStore σ) (signal : Signal) (textures : σ)
    (haspect : 0 < options.viewport.aspect) :
    (compileAs format source options.checked files store signal textures).LaidOut source store ∧
      ∀ sheet interval : ℝ, Sheet.frameCount (value sheet) (value interval) =
        Sheet.frameCount sheet interval := by
  have hplan := prepared_asks format source options.checked files store textures
    (Plan.make_lays (Options.sound_viewport haspect) (Options.defined_driver options) format _)
  refine ⟨⟨?_, ?_⟩, Sheet.frameCount_value⟩
  · rw [compileAs_camera]
    exact hplan.camera
  · obtain ⟨built, hprefix, hall, hlaid⟩ :=
      sections_notice format source options.checked files store signal textures
        (m := .emptyOf source.fileName) (P := fun _ => Step.Laid store) hplan.parts
    exact ⟨built, hprefix, hall, hlaid.imp fun s steps h => h.elements⟩

/-- A lamp whose image has no width. -/
theorem laidOut_lamp_of_no_width :
    let files : List MemoryFile := [⟨⟨"Train/lamp.png"⟩, some ⟨0, 16⟩, none⟩]
    let source := PanelSource.ofText ⟨"Train/panel2.cfg"⟩ ⟨"Train"⟩
      "[PilotLamp]\nDaytimeImage = lamp.png\n"
    let options : Options ℝ := .standard
    0 < options.viewport.aspect ∧
      (compileAs .calibrated source options.checked (Memory.view files ⟨"Stock"⟩)
        (Memory.store files) .never []).LaidOut source (Memory.store files) ∧
      ∀ sheet interval : ℝ, Sheet.frameCount (value sheet) (value interval) =
        Sheet.frameCount sheet interval := by
  intro files source options
  have haspect : 0 < options.viewport.aspect := Options.standard_aspect_pos
  exact ⟨haspect, laidOut .calibrated source options _ _ .never [] haspect⟩

/-- A needle and a linear gauge whose image has no width have numbers without a value, and the
hand of a speedometer and the digits of an indicator stand without a warning, the one with an
image without height and the others with one without width. -/
theorem empty_images_unlaid :
    let needle := sized .calibrated ⟨0, 64⟩ ["[Needle]", "DaytimeImage = image.png"]
    let gauge := sized .calibrated ⟨0, 16⟩
      ["[LinearGauge]", "DaytimeImage = image.png", "Maximum = 1", "Width = 1"]
    let hand := sized .framed ⟨16, 0⟩ ["[Speedometer]"]
    let digits := sized .framed ⟨0, 8⟩
      ["[DigitalIndicator]", "Number = image.png", "Size = 8, 8"]
    0 < (Options.standard : Options ℝ).viewport.aspect ∧
      (∃ e, needle.added = [e] ∧ ¬ e.Defined) ∧ (∃ e, gauge.added = [e] ∧ ¬ e.Defined) ∧
      (hand.added ≠ [] ∧ hand.bench.diagnostics = []) ∧
      (digits.added ≠ [] ∧ digits.bench.diagnostics = []) :=
  ⟨Options.standard_aspect_pos, sized_needle rfl, sized_linearGauge rfl, sized_speedometer rfl,
    sized_digitalIndicator rfl⟩

end Compilation

end DriverDesk
