import DriverDesk.Proofs.Laid

/-!
# Instruments and the sizes of their images

Every instrument with sound settings lays out its elements in a sound space. Each looks at what
it divides by in its own way: by what the reader refuses, by what the builder requires first, by
the frames of a sheet or by a measure that stands in for a missing one.
-/

namespace DriverDesk

open Checked Build Step

variable {σ : Type} {env : BuildEnv Checked σ} {s : Section} {warned : Prop}
  {space : Space Checked}

theorem Build.defined_depthOf (layer : Int) : (depthOf layer : Checked).Defined := by
  simp [depthOf, layerStep]

/-- A section is laid out as its settings are. -/
theorem Build.buildWith_lays {α : Type} [Readable α]
    {build : α → Section → Build Checked σ (List (Step Checked))} {P : List (Step Checked) → Prop}
    (h : Lays env s warned (build (s.read env.read).value s) P) :
    Lays env s warned (buildWith α build s) P := by
  have hread : Lays env s True (settings α s) (· = (s.read env.read).value) :=
    fun b => ⟨(settings_gives α s env b).2, fun _ => rfl⟩
  refine .bindKnown hread fun a ha => ?_
  rw [ha]
  exact h

/-! ## Calibrated panels -/

namespace Calibrated

theorem Header.build_lays (h : Header Checked) (hspace : space.Sound) (key : Rgb) :
    Lays env s warned (h.build s space key) (Step.Laid env.store warned) := by
  unfold build
  rcases h.daytime? with _ | day
  · exact .pure .nil
  refine (texture_lays _ _).bindOption (.pure .nil) fun ⟨texture, _⟩ ⟨t, size, hload, hsize⟩ => ?_
  subst hsize
  refine .bindGives (optionalTexture_gives s _ _) fun night _ => ?_
  refine (picture_lays hspace (defined_ofScientific ..) (defined_ofScientific ..)
    (defined_ofScientific ..) rfl hload).bind fun state => .pure fun hpicture => .single ?_
  exact Element.laid_picture rfl (Element.not_isStrip_single (by decide))
    (Element.defined_single hpicture.defined) hpicture

theorem PilotLamp.build_lays {l : PilotLamp Checked} (h : l.Sound) (hspace : space.Sound) :
    Lays env s warned (l.build s space) (Step.Laid env.store warned) := by
  unfold build
  rcases l.daytime? with _ | day
  · exact giveUp_lays _
  refine (texture_lays _ _).bindOption (.pure .nil) fun ⟨texture, _⟩ ⟨t, size, hload, hsize⟩ => ?_
  subst hsize
  refine .bindGives (optionalTexture_gives s _ _) fun night _ => ?_
  refine .bindKnown (subject_lays _ _) fun subject hsubject => ?_
  refine (picture_lays hspace h.location.x h.location.y (defined_depthOf _) rfl hload).bind
    fun state => .pure fun hpicture => .single ?_
  have hfunction : (stateFunction subject).Defined :=
    hsubject.append (by simp [Expr.Defined, Word.Defined])
  exact Element.laid_picture rfl (Element.not_isStrip_selectedBy (by decide) (by decide))
    ((Element.defined_single hpicture.defined).selectedBy hfunction) hpicture

namespace Needle

variable {n : Needle Checked}

theorem Sound.pivotPixel (h : n.Sound) (size : PixelSize) :
    (n.pivotPixel (lengths size)).Defined := by
  have hsize := lengths_defined size
  unfold Needle.pivotPixel
  constructor
  · rcases hx : n.origin.1 with _ | x
    · simp [hsize.x]
    · exact h.originX x hx
  · rcases hy : n.origin.2 with _ | y
    · simp [hsize.y]
    · exact h.originY y hy

theorem Sound.pivot (h : n.Sound) {size : PixelSize} (hsize : ¬ size.Empty) :
    (n.pivot (lengths size)).Defined :=
  ⟨defined_div.mpr ⟨(h.pivotPixel size).x, divisor_lengths_x.mpr fun h => hsize (.inl h)⟩,
    defined_div.mpr ⟨(h.pivotPixel size).y, divisor_lengths_y.mpr fun h => hsize (.inr h)⟩⟩

theorem Sound.scale (h : n.Sound) (size : PixelSize) : (n.scale (lengths size)).Defined := by
  unfold Needle.scale
  split
  · exact defined_ofScientific ..
  next hzero =>
    rw [Bool.or_eq_true, not_or] at hzero
    exact defined_div.mpr ⟨h.radius, divisor_of_bne (h.pivotPixel size).y hzero.2⟩

theorem Sound.rect (h : n.Sound) {size : PixelSize} (hsize : ¬ size.Empty) :
    (n.rect (lengths size)).Defined := by
  have hlengths := lengths_defined size
  constructor <;>
    simp [Needle.rect, h.location.x, h.location.y, (h.pivot hsize).x, (h.pivot hsize).y,
      h.scale size, hlengths.x, hlengths.y]

theorem Sound.rotation (h : n.Sound) (hrange : ¬ (n.minimum == n.maximum) = true)
    {value : Expr Checked} (hvalue : value.Defined) : (n.rotation value).Defined where
  axes := (Rotation.defined_free hvalue).axes
  function :=
    AngleMap.Sound.expression ⟨h.initialAngle, h.lastAngle, h.minimum, h.maximum,
      divisor_sub_of_bne h.minimum h.maximum hrange⟩ hvalue
  damping := by
    intro d (hd : n.damping? = some d)
    simp only [damping?, Option.bind_eq_bind, Option.bind_eq_some_iff, Option.some.injEq] at hd
    obtain ⟨f, hf, r, hr, rfl⟩ := hd
    exact ⟨h.naturalFrequency f hf, h.dampingRatio r hr⟩
  clamp := by
    intro c hc
    unfold Needle.rotation at hc
    split at hc
    · exact Option.some.inj hc ▸ ⟨h.initialAngle, h.lastAngle⟩
    · cases hc

/-- The pivot is divided by the size of the image as it is, so nothing is known of a needle whose
image has no area. -/
theorem build_lays (h : n.Sound) (hspace : space.Sound) :
    Lays env s warned (n.build s space) (Step.Laid env.store warned) := by
  unfold build
  rcases n.daytime? with _ | day
  · exact giveUp_lays _
  refine .ite (fun _ => giveUp_lays _) fun hrange => ?_
  refine (texture_lays _ _).bindOption (.pure .nil) fun ⟨texture, _⟩ ⟨t, size, hload, hsize⟩ => ?_
  subst hsize
  refine .bindGives (optionalTexture_gives s _ _) fun night _ => ?_
  refine (quadState_lays hspace _ _ _ _).bind fun state => ?_
  refine .bindKnown (subject_lays _ _) fun subject hsubject => .pure fun hstate => .single ?_
  obtain ⟨hmaterial, hdefined, -⟩ := hstate
  refine Element.laid_image rfl (Element.not_isStrip_moving (by decide))
    ⟨texture, day, t, _, hmaterial ▸ rfl, hload⟩ fun harea => ?_
  have hsize : ¬ size.Empty := fun h => harea (.inl ⟨rfl, h⟩)
  have hquad := hdefined (h.rect hsize) (h.pivot hsize) (defined_depthOf _)
  exact ⟨(Element.defined_single hquad).moving (h.rotation hrange hsubject),
    fun h => absurd h hsize⟩

end Needle

/-- The width of the gauge is divided by that of the image as it is, so nothing is known of the
shift of an image without width. -/
theorem LinearGauge.build_lays {g : LinearGauge Checked} (h : g.Sound) (hspace : space.Sound) :
    Lays env s warned (g.build s space) (Step.Laid env.store warned) := by
  unfold build
  rcases g.daytime? with _ | day
  · exact giveUp_lays _
  refine .ite (fun _ => giveUp_lays _) fun hrange => ?_
  refine .ite (fun _ => giveUp_lays _) fun _ => ?_
  refine (texture_lays _ _).bindOption (.pure .nil) fun ⟨texture, _⟩ ⟨t, size, hload, hsize⟩ => ?_
  subst hsize
  refine .bindGives (optionalTexture_gives s _ _) fun night _ => ?_
  refine (picture_lays hspace h.location.x h.location.y (defined_depthOf _) rfl hload).bind
    fun state => ?_
  refine .bindKnown (subject_lays _ _) fun subject hsubject => .pure fun hpicture => .single ?_
  refine Element.laid_image rfl (Element.not_isStrip_moving (by decide)) hpicture.loaded
    fun hnothing => ?_
  have hwidth : (lengths size : Point Checked).x.Divisor :=
    divisor_lengths_x.mpr fun h => hnothing (.inr ⟨rfl, h⟩)
  have hshift : (g.shift (lengths size).x subject).Defined := by
    refine hsubject.append ?_
    simp [Expr.Defined, Word.Defined, h.minimum, h.width, hwidth,
      divisor_sub_of_not_le h.minimum h.maximum hrange]
  exact ⟨(Element.defined_single hpicture.defined).moving hshift,
    fun hempty => .inr (hpicture.empty hempty)⟩

theorem DigitalNumber.Sound.frame_lays {d : DigitalNumber Checked} (h : d.Sound)
    (hspace : space.Sound) (day : Path) {size : PixelSize} (hheight : size.height ≠ 0)
    (nightFrames index : Nat) :
    Lays env s warned (d.frame s space day (lengths size) nightFrames index)
      (OrFault True (·.Frames env.store warned .digitalNumber day size)) := by
  have hlengths := lengths_defined size
  have hrect : Rect.Defined ⟨d.location.x, d.location.y, (lengths size).x, d.interval⟩ :=
    ⟨h.location.x, h.location.y, hlengths.x, h.interval⟩
  unfold frame
  refine (texture_lays _ _).bindOption (.pure trivial) fun ⟨texture, _⟩ ⟨t, _, hload, _⟩ => ?_
  have hstate (night : Option TextureId) :
      Lays env s warned (some <$> quadState s space
        ⟨d.location.x, d.location.y, (lengths size).x, d.interval⟩ (.both 0.5) (depthOf d.layer)
        ((Material.plain (some texture) night Rgba.white).keyed d.key) : Build Checked σ _)
        (OrFault True (·.Frames env.store warned .digitalNumber day size)) :=
    Build.frame_lays hspace hrect (defined_depthOf _) rfl (TextureStore.issues_of_load hload)
      fun hempty => .inr (Rect.isDegenerate_of_width (lengths_x (hempty.resolve_right hheight)))
  refine .ite (fun _ => ?_) fun _ => hstate none
  exact .bindGives (optionalTexture_gives s _ _) fun night _ => hstate night

theorem DigitalNumber.build_lays {d : DigitalNumber Checked} (h : d.Sound)
    (hspace : space.Sound) :
    Lays env s warned (d.build s space) (Step.Laid env.store warned) := by
  unfold build
  rcases d.daytime? with _ | day
  · exact giveUp_lays _
  refine .ite (fun _ => giveUp_lays _) fun _ => ?_
  refine (imageSize_lays _).bindOption (.pure .nil) fun sheet ⟨t, size, hsheet, hsize⟩ => ?_
  subst hsize
  refine .ite (fun _ => giveUp_lays _) fun hframes => ?_
  have hheight := divisor_lengths_y.mp
    (Sheet.divisors_of_frames (lengths_defined size).y h.interval hframes).1
  refine .bindGives (d.nightFrames_gives s) fun nightFrames _ => ?_
  refine .bindKnown (subject_lays _ _) fun subject hsubject => ?_
  exact strip_lays hsheet (.inl (by decide)) hsubject fun k _ =>
    h.frame_lays hspace day hheight nightFrames k

theorem DigitalGauge.build_lays {g : DigitalGauge Checked} (h : g.Sound) (hspace : space.Sound) :
    Lays env s warned (g.build s space) (Step.Laid env.store warned) := by
  have hquad := hspace.quad_defined (Rect.defined_around h.location h.radius)
    Point.defined_middle (defined_depthOf g.layer)
  have hinitial : g.angles.initial.Defined := defined_add.mpr ⟨h.initialAngle, defined_pi⟩
  have hlast : g.angles.last.Defined := defined_add.mpr ⟨h.lastAngle, defined_pi⟩
  unfold build
  refine .ite (fun _ => giveUp_lays _) fun _ => ?_
  refine .ite (fun _ => giveUp_lays _) fun hrange => ?_
  have hangles : g.angles.Sound :=
    ⟨hinitial, hlast, h.minimum, h.maximum, divisor_sub_of_bne h.minimum h.maximum hrange⟩
  refine .when (warn_gives s _) ?_
  refine .bindKnown (subject_lays _ _) fun subject hsubject => .pure (.single ?_)
  have hfunction := hangles.expression (hsubject.append (defined_quantize h.step))
  exact .plain ((Element.defined_single (ElementState.defined_sweepFan hquad _)).moving
    (Sweep.defined_over hquad hinitial hlast hfunction)) (List.forall_mem_singleton.mpr rfl)

theorem Timetable.build_lays {t : Timetable Checked} (h : t.Sound) (hspace : space.Sound) :
    Lays env s warned (t.build s space) (Step.Laid env.store warned) := by
  have hrect : (⟨t.location.x, t.location.y, t.width, t.height⟩ : Rect Checked).Defined :=
    ⟨h.location.x, h.location.y, h.width, h.height⟩
  unfold build
  refine .when (complain_gives s _) (.when (complain_gives s _) (.ite (fun _ => .pure .nil) ?_))
  refine fun _ => (quadState_lays hspace _ _ _ _).bind fun state => .pure ?_
  rintro ⟨hmaterial, hdefined, -⟩
  have hstate := hdefined hrect Point.defined_middle (defined_depthOf _)
  have helement :
      ((Element.single .timetable state).selectedBy [.name "panel2timetable"]).Defined :=
    (Element.defined_single hstate).selectedBy (List.forall_mem_singleton.mpr trivial)
  exact .single (.plain { helement with } (List.forall_mem_singleton.mpr (hmaterial ▸ rfl)))

theorem instrument_lays (hspace : space.Sound) :
    Lays env s warned (instrument space s) (Step.Laid env.store warned) := by
  unfold instrument
  split
  · exact buildWith_lays (PilotLamp.build_lays (PilotLamp.read_sound _ s) hspace)
  · exact buildWith_lays (Needle.build_lays (Needle.read_sound _ s) hspace)
  · exact buildWith_lays (LinearGauge.build_lays (LinearGauge.read_sound _ s) hspace)
  · exact buildWith_lays (DigitalNumber.build_lays (DigitalNumber.read_sound _ s) hspace)
  · exact buildWith_lays (DigitalGauge.build_lays (DigitalGauge.read_sound _ s) hspace)
  · exact buildWith_lays (Timetable.build_lays (Timetable.read_sound _ s) hspace)
  · exact .pure .nil

theorem part_lays (hspace : space.Sound) (key : Rgb) (header? : Option (Header Checked)) :
    Lays env s warned (part space key s header?) (Step.Laid env.store warned) := by
  rcases header? with _ | h
  · exact instrument_lays hspace
  · exact h.build_lays hspace key

end Calibrated

/-! ## Framed panels -/

namespace Framed

theorem centeredImage_lays (hspace : space.Sound) {kind : ElementKind}
    (hkind : kind ∈ ElementKind.dials) (path : Path)
    {center : Point Checked} (hcenter : center.Defined) {depth : Checked} (hdepth : depth.Defined) :
    Lays env s warned (centeredImage s space kind path center depth)
      fun step? => Step.Laid env.store warned step?.toList := by
  unfold centeredImage
  refine (texture_lays _ _).bindOption (.pure .nil) fun ⟨texture, _⟩ ⟨t, size, hload, hsize⟩ => ?_
  subst hsize
  have hlengths := lengths_defined size
  have hx : (center.x - 0.5 * (lengths size).x).Defined := by simp [hcenter.x, hlengths.x]
  have hy : (center.y - 0.5 * (lengths size).y).Defined := by simp [hcenter.y, hlengths.y]
  refine (picture_lays hspace hx hy hdepth rfl hload).bind fun state => .pure fun hpicture =>
    .single ?_
  have hsheet := ElementKind.not_mem_sheets_of_dials hkind
  exact Element.laid_picture rfl (Element.not_isStrip_single hsheet)
    (Element.defined_single hpicture.defined) hpicture

theorem optionalImage_lays (hspace : space.Sound) {kind : ElementKind}
    (hkind : kind ∈ ElementKind.dials) (path? : Option Path)
    {center : Point Checked} (hcenter : center.Defined) {depth : Checked} (hdepth : depth.Defined) :
    Lays env s warned (optionalImage s space kind path? center depth)
      (Step.Laid env.store warned) := by
  unfold optionalImage
  rcases path? with _ | path
  · exact .pure .nil
  · exact (centeredImage_lays hspace hkind path hcenter hdepth).map fun _ h => h

/-- A hand with an image without height is as wide as it is high. -/
theorem handRect_defined {center : Point Checked} (hcenter : center.Defined) {radius : Checked}
    (hradius : radius.Defined) (size : PixelSize) :
    (handRect center radius (lengths size)).Defined := by
  have hlengths := lengths_defined size
  have haspect : (if (lengths size : Point Checked).y == 0.0 then 1.0
      else (lengths size).x / (lengths size).y : Checked).Defined := by
    split
    · exact defined_ofScientific ..
    next hy => exact defined_div.mpr ⟨hlengths.x, divisor_of_bne hlengths.y hy⟩
  have hdiameter : (2.0 * radius).Defined := defined_mul.mpr ⟨defined_ofScientific .., hradius⟩
  exact ⟨defined_sub.mpr ⟨hcenter.x, defined_mul.mpr ⟨hradius, haspect⟩⟩,
    defined_sub.mpr ⟨hcenter.y, hradius⟩, defined_mul.mpr ⟨hdiameter, haspect⟩, hdiameter⟩

theorem handRect_width {center : Point Checked} {radius : Checked} (hradius : radius.Defined)
    {size : PixelSize} (hwidth : size.width = 0) (hheight : size.height ≠ 0) :
    (handRect center radius (lengths size)).width = value 0 := by
  have hy : (lengths size : Point Checked).y.Divisor := divisor_lengths_y.mpr hheight
  have hzero : ¬ ((lengths size : Point Checked).y == 0.0) = true := fun h => by
    rw [beq_zero_iff.mp h] at hy
    exact divisor_value.mp hy rfl
  rw [handRect, if_neg hzero, lengths_x hwidth, value_zero_div hy]
  exact mul_value_zero (defined_mul.mpr ⟨defined_ofScientific .., hradius⟩)

theorem hand_lays (hspace : space.Sound) {kind : ElementKind}
    (hkind : kind ∈ ElementKind.dials) (image : String)
    {center : Point Checked} (hcenter : center.Defined) {radius : Checked}
    (hradius : radius.Defined) {depth : Checked} (hdepth : depth.Defined) (tint : Rgba)
    {function : Expr Checked} (hfunction : function.Defined) :
    Lays env s warned (hand s space kind image center radius depth tint function)
      (Step.Laid env.store warned) := by
  unfold hand
  refine .bindGives (stockImage_gives s image) fun path? _ => ?_
  rcases path? with _ | path
  · exact .pure .nil
  refine (texture_lays _ _).bindOption (.pure .nil) fun ⟨texture, _⟩ ⟨t, size, hload, hsize⟩ => ?_
  subst hsize
  refine (quadState_lays hspace _ _ _ _).bind fun state => .pure fun hstate => .single ?_
  obtain ⟨hmaterial, hdefined, hflat⟩ := hstate
  have hquad := hdefined (handRect_defined hcenter hradius size) Point.defined_middle hdepth
  refine Element.laid_image rfl
    (Element.not_isStrip_moving (ElementKind.not_mem_sheets_of_dials hkind))
    ⟨texture, path, t, _, hmaterial ▸ rfl, hload⟩ fun _ =>
      ⟨(Element.defined_single hquad).moving (Rotation.defined_free hfunction), fun hempty => ?_⟩
  by_cases hheight : size.height = 0
  · exact .inl (.inl ⟨⟨hkind, _, rfl⟩, hheight⟩)
  · have hwidth := hempty.resolve_right hheight
    exact .inr (hflat (Rect.isDegenerate_of_width (handRect_width hradius hwidth hheight)))

theorem lamps_laid (hspace : space.Sound) {kind : ElementKind} {center : Point Checked}
    (hcenter : center.Defined) {radius : Checked} (hradius : radius.Defined) {depth : Checked}
    (hdepth : depth.Defined) (tint : Rgba) {initial last : Checked} (hinitial : initial.Defined)
    (hlast : last.Defined) {function : Expr Checked} (hfunction : function.Defined) :
    Step.Laid env.store warned
      [lamps space kind center radius depth tint initial last function] := by
  have hquad := hspace.quad_defined (Rect.defined_around hcenter hradius) Point.defined_middle
    hdepth
  exact .single (.plain ((Element.defined_single (ElementState.defined_sweepFan hquad _)).moving
    (Sweep.defined_over hquad hinitial hlast hfunction)) (List.forall_mem_singleton.mpr rfl))

/-- Four parts of a dial, one after the other. -/
theorem dial_lays {x₁ x₂ x₃ x₄ : Build Checked σ (List (Step Checked))}
    (h₁ : Lays env s warned x₁ (Step.Laid env.store warned))
    (h₂ : Lays env s warned x₂ (Step.Laid env.store warned))
    (h₃ : Lays env s warned x₃ (Step.Laid env.store warned))
    (h₄ : Lays env s warned x₄ (Step.Laid env.store warned)) :
    Lays env s warned (do
      let l₁ ← x₁
      let l₂ ← x₂
      let l₃ ← x₃
      let l₄ ← x₄
      pure (l₁ ++ l₂ ++ l₃ ++ l₄)) (Step.Laid env.store warned) := by
  refine h₁.bind fun l₁ => h₂.bind fun l₂ => h₃.bind fun l₃ => h₄.bind fun l₄ => .pure ?_
  exact fun hl₄ hl₃ hl₂ hl₁ => ((hl₁.append hl₂).append hl₃).append hl₄

theorem Background.build_lays (b : Background) (hspace : space.Sound) {frame : Frame Checked}
    (hframe : frame.Sound) :
    Lays env s warned (b.build s space frame) (Step.Laid env.store warned) := by
  refine .read ?_
  rcases b.path? env.read with _ | path
  · exact .pure .nil
  refine (texture_lays _ _).bindOption (.pure .nil) fun ⟨texture, _⟩ ⟨t, size, hload, hsize⟩ => ?_
  subst hsize
  refine (picture_lays hspace (defined_ofScientific ..) hframe.semiHeight
    (defined_ofScientific ..) rfl hload).bind fun state => .pure fun hpicture => .single ?_
  exact Element.laid_picture rfl (Element.not_isStrip_single (by decide))
    (Element.defined_single hpicture.defined) hpicture

theorem defined_dialAngles (usesLamps : Bool) {gap : Checked} (hgap : gap.Defined) :
    (dialAngles usesLamps gap).1.Defined ∧ (dialAngles usesLamps gap).2.Defined := by
  unfold dialAngles
  split <;> simp [hgap]

namespace PressureGauge

variable {g : PressureGauge Checked}

theorem Sound.angles (h : g.Sound) (hrange : ¬ (g.minimum == g.maximum) = true) :
    g.angles.Sound := by
  have hangles := defined_dialAngles g.usesLamps h.gap
  exact ⟨hangles.1, hangles.2, defined_mul.mpr ⟨h.minimum, h.unit.defined⟩,
    defined_mul.mpr ⟨h.maximum, h.unit.defined⟩,
    divisor_sub_mul (divisor_sub_of_bne h.minimum h.maximum hrange) h.unit⟩

theorem pointer_lays (h : g.Sound) (hrange : ¬ (g.minimum == g.maximum) = true)
    (hspace : space.Sound) (needle? : Option PressureNeedle) (image : String) (layer : Int) :
    Lays env s warned (g.pointer s space needle? image layer) (Step.Laid env.store warned) := by
  have hangles := h.angles hrange
  unfold pointer
  rcases needle? with _ | needle
  · exact .pure .nil
  have hpressure : Expr.Defined [.name needle.pressure.name] :=
    List.forall_mem_singleton.mpr trivial
  have hfunction := hangles.expression hpressure
  refine .ite (fun _ => .pure ?_) fun _ => ?_
  · exact lamps_laid hspace h.center h.radius (defined_depthOf _) _ hangles.initial hangles.last
      hfunction
  · exact hand_lays hspace (by decide) image h.center h.radius (defined_depthOf _) _ hfunction

theorem build_lays (h : g.Sound) (hspace : space.Sound) :
    Lays env s warned (g.build s space) (Step.Laid env.store warned) := by
  unfold build
  refine .ite (fun _ => giveUp_lays _) fun hrange => ?_
  exact dial_lays (optionalImage_lays hspace (by decide) _ h.center (defined_depthOf _))
    (pointer_lays h hrange hspace _ _ _) (pointer_lays h hrange hspace _ _ _)
    (optionalImage_lays hspace (by decide) _ h.center (defined_depthOf _))

end PressureGauge

namespace Speedometer

variable {m : Speedometer Checked}

theorem Sound.angles (h : m.Sound) (usesLamps : Bool) : (m.angles usesLamps).Sound := by
  have hangles := defined_dialAngles usesLamps h.gap
  exact ⟨hangles.1, hangles.2, defined_ofScientific .., h.maximum.defined,
    (sub_zero_eq m.maximum).symm ▸ h.maximum⟩

theorem Sound.signalCenter (h : m.Sound) {speed : Checked} (hspeed : speed.Defined) :
    (m.signalCenter speed).Defined := by
  have hcoefficients := (h.angles false).coefficients
  have hradius : (m.signalRadius?.getD (0.8 * m.radius)).Defined := by
    rcases hr : m.signalRadius? with _ | r
    · simp [h.radius]
    · exact h.signalRadius r hr
  constructor <;> simp [Speedometer.signalCenter, h.center.x, h.center.y, hradius, hcoefficients,
    hspeed]

theorem signalFrame_lays (h : m.Sound) (hspace : space.Sound) (path : Path) {size : PixelSize}
    (hsize : ¬ size.Empty) (index : Nat) :
    Lays env s warned (m.signalFrame s space path (lengths size).y index)
      (OrFault True (·.Frames env.store warned .speedometer path size)) := by
  have hspeeds : ∀ speed ∈ signalSpeeds (K := Checked), speed.Defined := by simp [signalSpeeds]
  unfold signalFrame
  rcases hspeed : signalSpeeds[index]? with _ | speed
  · exact .pure trivial
  refine (texture_lays _ _).bindOption (.pure trivial) fun ⟨texture, _⟩ ⟨t, _, hload, _⟩ => ?_
  have hcenter := h.signalCenter (hspeeds speed (List.mem_of_getElem? hspeed))
  have hside : (0.5 * (lengths size).y : Checked).Defined := by simp [(lengths_defined size).y]
  exact Build.frame_lays hspace (Rect.defined_around hcenter hside) (defined_depthOf _) rfl
    (TextureStore.issues_of_load hload) fun hempty => absurd hempty hsize

theorem signals_lays (h : m.Sound) (hspace : space.Sound) :
    Lays env s warned (m.signals s space) (Step.Laid env.store warned) := by
  unfold signals
  rcases m.signals? with _ | path
  · exact .pure .nil
  refine (imageSize_lays _).bindOption (.pure .nil) fun sheet ⟨t, size, hsheet, hsize⟩ => ?_
  subst hsize
  have hlengths := lengths_defined size
  have hsignal : Expr.Defined [.integer 271, .operator .pluginState] := by
    simp [Expr.Defined, Word.Defined]
  refine strip_lays hsheet (.inr rfl) hsignal fun k hk => signalFrame_lays h hspace path ?_ k
  have hframes := Sheet.divisors_of_frames hlengths.x hlengths.y
    (Nat.ne_of_gt ((Nat.zero_le k).trans_lt (hk.trans_le (Nat.min_le_left _ _))))
  exact not_or.mpr ⟨divisor_lengths_x.mp hframes.1, divisor_lengths_y.mp hframes.2⟩

theorem pointer_lays (h : m.Sound) (hspace : space.Sound) :
    Lays env s warned (m.pointer s space) (Step.Laid env.store warned) := by
  have hangles := h.angles m.usesLamps
  have hspeed : Expr.Defined [.name "speedometer", .operator .abs] := by
    simp [Expr.Defined, Word.Defined]
  unfold pointer
  refine .ite (fun _ => .pure ?_) fun _ => ?_
  · exact lamps_laid hspace h.center h.radius (defined_depthOf _) _ hangles.initial hangles.last
      (hangles.expression hspeed)
  · exact hand_lays hspace (by decide) _ h.center h.radius (defined_depthOf _) _
      (hangles.expression hspeed)

theorem build_lays (h : m.Sound) (hspace : space.Sound) :
    Lays env s warned (m.build s space) (Step.Laid env.store warned) :=
  dial_lays (optionalImage_lays hspace (by decide) _ h.center (defined_depthOf _))
    (signals_lays h hspace) (pointer_lays h hspace)
    (optionalImage_lays hspace (by decide) _ h.center (defined_depthOf _))

end Speedometer

namespace DigitalIndicator

variable {d : DigitalIndicator Checked}

theorem frame_lays (h : d.Sound) (hspace : space.Sound) (path : Path) {size : PixelSize}
    (hheight : size.height ≠ 0) (digit index : Nat) :
    Lays env s warned (d.frame s space path (lengths size).x digit index)
      (OrFault True (·.Frames env.store warned .digitalIndicator path size)) := by
  have hx : (d.corner.x + Arith.ofInt digit * d.size.x).Defined := by
    simp [h.corner.x, h.size.x]
  unfold frame
  refine (texture_lays _ _).bindOption (.pure trivial) fun ⟨texture, _⟩ ⟨t, _, hload, _⟩ => ?_
  exact Build.frame_lays hspace ⟨hx, h.corner.y, h.size.x, h.size.y⟩ (defined_depthOf _) rfl
    (TextureStore.issues_of_load hload) fun hempty => .inl ⟨rfl, hempty.resolve_right hheight⟩

theorem strips_lays (h : d.Sound) (hspace : space.Sound) {path : Path} {t : σ} {size : PixelSize}
    (hsheet : env.store.imageSize? t path = some size) (hheight : size.height ≠ 0) (frames : Nat)
    {functions : List (Expr Checked)} (hfunctions : ∀ f ∈ functions, f.Defined) (digit : Nat) :
    Lays env s warned (d.strips s space path (lengths size).x frames digit functions)
      (Step.Laid env.store warned) := by
  induction functions generalizing digit with
  | nil => exact .pure .nil
  | cons function functions ih =>
    obtain ⟨hfunction, hrest⟩ := List.forall_mem_cons.mp hfunctions
    refine (strip_lays hsheet (.inl (by decide)) hfunction fun k _ =>
      frame_lays h hspace path hheight digit k).bind fun strip => ?_
    exact (ih hrest (digit + 1)).bind fun rest => .pure fun hrest hstrip => hstrip.append hrest

theorem digitFunctions_defined (h : d.Sound) : ∀ f ∈ d.digitFunctions, f.Defined := by
  simp [digitFunctions, leadingDigit, Subject.speedIn, Expr.Defined, Word.Defined, h.unit]

theorem build_lays (h : d.Sound) (hspace : space.Sound) :
    Lays env s warned (d.build s space) (Step.Laid env.store warned) := by
  unfold build
  rcases d.number? with _ | path
  · exact giveUp_lays _
  refine .ite (fun _ => giveUp_lays _) fun _ => ?_
  refine (imageSize_lays _).bindOption (.pure .nil) fun sheet ⟨t, size, hsheet, hsize⟩ => ?_
  subst hsize
  refine .ite (fun _ => giveUp_lays _) fun hframes => ?_
  have hheight := divisor_lengths_y.mp
    (Sheet.divisors_of_frames (lengths_defined size).y h.size.y hframes).1
  exact strips_lays h hspace hsheet hheight _ (digitFunctions_defined h) 0

end DigitalIndicator

namespace PilotLamp

variable {l : PilotLamp Checked}

theorem state_lays (h : l.Sound) (hspace : space.Sound) (path : Path) :
    Lays env s warned (l.state s space path)
      (OrFault True fun state => ∃ size, state.Pictures env.store warned size) := by
  unfold state
  refine (texture_lays _ _).bindOption (.pure trivial)
    fun ⟨texture, _⟩ ⟨t, size, hload, hsize⟩ => ?_
  subst hsize
  exact (picture_lays hspace h.corner.x h.corner.y (defined_depthOf _) rfl hload).map
    fun state hpicture => ⟨size, hpicture⟩

theorem build_lays (h : l.Sound) (hspace : space.Sound) :
    Lays env s warned (l.build s space) (Step.Laid env.store warned) := by
  have hdoors : Expr.Defined [.name "doors", .integer 0, .operator .notEqual] := by
    simp [Expr.Defined, Word.Defined]
  unfold build
  rcases l.turnOn? with _ | turnOn
  · exact giveUp_lays _
  refine (state_lays h hspace turnOn).bind fun on? => ?_
  rcases on? with _ | on
  · exact .pure fun _ => .nil
  let lamp :=
    (Element.single .pilotLamp on).selectedBy [.name "doors", .integer 0, .operator .notEqual]
  have hstrip : ¬ lamp.IsStrip := Element.not_isStrip_selectedBy (by decide) (by decide)
  have hlamp (states : List (ElementState Checked))
      (hstates : ∀ state ∈ on :: states, ∃ size, state.Pictures env.store warned size) :
      Element.Laid env.store warned { lamp with states := on :: states } := by
    refine Element.laid_pictures hstrip ⟨fun state hstate => ?_, ?_, trivial⟩ hstates
    · obtain ⟨size, hpicture⟩ := hstates state hstate
      exact hpicture.defined
    · exact fun f hf => Option.some.inj hf ▸ hdoors
  have hone (hon : ∃ size, on.Pictures env.store warned size) :
      Step.Laid env.store warned [.element lamp] :=
    .single (hlamp [] (List.forall_mem_singleton.mpr hon))
  dsimp only
  rcases l.turnOff? with _ | turnOff
  · exact .pure hone
  refine (state_lays h hspace turnOff).bind fun off? => ?_
  rcases off? with _ | off
  · exact .pure fun _ => hone
  · exact .pure fun hoff hon => .several (hlamp [off]
      (List.forall_mem_cons.mpr ⟨hon, List.forall_mem_singleton.mpr hoff⟩))

end PilotLamp

namespace Watch

variable {w : Watch Checked}

theorem build_lays (h : w.Sound) (hspace : space.Sound) :
    Lays env s warned (w.build s space) (Step.Laid env.store warned) := by
  have hand (image : String) (layer : Int) {function : Expr Checked}
      (hfunction : function.Defined) :
      Lays env s warned (w.handAt s space image layer function) (Step.Laid env.store warned) :=
    hand_lays hspace (by decide) image h.center h.radius (defined_depthOf _) _ hfunction
  refine dial_lays (optionalImage_lays hspace (by decide) _ h.center (defined_depthOf _))
    (hand _ _ ?_) (hand _ _ ?_) (hand _ _ ?_) <;>
    simp [hourFunction, minuteFunction, secondFunction, Expr.Defined, Word.Defined]

end Watch

namespace BrakeIndicator

variable {b : BrakeIndicator Checked}

theorem frame_lays (h : b.Sound) (hspace : space.Sound) (path : Path) {size : PixelSize}
    (hwidth : size.width ≠ 0) (index : Nat) :
    Lays env s warned (b.frame s space path (lengths size).y index)
      (OrFault True (·.Frames env.store warned .brakeIndicator path size)) := by
  unfold frame
  refine (texture_lays _ _).bindOption (.pure trivial) fun ⟨texture, _⟩ ⟨t, _, hload, _⟩ => ?_
  exact Build.frame_lays hspace ⟨h.corner.x, h.corner.y, h.width, (lengths_defined size).y⟩
    (defined_depthOf _) rfl (TextureStore.issues_of_load hload) fun hempty =>
      .inr (Rect.isDegenerate_of_height (lengths_y (hempty.resolve_left hwidth)))

theorem brakeFunction_defined (brake : BrakeHandle) :
    (brakeFunction brake : Expr Checked).Defined := by
  unfold brakeFunction
  split <;> simp [Expr.Defined, Word.Defined]

theorem build_lays (h : b.Sound) (hspace : space.Sound) :
    Lays env s warned (b.build s space) (Step.Laid env.store warned) := by
  unfold build
  rcases b.image? with _ | path
  · exact giveUp_lays _
  refine .ite (fun _ => giveUp_lays _) fun _ => ?_
  refine (imageSize_lays _).bindOption (.pure .nil) fun sheet ⟨t, size, hsheet, hsize⟩ => ?_
  subst hsize
  refine .ite (fun _ => giveUp_lays _) fun hframes => .read ?_
  have hwidth := divisor_lengths_x.mp
    (Sheet.divisors_of_frames (lengths_defined size).x h.width hframes).1
  exact strip_lays hsheet (.inl (by decide)) (brakeFunction_defined _) fun k _ =>
    frame_lays h hspace path hwidth k

end BrakeIndicator

theorem instrument_lays (hspace : space.Sound) :
    Lays env s warned (instrument space s) (Step.Laid env.store warned) := by
  unfold instrument
  split
  case h_1 | h_2 | h_3 | h_4 =>
    exact buildWith_lays (PressureGauge.build_lays (PressureGauge.read_sound _ s) hspace)
  case h_5 | h_6 | h_7 =>
    exact buildWith_lays (Speedometer.build_lays (Speedometer.read_sound _ s) hspace)
  case h_8 | h_9 =>
    exact buildWith_lays (DigitalIndicator.build_lays (DigitalIndicator.read_sound _ s) hspace)
  case h_10 | h_11 => exact buildWith_lays (PilotLamp.build_lays (PilotLamp.read_sound _ s) hspace)
  case h_12 | h_13 => exact buildWith_lays (Watch.build_lays (Watch.read_sound _ s) hspace)
  case h_14 | h_15 =>
    exact buildWith_lays (BrakeIndicator.build_lays (BrakeIndicator.read_sound _ s) hspace)
  case h_16 => exact .pure .nil

theorem part_lays (hspace : space.Sound) {frame : Frame Checked} (hframe : frame.Sound)
    (heading : Heading Checked) :
    Lays env s warned (part space frame s heading) (Step.Laid env.store warned) := by
  rcases heading with b | v | _
  · exact b.build_lays hspace hframe
  · exact .pure .nil
  · exact instrument_lays hspace

end Framed

end DriverDesk
