import DriverDesk.Proofs.Commit
import DriverDesk.Proofs.Laid
import DriverDesk.Proofs.Run

/-!
# Instruments that their images do not measure

A needle and a linear gauge divide by the size of their image without looking at it, so nothing
they work out from it has a value where it is zero. A hand and a digit have a measure from their
section instead, and stand in it without a warning. `Silent` says of work that it says nothing;
the last part puts each of the four alone on a panel whose images all have one size.
-/

namespace DriverDesk

open Checked Build Step

variable {K σ : Type}

/-! ## Needles and linear gauges -/

namespace Calibrated

variable {env : BuildEnv Checked σ} {t : σ} {s : Section} {space : Space Checked}

/-- A needle whose image has no area has no place. -/
theorem Needle.build_undefined {n : Needle Checked} {day : Path} {id : TextureId}
    {size : PixelSize} (hday : n.daytime? = some day)
    (hrange : ¬ (n.minimum == n.maximum) = true)
    (hload : env.store.load? t day (TextureParams.keyed n.key) = some (id, size))
    (hempty : size.Empty) :
    Yields env t (n.build s space) fun steps => ∃ e, steps = [.element e] ∧ ¬ e.Defined := by
  unfold build
  rw [hday]
  refine .ite (fun h => absurd h hrange) fun _ => ?_
  refine (texture_yields s _ _).bind fun found t' hfound => ?_
  rw [hload] at hfound
  subst hfound
  refine (optionalTexture_gives s _ _).yields.bind fun night _ _ => ?_
  refine (quadState_gives_quad _ _ _ _ _).yields.bind fun state _ hstate => ?_
  refine (subject_gives s _ _).yields.bind fun subject _ _ => .pure ⟨_, rfl, fun h => ?_⟩
  subst hstate
  have hoffset := (h.states _ List.mem_cons_self).offset
  rcases hempty with hwidth | hheight
  · have hx := hoffset.x
    simp [Space.quad, pivot, lengths_x hwidth] at hx
  · have hy := hoffset.y
    simp [Space.quad, pivot, lengths_y hheight] at hy

/-- A linear gauge whose image has no width has no shift. -/
theorem LinearGauge.build_undefined {g : LinearGauge Checked} {day : Path} {id : TextureId}
    {size : PixelSize} (hday : g.daytime? = some day) (hrange : ¬ g.maximum ≤ g.minimum)
    (hwidth : ¬ g.width ≤ 0.0) (hload : env.store.load? t day g.params = some (id, size))
    (hempty : size.width = 0) :
    Yields env t (g.build s space) fun steps => ∃ e, steps = [.element e] ∧ ¬ e.Defined := by
  unfold build
  rw [hday]
  refine .ite (fun h => absurd h hrange) fun _ => .ite (fun h => absurd h hwidth) fun _ => ?_
  refine (texture_yields s _ _).bind fun found t' hfound => ?_
  rw [hload] at hfound
  subst hfound
  refine (optionalTexture_gives s _ _).yields.bind fun night _ _ => ?_
  refine (quadState_gives s _ _ _ _ _).yields.bind fun state _ _ => ?_
  refine (subject_gives s _ _).yields.bind fun subject _ _ => .pure ⟨_, rfl, fun h => ?_⟩
  have hshift : (g.shift (lengths size).x subject).Defined := h.motion
  have hfactor : (g.width / (lengths size).x / (g.maximum - g.minimum)).Defined :=
    hshift (.number _) (List.mem_append_right _ (by simp))
  rw [lengths_x hempty] at hfactor
  simp at hfactor

end Calibrated

/-! ## Work that says nothing -/

namespace Build

/-- On a bench with the textures `t`, `x` says nothing, and `P` holds of its value and of the
textures that it leaves. -/
def Silent {α : Type} (env : BuildEnv K σ) (t : σ) (x : Build K σ α) (P : α → σ → Prop) : Prop :=
  ∀ b, b.textures = t →
    (x env b).2.diagnostics = b.diagnostics ∧ P (x env b).1 (x env b).2.textures

variable {env : BuildEnv K σ} {t : σ}

namespace Silent

variable {α β : Type} {x : Build K σ α} {f : α → Build K σ β} {P : α → σ → Prop} {Q : β → σ → Prop}

theorem pure {a : α} (h : P a t) : Silent env t (Pure.pure a) P :=
  fun _ hb => ⟨rfl, hb.symm ▸ h⟩

theorem bind (hx : Silent env t x P) (hf : ∀ a t', P a t' → Silent env t' (f a) Q) :
    Silent env t (x >>= f) Q := by
  intro b hb
  obtain ⟨hsilent, ha⟩ := hx b hb
  obtain ⟨hsilent', hc⟩ := hf _ _ ha (x env b).2 rfl
  exact ⟨hsilent'.trans hsilent, hc⟩

theorem mono {P' : α → σ → Prop} (hx : Silent env t x P) (h : ∀ a t', P a t' → P' a t') :
    Silent env t x P' := fun b hb => ⟨(hx b hb).1, h _ _ (hx b hb).2⟩

theorem map {g : α → β} (hx : Silent env t x P) (h : ∀ a t', P a t' → Q (g a) t') :
    Silent env t (g <$> x) Q := fun b hb => ⟨(hx b hb).1, h _ _ (hx b hb).2⟩

theorem read {f : BuildEnv K σ → Build K σ β} (h : Silent env t (f env) Q) :
    Silent env t (MonadReader.read >>= f) Q := fun b hb => h b hb

theorem get {f : Bench σ → Build K σ β} (h : ∀ b, b.textures = t → Silent env t (f b) Q) :
    Silent env t (MonadState.get >>= f) Q := fun b hb => h b hb b hb

/-- What follows work that was left out. -/
theorem nothing {f : List α → Build K σ β} (h : Silent env t (f []) Q) :
    Silent env t (Pure.pure [] >>= f) Q := fun b hb => h b hb

end Silent

variable {s : Section}

theorem register_silent (path : Path) (params : TextureParams) :
    Silent env t (register path params : Build K σ _) fun id? t' =>
      (id?, t') = env.store.register t path params := by
  intro b hb
  subst hb
  exact ⟨rfl, rfl⟩

theorem stockImage_silent {image : String}
    (hfile : env.read.files.isFile (env.read.files.stockImage image) = true) :
    Silent env t (stockImage s image : Build K σ _) fun path? _ =>
      path? = some (env.read.files.stockImage image) := by
  refine .read ?_
  rw [if_pos hfile]
  exact .pure rfl

theorem buildWith_yields_pure {α : Type} [Readable α]
    {build : α → Section → Build K σ (List (Step K))} {a : α} {P : List (Step K) → Prop}
    (hread : s.read env.read = pure a) (h : Yields env t (build a s) P) :
    Yields env t (buildWith α build s) P :=
  buildWith_yields (by rw [hread]; exact h)

/-- What a section that reads without a diagnostic is built to. -/
theorem buildWith_silent {α : Type} [Readable α] {build : α → Section → Build K σ (List (Step K))}
    {a : α} {P : List (Step K) → σ → Prop} (hread : s.read env.read = pure a)
    (h : Silent env t (build a s) P) : Silent env t (buildWith α build s) P := by
  intro b hb
  have hsettings : (settings α s : Build K σ α) env b = (a, b) := by
    change ((s.read env.read).value, { b with
      diagnostics := b.diagnostics ++ (s.read env.read : Noted α).notes }) = (a, b)
    rw [hread, Noted.value_pure, Noted.notes_pure, List.append_nil]
  have hrun : buildWith α build s env b = build a s env b :=
    congrArg (fun p : α × Bench σ => build p.1 s env p.2) hsettings
  rw [hrun]
  exact h b hb

/-- A strip of frames that can be had opens with an element. -/
theorem strip_silent {frame : Nat → Build K σ (Option (ElementState K))}
    {first : ElementState K → Element K} {frames : Nat} (hframes : frames ≠ 0)
    (hframe : ∀ k t', Silent env t' (frame k) fun state? _ => state?.isSome = true) :
    Silent env t (strip frame first frames 0) fun steps _ =>
      ∃ e rest, steps = .element e :: rest := by
  have hrest : ∀ left index t', Silent env t' (strip frame first left index) fun _ _ => True := by
    intro left
    induction left with
    | zero => exact fun _ _ => .pure trivial
    | succ left ih =>
      refine fun index t' => (hframe index t').bind fun state? t'' hstate => ?_
      obtain ⟨state, rfl⟩ := Option.isSome_iff_exists.mp hstate
      exact (ih (index + 1) t'').bind fun _ _ _ => .pure trivial
  obtain ⟨left, rfl⟩ := Nat.exists_eq_succ_of_ne_zero hframes
  refine (hframe 0 t).bind fun state? t' hstate => ?_
  obtain ⟨state, rfl⟩ := Option.isSome_iff_exists.mp hstate
  exact (hrest left 1 t').bind fun rest _ _ => .pure ⟨first state, rest, rfl⟩

variable [Arith K] {path : Path} {size : PixelSize}

theorem texture_silent {params : TextureParams} {id : TextureId}
    (hload : env.store.load? t path params = some (id, size)) :
    Silent env t (texture s path params : Build K σ _) fun found _ =>
      found = some (id, lengths size) := by
  obtain ⟨id', hid, h⟩ := Option.bind_eq_some_iff.mp hload
  obtain ⟨size', hsize, h⟩ := Option.map_eq_some_iff.mp h
  cases h
  refine (register_silent path params).bind fun id? t' h => ?_
  rw [← h] at hid hsize
  subst hid
  refine .read (.get fun b hb => ?_)
  rw [hb, hsize]
  exact .pure rfl

theorem imageSize_silent (hsize : env.store.imageSize? t path = some size) :
    Silent env t (imageSize s path : Build K σ _) fun sheet _ => sheet = some (lengths size) := by
  refine .read (.get fun b hb => ?_)
  rw [hb, hsize]
  exact .pure rfl

theorem quadState_silent {space : Space K} {rect : Rect K} (h : rect.isDegenerate = false)
    (pivot : Point K) (depth : K) (m : Material) :
    Silent env t (quadState s space rect pivot depth m : Build K σ _) fun _ _ => True := by
  unfold quadState
  rw [h]
  exact .pure trivial

end Build

/-! ## Hands and digits -/

theorem Rect.isDegenerate_eq_false {r : Rect Checked} (hwidth : r.width.Divisor)
    (hheight : r.height.Divisor) : r.isDegenerate = false := by
  have hne {x : Checked} (hx : x.Divisor) : ¬ (x == 0.0) = true := fun h =>
    divisor_value.mp (beq_zero_iff.mp h ▸ hx) rfl
  exact Bool.eq_false_iff.mpr fun h => (Bool.or_eq_true _ _ ▸ h).elim (hne hwidth) (hne hheight)

namespace Framed

variable {env : BuildEnv Checked σ} {t : σ} {s : Section} {space : Space Checked}

/-- A hand whose image has no height is as wide as it is high. -/
theorem isDegenerate_handRect {center : Point Checked} {radius : Checked}
    (hradius : radius.Divisor) {size : PixelSize} (hheight : size.height = 0) :
    (handRect center radius (lengths size)).isDegenerate = false := by
  have htwo : (2.0 : Checked).Divisor := divisor_ofScientific.mpr (by decide)
  have hone : (1.0 : Checked).Divisor := divisor_ofScientific.mpr (by decide)
  have haspect : ((lengths size : Point Checked).y == 0.0) = true :=
    beq_zero_iff.mpr (lengths_y hheight)
  unfold handRect
  rw [if_pos haspect]
  exact Rect.isDegenerate_eq_false (divisor_mul.mpr ⟨divisor_mul.mpr ⟨htwo, hradius⟩, hone⟩)
    (divisor_mul.mpr ⟨htwo, hradius⟩)

/-- A hand whose image has no height stands, and nothing is said. -/
theorem hand_silent {kind : ElementKind} {image : String} {center : Point Checked}
    {radius : Checked} (hradius : radius.Divisor) (depth : Checked) (tint : Rgba)
    (function : Expr Checked) {id : TextureId} {size : PixelSize}
    (hfile : env.read.files.isFile (env.read.files.stockImage image) = true)
    (hload : ∀ t, env.store.load? t (env.read.files.stockImage image) .plain = some (id, size))
    (hheight : size.height = 0) :
    Silent env t (hand s space kind image center radius depth tint function) fun steps _ =>
      ∃ e rest, steps = .element e :: rest := by
  refine (stockImage_silent hfile).bind fun path? t' hpath => ?_
  subst hpath
  refine (texture_silent (hload t')).bind fun found t'' hfound => ?_
  subst hfound
  exact (quadState_silent (isDegenerate_handRect hradius hheight) _ _ _).bind fun state _ _ =>
    .pure ⟨_, [], rfl⟩

/-- A speedometer with nothing but a hand. -/
theorem Speedometer.build_silent {m : Speedometer Checked} (hlamps : m.usesLamps = false)
    (hbackground : m.background? = none) (hsignals : m.signals? = none)
    (hcover : m.cover? = none) (hradius : m.radius.Divisor) {id : TextureId} {size : PixelSize}
    (hfile : env.read.files.isFile (env.read.files.stockImage "needle_speedometer.png") = true)
    (hload : ∀ t, env.store.load? t (env.read.files.stockImage "needle_speedometer.png") .plain =
      some (id, size)) (hheight : size.height = 0) :
    Silent env t (m.build s space) fun steps _ => ∃ e rest, steps = .element e :: rest := by
  unfold build pointer signals optionalImage
  rw [hlamps, hbackground, hsignals, hcover]
  dsimp only
  rw [if_neg Bool.false_ne_true]
  refine Silent.nothing (Silent.nothing ?_)
  refine (hand_silent hradius _ _ _ hfile hload hheight).bind fun hand _ ⟨e, rest, hhand⟩ => ?_
  subst hhand
  exact Silent.nothing (.pure ⟨e, rest ++ [], rfl⟩)

namespace DigitalIndicator

variable {d : DigitalIndicator Checked} {path : Path} {id : TextureId} {size sheet : PixelSize}

theorem frame_silent (hx : d.size.x.Divisor) (hy : d.size.y.Divisor)
    (hload : ∀ t params, env.store.load? t path params = some (id, size)) (sheetWidth : Checked)
    (digit index : Nat) :
    Silent env t (d.frame s space path sheetWidth digit index) fun state? _ =>
      state?.isSome = true := by
  refine (texture_silent (hload t _)).bind fun found t' hfound => ?_
  subst hfound
  exact (quadState_silent (Rect.isDegenerate_eq_false hx hy) _ _ _).map fun _ _ _ => rfl

theorem strips_silent (hx : d.size.x.Divisor) (hy : d.size.y.Divisor)
    (hload : ∀ t params, env.store.load? t path params = some (id, size)) (sheetWidth : Checked)
    {frames : Nat} (hframes : frames ≠ 0) (digit : Nat) (functions : List (Expr Checked)) :
    Silent env t (d.strips s space path sheetWidth frames digit functions) fun steps _ =>
      functions ≠ [] → ∃ e rest, steps = .element e :: rest := by
  induction functions generalizing digit t with
  | nil => exact .pure (absurd rfl)
  | cons function functions ih =>
    refine (strip_silent hframes fun k t' => frame_silent hx hy hload sheetWidth digit k).bind
      fun steps t' ⟨e, rest, hsteps⟩ => (ih (digit + 1)).bind fun steps' t'' _ => .pure fun _ => ?_
    exact ⟨e, rest ++ steps', hsteps ▸ rfl⟩

/-- Digits stand in the size of their section, whatever the width of their sheet is, and nothing
is said. -/
theorem build_silent (hnumber : d.number? = some path) (hsize : d.size.Defined)
    (hx : ¬ d.size.x ≤ 0.0) (hy : ¬ d.size.y ≤ 0.0)
    (hsheet : ∀ t, env.store.imageSize? t path = some sheet)
    (hframes : Sheet.frameCount (lengths sheet).y d.size.y ≠ 0)
    (hload : ∀ t params, env.store.load? t path params = some (id, size)) :
    Silent env t (d.build s space) fun steps _ => ∃ e rest, steps = .element e :: rest := by
  have hwidth : d.size.x.Divisor :=
    sub_zero_eq d.size.x ▸ divisor_sub_of_not_le (defined_ofScientific ..) hsize.x hx
  have hheight := (Sheet.divisors_of_frames (lengths_defined sheet).y hsize.y hframes).2
  unfold build
  rw [hnumber]
  dsimp only
  rw [if_neg (by simp [hx, hy])]
  refine (imageSize_silent (hsheet t)).bind fun sheet? t' h => ?_
  subst h
  dsimp only
  rw [if_neg hframes]
  exact (strips_silent hwidth hheight hload _ hframes 0 d.digitFunctions).mono fun steps _ h =>
    h (List.cons_ne_nil _ _)

end DigitalIndicator

end Framed

/-! ## Surroundings in which all images have one size -/

/-- A view in which every file is there. -/
def FileView.all : FileView := ⟨fun _ => true, fun _ reference => reference, fun image => ⟨image⟩⟩

theorem image_all {c : RecordAt} (hfiles : c.env.files = .all) (hvalue : c.value = "image.png") :
    c.image = pure (some ⟨"image.png"⟩) := by
  have hempty : ¬ "image.png".isEmpty = true := by decide
  have hlegal : ¬ "image.png".toList.any RecordAt.forbidden.contains = true := by decide
  have hpath : Path.defaultExtension "bmp" ⟨"image.png"⟩ = ⟨"image.png"⟩ := by decide
  unfold RecordAt.image
  rw [hvalue, if_neg hempty, if_neg hlegal, hfiles, hpath]
  rfl

/-- A store in which every image has the size. -/
def TextureStore.uniform (size : PixelSize) : TextureStore Unit :=
  ⟨fun _ _ _ => (some 0, ()), fun _ _ => some size, fun _ _ => some size⟩

theorem TextureStore.load?_uniform (size : PixelSize) (t : Unit) (path : Path)
    (params : TextureParams) : (uniform size).load? t path params = some (0, size) := rfl

namespace Compilation

/-- A panel of the lines. -/
def panelOf (lines : List String) : PanelSource := ⟨⟨"panel.cfg"⟩, ⟨"Train"⟩, lines⟩

/-- What its builders know, in exact arithmetic and where every image has the size. -/
noncomputable def sizedEnv (size : PixelSize) (lines : List String) : BuildEnv Checked Unit :=
  environment (panelOf lines) (Options.standard : Options ℝ).checked .all (.uniform size)

/-- What becomes of it there. -/
noncomputable def sized (format : PanelFormat) (size : PixelSize) (lines : List String) :
    Compilation Checked Unit :=
  compileAs format (panelOf lines) (Options.standard : Options ℝ).checked .all (.uniform size)
    .never ()

variable {size : PixelSize} {lines : List String} {s : Section}

theorem sized_alone {format : PanelFormat} {camera : Camera Checked}
    {x : Build Checked Unit (List (Step Checked))}
    (h : prepared format (panelOf lines) (Options.standard : Options ℝ).checked .all
      (.uniform size) () = (⟨camera, [(s, x)]⟩, ⟨(), [], []⟩)) :
    (sized format size lines).batches = [(x (sizedEnv size lines) ⟨(), [], []⟩).1] ∧
      (sized format size lines).bench = (x (sizedEnv size lines) ⟨(), [], []⟩).2 := by
  have hbuilt := compileAs_built format (panelOf lines) (Options.standard : Options ℝ).checked .all
    (.uniform size) () .never
  dsimp only at hbuilt
  rw [Signal.reached_never, h] at hbuilt
  exact Prod.mk.inj hbuilt

/-- A section that opens with an element adds one. -/
theorem added_ne_nil {c : Compilation K σ} {e : Element K} {rest : List (Step K)}
    (h : c.batches = [.element e :: rest]) : c.added ≠ [] := by
  have hlength := length_placeAll [] (.element e :: rest)
  rw [List.countP_cons_of_pos rfl] at hlength
  rw [added, h, List.flatMap_singleton, made]
  exact List.ne_nil_of_length_pos (by omega)

/-- A calibrated panel of one instrument whose element has a number without a value. -/
theorem sized_calibrated (hsections : Sections.ofLines lines = ⟨[], [s]⟩)
    (hthis : s.lowerName ≠ "this")
    (h : ∀ space, Yields (sizedEnv size lines) () (Calibrated.instrument space s) fun steps =>
      ∃ e, steps = [.element e] ∧ ¬ e.Defined) :
    ∃ e, (sized .calibrated size lines).added = [e] ∧ ¬ e.Defined := by
  let viewport := (Options.standard : Options ℝ).checked.viewport
  let space := Calibration.standard.space viewport (Options.standard : Options ℝ).checked.driver
  have hplan : prepared .calibrated (panelOf lines) (Options.standard : Options ℝ).checked .all
      (.uniform size) () =
      (⟨.ofCalibration .standard viewport, [(s, Calibrated.instrument space s)]⟩,
        ⟨(), [], []⟩) := by
    unfold prepared prepare panelOf
    rw [hsections]
    unfold Plan.make Calibrated.plan
    dsimp only [Calibrated.readHeaders]
    simp only [if_neg hthis]
    rfl
  obtain ⟨e, hsteps, he⟩ := h space ⟨(), [], []⟩ rfl
  refine ⟨e, ?_, he⟩
  rw [added, (sized_alone hplan).1, hsteps]
  rfl

/-- A framed panel of one instrument that stands and says nothing. -/
theorem sized_framed (hsections : Sections.ofLines lines = ⟨[], [s]⟩)
    (hpanel : Framed.isPanel s.lowerName = false) (hview : Framed.isView s.lowerName = false)
    (h : ∀ space, Silent (sizedEnv size lines) () (Framed.instrument space s) fun steps _ =>
      ∃ e rest, steps = .element e :: rest) :
    (sized .framed size lines).added ≠ [] ∧
      (sized .framed size lines).bench.diagnostics = [] := by
  let options := (Options.standard : Options ℝ).checked
  let frame := Frame.centered options.viewport options.driver
  let space := frame.space options.driver
  have hplan : prepared .framed (panelOf lines) options .all (.uniform size) () =
      (⟨.ofFrame frame 0.0 0.0, [(s, Framed.instrument space s)]⟩, ⟨(), [], []⟩) := by
    unfold prepared prepare panelOf
    rw [hsections]
    unfold Plan.make Framed.plan
    dsimp only [Framed.readHeadings]
    simp only [hpanel, hview, Bool.false_eq_true, if_false]
    rfl
  obtain ⟨hbatches, hbench⟩ := sized_alone hplan
  obtain ⟨hsilent, e, rest, hsteps⟩ := h space ⟨(), [], []⟩ rfl
  rw [hsteps] at hbatches
  exact ⟨added_ne_nil hbatches, hbench ▸ hsilent⟩

end Compilation

/-! ## The four on a panel -/

section

variable {env : ReadEnv}

theorem Calibrated.Needle.read_image (hfiles : env.files = .all) :
    (Section.read env ⟨"Needle", 1, 0, 2, [⟨"DaytimeImage", "image.png", 2⟩]⟩ :
        Noted (Needle Checked)) =
      pure { (Readable.initial : Needle Checked) with daytime? := some ⟨"image.png"⟩ } := by
  have hkey : Record.lowerKey ⟨"DaytimeImage", "image.png", 2⟩ = "daytimeimage" := by
    decide
  unfold Section.read
  rw [readRecords_cons (by rw [hkey]; rfl) (Field.read_image (image_all hfiles rfl))]
  rfl

theorem Calibrated.LinearGauge.read_image (hfiles : env.files = .all) :
    (Section.read env ⟨"LinearGauge", 1, 0, 4,
        [⟨"DaytimeImage", "image.png", 2⟩, ⟨"Maximum", "1", 3⟩, ⟨"Width", "1", 4⟩]⟩ :
        Noted (LinearGauge Checked)) =
      pure { (Readable.initial : LinearGauge Checked) with
        daytime? := some ⟨"image.png"⟩
        maximum := Arith.ofDecimal ⟨false, 1, 0⟩
        width := Arith.ofDecimal ⟨false, 1, 0⟩ } := by
  have hkey : Record.lowerKey ⟨"DaytimeImage", "image.png", 2⟩ = "daytimeimage" := by
    decide
  have hmaximum : Record.lowerKey ⟨"Maximum", "1", 3⟩ = "maximum" := by decide
  have hwidth : Record.lowerKey ⟨"Width", "1", 4⟩ = "width" := by decide
  have hone : Numeral.lenient? "1" = some ⟨false, 1, 0⟩ := by decide
  unfold Section.read
  rw [readRecords_cons (by rw [hkey]; rfl) (Field.read_image (image_all hfiles rfl)),
    readRecords_cons (by rw [hmaximum]; rfl) (Field.read_keeping (RecordAt.number_eq rfl hone)),
    readRecords_cons (by rw [hwidth]; rfl) (Field.read_keeping (RecordAt.number_eq rfl hone))]
  rfl

theorem Framed.DigitalIndicator.read_image (hfiles : env.files = .all) :
    (Section.read env ⟨"DigitalIndicator", 1, 0, 3,
        [⟨"Number", "image.png", 2⟩, ⟨"Size", "8, 8", 3⟩]⟩ : Noted (DigitalIndicator Checked)) =
      pure { (Readable.initial : DigitalIndicator Checked) with
        number? := some ⟨"image.png"⟩
        size := ⟨Arith.ofDecimal ⟨false, 8, 0⟩, Arith.ofDecimal ⟨false, 8, 0⟩⟩ } := by
  have hnumber : Record.lowerKey ⟨"Number", "image.png", 2⟩ = "number" := by decide
  have hsize : Record.lowerKey ⟨"Size", "8, 8", 3⟩ = "size" := by decide
  have hfields : Argument.fields "8, 8" = ["8", "8"] := by decide
  have hnumeral : Numeral.lenient? "8" = some ⟨false, 8, 0⟩ := by decide
  have hpoint : (point ⟨env, "DigitalIndicator", ⟨"Size", "8, 8", 3⟩⟩ :
      Noted (Option (Option Checked × _))) =
        pure (some (some (Arith.ofDecimal ⟨false, 8, 0⟩), some (Arith.ofDecimal ⟨false, 8, 0⟩))) :=
    point_eq hfields rfl rfl hnumeral hnumeral
  unfold Section.read
  rw [readRecords_cons (by rw [hnumber]; rfl) (Field.read_image (image_all hfiles rfl)),
    readRecords_cons (by rw [hsize]; rfl) (Field.read_keeping hpoint)]
  rfl

end

namespace Compilation

variable {lines : List String}

theorem sized_needle (hlines : lines = ["[Needle]", "DaytimeImage = image.png"]) :
    ∃ e, (sized .calibrated ⟨0, 64⟩ lines).added = [e] ∧ ¬ e.Defined := by
  let s : Section := ⟨"Needle", 1, 0, 2, [⟨"DaytimeImage", "image.png", 2⟩]⟩
  have hsections : Sections.ofLines lines = ⟨[], [s]⟩ := by rw [hlines]; decide
  have hname : s.lowerName = "needle" := by decide
  have hrange : ¬ ((0.0 : Checked) == 1000.0) = true := fun h => by
    obtain ⟨a, hzero, ha⟩ := beq_iff.mp h
    have hdivisor : (1000.0 : Checked).Divisor := divisor_ofScientific.mpr (by decide)
    rw [ha, ← hzero, zero_eq] at hdivisor
    exact divisor_value.mp hdivisor rfl
  refine sized_calibrated hsections (by rw [hname]; decide) fun space => ?_
  rw [Calibrated.instrument_needle hname]
  refine buildWith_yields_pure (Calibrated.Needle.read_image rfl) ?_
  exact Calibrated.Needle.build_undefined rfl hrange (TextureStore.load?_uniform ..) (.inl rfl)

theorem sized_linearGauge
    (hlines : lines = ["[LinearGauge]", "DaytimeImage = image.png", "Maximum = 1", "Width = 1"]) :
    ∃ e, (sized .calibrated ⟨0, 16⟩ lines).added = [e] ∧ ¬ e.Defined := by
  let s : Section := ⟨"LinearGauge", 1, 0, 4,
    [⟨"DaytimeImage", "image.png", 2⟩, ⟨"Maximum", "1", 3⟩, ⟨"Width", "1", 4⟩]⟩
  have hsections : Sections.ofLines lines = ⟨[], [s]⟩ := by rw [hlines]; decide
  have hname : s.lowerName = "lineargauge" := by decide
  have hpositive := not_ofDecimal_le Nat.one_pos
  refine sized_calibrated hsections (by rw [hname]; decide) fun space => ?_
  rw [Calibrated.instrument_linearGauge hname]
  refine buildWith_yields_pure (Calibrated.LinearGauge.read_image rfl) ?_
  exact Calibrated.LinearGauge.build_undefined rfl hpositive hpositive
    (TextureStore.load?_uniform ..) rfl

theorem sized_speedometer (hlines : lines = ["[Speedometer]"]) :
    (sized .framed ⟨16, 0⟩ lines).added ≠ [] ∧
      (sized .framed ⟨16, 0⟩ lines).bench.diagnostics = [] := by
  let s : Section := ⟨"Speedometer", 1, 0, 1, []⟩
  have hsections : Sections.ofLines lines = ⟨[], [s]⟩ := by rw [hlines]; decide
  have hname : s.lowerName = "speedometer" := by decide
  have hpanel : Framed.isPanel s.lowerName = false := by rw [hname]; decide
  have hview : Framed.isView s.lowerName = false := by rw [hname]; decide
  have hradius : (16.0 : Checked).Divisor := divisor_ofScientific.mpr (by decide)
  have hload (t : Unit) : (sizedEnv ⟨16, 0⟩ lines).store.load? t
      ((sizedEnv ⟨16, 0⟩ lines).read.files.stockImage "needle_speedometer.png") .plain =
        some (0, ⟨16, 0⟩) := rfl
  refine sized_framed hsections hpanel hview fun space => ?_
  rw [Framed.instrument_speedometer (by rw [hname]; decide)]
  have hread (env : ReadEnv) : s.read env = pure (Readable.initial : Framed.Speedometer Checked) :=
    rfl
  refine buildWith_silent (hread _) ?_
  exact Framed.Speedometer.build_silent rfl rfl rfl rfl hradius rfl hload rfl

theorem sized_digitalIndicator
    (hlines : lines = ["[DigitalIndicator]", "Number = image.png", "Size = 8, 8"]) :
    (sized .framed ⟨0, 8⟩ lines).added ≠ [] ∧
      (sized .framed ⟨0, 8⟩ lines).bench.diagnostics = [] := by
  let s : Section := ⟨"DigitalIndicator", 1, 0, 3,
    [⟨"Number", "image.png", 2⟩, ⟨"Size", "8, 8", 3⟩]⟩
  have hsections : Sections.ofLines lines = ⟨[], [s]⟩ := by rw [hlines]; decide
  have hname : s.lowerName = "digitalindicator" := by decide
  have hpanel : Framed.isPanel s.lowerName = false := by rw [hname]; decide
  have hview : Framed.isView s.lowerName = false := by rw [hname]; decide
  have hpositive : ¬ (Arith.ofDecimal ⟨false, 8, 0⟩ : Checked) ≤ 0.0 :=
    not_ofDecimal_le (by decide)
  have hframes : Sheet.frameCount (lengths ⟨0, 8⟩ : Point Checked).y
      (Arith.ofDecimal ⟨false, 8, 0⟩) ≠ 0 := by
    rw [ofDecimal_natCast]
    refine (Sheet.frameCount_value _ _).trans_ne ?_
    norm_num [Sheet.frameCount, Arith.ofInt, Arith.whole, twoTo]
  refine sized_framed hsections hpanel hview fun space => ?_
  rw [Framed.instrument_digitalIndicator (by rw [hname]; decide)]
  refine buildWith_silent (Framed.DigitalIndicator.read_image rfl) ?_
  exact Framed.DigitalIndicator.build_silent rfl ⟨defined_ofDecimal _, defined_ofDecimal _⟩
    hpositive hpositive (fun _ => rfl) hframes fun _ _ => TextureStore.load?_uniform ..

end Compilation

end DriverDesk
