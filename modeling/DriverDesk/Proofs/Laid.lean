import DriverDesk.Proofs.DefinedSettings
import DriverDesk.Proofs.Pieces
import DriverDesk.Proofs.Yields

/-!
# Elements and the sizes of their images

A host may report any size for an image, zero width or height included. An element that is laid
out by an image without area stands as a quad without area, of which its section is warned,
unless the section has measures of its own for it. All numbers of an element have values, if it
is not one of two that divide by the size of their image unseen.
-/

namespace DriverDesk

open Checked Build Step

variable {K σ : Type}

/-! ## Sizes of images -/

/-- The warning of a section that lays out an element without area. -/
def Section.emptyWarning (file : String) (s : Section) : Diagnostic :=
  (Diagnostic.ofKind .element "The element has zero width or height"
    ⟨file, some s.name, none, some s.line⟩).asWarning

/-- The mark of that warning. -/
def Bench.Mark.emptyOf (file : String) (s : Section) : Bench.Mark σ :=
  ⟨fun b => s.emptyWarning file ∈ b.diagnostics, fun h hmem => h.diagnostics.subset hmem⟩

/-- An image of the size has no area. -/
def PixelSize.Empty (size : PixelSize) : Prop := size.width = 0 ∨ size.height = 0

namespace ElementKind

/-- The instruments that show frames of a sheet and nothing else. -/
def sheets : List ElementKind := [digitalNumber, digitalIndicator, brakeIndicator]

/-- The instruments that turn hands. -/
def dials : List ElementKind := [pressureGauge, speedometer, clock]

theorem not_mem_sheets_of_dials {kind : ElementKind} (h : kind ∈ dials) : kind ∉ sheets := by
  cases kind <;> revert h <;> decide

end ElementKind

namespace Element

/-- The states of the element are frames of a sheet. -/
def IsStrip (e : Element K) : Prop :=
  e.kind ∈ ElementKind.sheets ∨ e.kind = .speedometer ∧ e.stateFunction?.isSome = true

instance (e : Element K) : Decidable e.IsStrip := inferInstanceAs (Decidable (_ ∨ _))

/-- The state shows an image of the size: a frame of the sheet, or all of the image. -/
def Shows (store : TextureStore σ) (e : Element K) (state : ElementState K) (size : PixelSize) :
    Prop :=
  ∃ id path t, state.mesh.material.daytime? = some id ∧
    if e.IsStrip then store.Issues path id ∧ store.imageSize? t path = some size
    else ∃ params, store.load? t path params = some (id, size)

/-- The element divides by a side of its image that is zero, and does not look at it. -/
def DividesByNothing (e : Element K) (size : PixelSize) : Prop :=
  e.kind = .needle ∧ size.Empty ∨ e.kind = .linearGauge ∧ size.width = 0

/-- The section gives the measure that an image of the size lacks: the height of a hand, or the
width of a digit. -/
def HasOwnMeasure (e : Element K) (size : PixelSize) : Prop :=
  (e.kind ∈ ElementKind.dials ∧ ∃ r, e.motion = .turning r) ∧ size.height = 0 ∨
    e.kind = .digitalIndicator ∧ size.width = 0

/-- The numbers of the element have values, and where its image has no area it has none either
and there is a warning, unless it has measures of its own. -/
structure Fits (warned : Prop) (sizes : List PixelSize) (e : Element Checked) : Prop where
  defined : e.Defined
  empty : List.Forall₂ (fun state size =>
    size.Empty → e.HasOwnMeasure size ∨ state.mesh.Flat ∧ warned) e.states sizes

/-- The element shows no image, or it fits those that it shows unless it divides by nothing. -/
inductive Laid (store : TextureStore σ) (warned : Prop) (e : Element Checked) : Prop where
  | plain (hdefined : e.Defined) (hplain : ∀ state ∈ e.states, state.mesh.material.daytime? = none)
  | drawn (sizes : List PixelSize) (hshows : List.Forall₂ (e.Shows store) e.states sizes)
      (hfits : (∀ size ∈ sizes, ¬ e.DividesByNothing size) → e.Fits warned sizes)

end Element

/-- Steps that make elements which are laid out, and nothing else. -/
structure Step.Laid (store : TextureStore σ) (warned : Prop) (steps : List (Step Checked)) :
    Prop where
  assembled : Assembled (fun _ => True) steps
  elements : ∀ e ∈ made steps, e.Laid store warned

namespace Step.Laid

variable {store : TextureStore σ} {warned : Prop} {l l' : List (Step Checked)}

theorem nil : Laid store warned [] := ⟨.nil, List.forall_mem_nil _⟩

theorem single {e : Element Checked} (h : e.Laid store warned) : Laid store warned [.element e] :=
  ⟨.single trivial [], List.forall_mem_singleton.mpr h⟩

/-- One element with further states. -/
theorem several {e : Element Checked} {states : List (ElementState Checked)}
    (h : Element.Laid store warned { e with states := e.states ++ states }) :
    Laid store warned (.element e :: states.map .state) := by
  refine ⟨.single trivial states, ?_⟩
  rw [show made (.element e :: states.map .state) = _ from placeAll_states e states]
  exact List.forall_mem_singleton.mpr h

theorem append (h : Laid store warned l) (h' : Laid store warned l') :
    Laid store warned (l ++ l') := by
  refine ⟨h.assembled.append h'.assembled, ?_⟩
  rw [h'.assembled.made_append]
  exact List.forall_mem_append.mpr ⟨h.elements, h'.elements⟩

end Step.Laid

/-! ## Work in checked arithmetic -/

namespace Build

/-- The bench keeps what it held, and the value has `P` if the warning of an element without
area is `warned`. -/
abbrev Lays {α : Type} (env : BuildEnv Checked σ) (s : Section) (warned : Prop)
    (x : Build Checked σ α) (P : α → Prop) : Prop :=
  Notices env (.emptyOf env.read.fileName s) warned x P

variable {env : BuildEnv Checked σ} {s : Section} {warned : Prop}

theorem lengths_defined (size : PixelSize) : (lengths size : Point Checked).Defined :=
  ⟨defined_ofInt _, defined_ofInt _⟩

theorem divisor_lengths_x {size : PixelSize} :
    (lengths size : Point Checked).x.Divisor ↔ size.width ≠ 0 :=
  divisor_ofInt.trans Int.natCast_ne_zero

theorem divisor_lengths_y {size : PixelSize} :
    (lengths size : Point Checked).y.Divisor ↔ size.height ≠ 0 :=
  divisor_ofInt.trans Int.natCast_ne_zero

theorem lengths_x {size : PixelSize} (h : size.width = 0) :
    (lengths size : Point Checked).x = value 0 := by
  rw [lengths, h]
  exact congrArg value Int.cast_zero

theorem lengths_y {size : PixelSize} (h : size.height = 0) :
    (lengths size : Point Checked).y = value 0 := by
  rw [lengths, h]
  exact congrArg value Int.cast_zero

end Build

namespace Rect

variable {r : Rect Checked}

theorem isDegenerate_of_width (h : r.width = value 0) : r.isDegenerate = true := by
  rw [isDegenerate, beq_zero_iff.mpr h, Bool.true_or]

theorem isDegenerate_of_height (h : r.height = value 0) : r.isDegenerate = true := by
  rw [isDegenerate, beq_zero_iff.mpr h, Bool.or_true]

end Rect

namespace Build

variable {env : BuildEnv Checked σ} {s : Section} {warned : Prop}

theorem warn_lays :
    Lays env s warned (warn s "The element has zero width or height" : Build Checked σ Unit)
      fun _ => warned :=
  fun b => ⟨(warn_gives s _ env b).2, fun hwarned => hwarned
    (List.mem_append_right b.diagnostics (List.mem_singleton_self _))⟩

/-- A rectangle stands as a quad. One without area has none there either, and is warned of. -/
theorem quadState_lays {space : Space Checked} (hspace : space.Sound) (rect : Rect Checked)
    (pivot : Point Checked) (depth : Checked) (m : Material) :
    Lays env s warned (quadState s space rect pivot depth m : Build Checked σ _) fun state =>
      state.mesh.material = m ∧
        (rect.Defined → pivot.Defined → depth.Defined → state.Defined) ∧
        (rect.isDegenerate = true → state.mesh.Flat ∧ warned) := by
  let state : ElementState Checked :=
    ⟨(space.quad rect pivot depth).offset, .ofQuad (space.quad rect pivot depth) m⟩
  have hdefined (hrect : rect.Defined) (hpivot : pivot.Defined) (hdepth : depth.Defined) :
      state.Defined := hspace.state_defined hrect hpivot hdepth m
  unfold quadState
  refine .ite (fun hempty => ?_) fun hempty => ?_
  · exact warn_lays.bind fun _ => .pure fun hwarned =>
      ⟨rfl, hdefined, fun _ => ⟨hspace.quad_flat hempty m, hwarned⟩⟩
  · exact .pure ⟨rfl, hdefined, fun h => absurd h hempty⟩

/-- A texture has the size that the store reports when it loads it. -/
theorem texture_lays (path : Path) (params : TextureParams) :
    Lays env s warned (texture s path params : Build Checked σ _)
      (OrFault True fun found => ∃ t size,
        env.store.load? t path params = some (found.1, size) ∧ found.2 = lengths size) := by
  refine fun b => ⟨(texture_gives s path params env b).2, fun _ => ?_⟩
  rw [texture_yields s path params b rfl]
  cases hload : env.store.load? b.textures path params with
  | none => trivial
  | some found => exact ⟨b.textures, found.2, hload, rfl⟩

theorem imageSize_lays (path : Path) :
    Lays env s warned (imageSize s path : Build Checked σ _)
      (OrFault True fun sheet => ∃ t size,
        env.store.imageSize? t path = some size ∧ sheet = lengths size) := by
  refine .read (.bindGives .get fun b _ => .when (complain_gives s _) (.pure ?_))
  cases hsize : env.store.imageSize? b.textures path with
  | none => trivial
  | some size => exact ⟨b.textures, size, hsize, rfl⟩

theorem subject_lays (name : String) (line? : Option Nat) :
    Lays env s warned (subject s name line? : Build Checked σ _) Expr.Defined :=
  .read (take_gives (Subject.defined_expression _ _ _)).notices

theorem giveUp_lays (message : String) :
    Lays env s warned (giveUp s message : Build Checked σ _) (Step.Laid env.store warned) :=
  (giveUp_gives s message .nil).notices

/-- What follows work whose value, if it has one, is known. -/
theorem Lays.bindOption {α β : Type} {x : Build Checked σ (Option α)}
    {f : Option α → Build Checked σ β} {P : α → Prop} {Q : β → Prop}
    (hx : Lays env s True x (OrFault True P))
    (hnone : Lays env s warned (f none) Q) (hsome : ∀ a, P a → Lays env s warned (f (some a)) Q) :
    Lays env s warned (x >>= f) Q := by
  refine .bindKnown hx fun a? ha => ?_
  cases a? with
  | none => exact hnone
  | some a => exact hsome a ha

end Build

/-! ## Images -/

/-- All of an image of the size stands as a quad, and as one without area that is warned of if
the image has none. -/
structure ElementState.Pictures (store : TextureStore σ) (warned : Prop) (size : PixelSize)
    (state : ElementState Checked) : Prop where
  loaded : ∃ id path t params, state.mesh.material.daytime? = some id ∧
    store.load? t path params = some (id, size)
  defined : state.Defined
  empty : size.Empty → state.mesh.Flat ∧ warned

theorem Build.picture_lays {env : BuildEnv Checked σ} {s : Section} {warned : Prop}
    {space : Space Checked} (hspace : space.Sound) {x y depth : Checked} (hx : x.Defined)
    (hy : y.Defined) (hdepth : depth.Defined) {m : Material} {id : TextureId} {t : σ} {path : Path}
    {params : TextureParams} {size : PixelSize} (hm : m.daytime? = some id)
    (hload : env.store.load? t path params = some (id, size)) :
    Lays env s warned
      (quadState s space ⟨x, y, (lengths size).x, (lengths size).y⟩ (.both 0.5) depth m :
        Build Checked σ _) (·.Pictures env.store warned size) := by
  refine (quadState_lays hspace _ _ _ _).mono fun state ⟨hmaterial, hdefined, hempty⟩ => ?_
  have hlengths := lengths_defined size
  exact ⟨⟨id, path, t, params, hmaterial ▸ hm, hload⟩,
    hdefined ⟨hx, hy, hlengths.x, hlengths.y⟩ Point.defined_middle hdepth,
    fun h => hempty (h.elim (fun h => Rect.isDegenerate_of_width (lengths_x h))
      fun h => Rect.isDegenerate_of_height (lengths_y h))⟩

/-- What there is for each member of a list, as a list. -/
theorem exists_forall₂ {α β : Type} {R : α → β → Prop} {l : List α} (h : ∀ a ∈ l, ∃ b, R a b) :
    ∃ l', List.Forall₂ R l l' := by
  induction l with
  | nil => exact ⟨[], .nil⟩
  | cons a l ih =>
    obtain ⟨⟨b, hb⟩, hrest⟩ := List.forall_mem_cons.mp h
    obtain ⟨l', hl'⟩ := ih hrest
    exact ⟨b :: l', .cons hb hl'⟩

namespace Element

variable {store : TextureStore σ} {warned : Prop} {e : Element Checked}
  {state : ElementState Checked}

theorem not_isStrip_single {kind : ElementKind} {state : ElementState K}
    (h : kind ∉ ElementKind.sheets) :
    ¬ (single kind state).IsStrip := by
  rintro (hkind | ⟨-, hfunction⟩)
  · exact h hkind
  · cases hfunction

theorem not_isStrip_moving {kind : ElementKind} {state : ElementState K} {m : Motion K}
    (h : kind ∉ ElementKind.sheets) :
    ¬ ((single kind state).moving m).IsStrip :=
  show ¬ (single kind state).IsStrip from not_isStrip_single h

theorem not_isStrip_selectedBy {kind : ElementKind} {state : ElementState K} {function : Expr K}
    (h : kind ∉ ElementKind.sheets) (h' : kind ≠ .speedometer) :
    ¬ ((single kind state).selectedBy function).IsStrip := by
  rintro (hkind | ⟨hkind, -⟩)
  · exact h hkind
  · exact h' hkind

theorem shows_image {id : TextureId} {t : σ} {path : Path} {params : TextureParams}
    {size : PixelSize} (hstrip : ¬ e.IsStrip) (hid : state.mesh.material.daytime? = some id)
    (hload : store.load? t path params = some (id, size)) : e.Shows store state size := by
  refine ⟨id, path, t, hid, ?_⟩
  rw [if_neg hstrip]
  exact ⟨params, hload⟩

theorem shows_frame {id : TextureId} {t : σ} {path : Path} {size : PixelSize}
    (hstrip : e.IsStrip) (hid : state.mesh.material.daytime? = some id)
    (hissues : store.Issues path id) (hsheet : store.imageSize? t path = some size) :
    e.Shows store state size := by
  refine ⟨id, path, t, hid, ?_⟩
  rw [if_pos hstrip]
  exact ⟨hissues, hsheet⟩

/-- An element that shows one image. -/
theorem laid_image {size : PixelSize} (hstates : e.states = [state]) (hstrip : ¬ e.IsStrip)
    (hloaded : ∃ id path t params, state.mesh.material.daytime? = some id ∧
      store.load? t path params = some (id, size))
    (hfits : ¬ e.DividesByNothing size →
      e.Defined ∧ (size.Empty → e.HasOwnMeasure size ∨ state.mesh.Flat ∧ warned)) :
    e.Laid store warned := by
  obtain ⟨id, path, t, params, hid, hload⟩ := hloaded
  refine .drawn [size] ?_ fun h => ?_
  · rw [hstates]
    exact .cons (shows_image hstrip hid hload) .nil
  · obtain ⟨hdefined, hempty⟩ := hfits (h size List.mem_cons_self)
    exact ⟨hdefined, hstates ▸ .cons hempty .nil⟩

/-- An element that shows images in their own sizes. -/
theorem laid_pictures (hstrip : ¬ e.IsStrip) (hdefined : e.Defined)
    (hstates : ∀ state ∈ e.states, ∃ size, state.Pictures store warned size) :
    e.Laid store warned := by
  obtain ⟨sizes, hsizes⟩ := exists_forall₂ hstates
  refine .drawn sizes (hsizes.imp fun state size hpicture => ?_) fun _ =>
    ⟨hdefined, hsizes.imp fun state size hpicture hempty => .inr (hpicture.empty hempty)⟩
  obtain ⟨id, path, t, params, hid, hload⟩ := hpicture.loaded
  exact shows_image hstrip hid hload

theorem laid_picture {size : PixelSize} (hstates : e.states = [state]) (hstrip : ¬ e.IsStrip)
    (hdefined : e.Defined) (hpicture : state.Pictures store warned size) :
    e.Laid store warned :=
  laid_pictures hstrip hdefined
    (hstates ▸ List.forall_mem_singleton.mpr ⟨size, hpicture⟩)

end Element

/-! ## Strips -/

/-- A frame of a sheet stands as a quad, and as one without area that is warned of if the sheet
has none, unless the section gives the width of its frames. -/
structure ElementState.Frames (store : TextureStore σ) (warned : Prop) (kind : ElementKind)
    (path : Path) (size : PixelSize) (state : ElementState Checked) : Prop where
  issued : ∃ id, state.mesh.material.daytime? = some id ∧ store.Issues path id
  defined : state.Defined
  empty : size.Empty →
    (kind = .digitalIndicator ∧ size.width = 0) ∨ state.mesh.Flat ∧ warned

theorem TextureStore.issues_of_load {store : TextureStore σ} {t : σ} {path : Path}
    {params : TextureParams} {id : TextureId} {size : PixelSize}
    (h : store.load? t path params = some (id, size)) : store.Issues path id := by
  obtain ⟨id', hid, h⟩ := Option.bind_eq_some_iff.mp h
  obtain ⟨_, -, h⟩ := Option.map_eq_some_iff.mp h
  cases h
  exact ⟨t, params, hid⟩

/-- A part of a sheet in a rectangle that has no area if the sheet has none. -/
theorem Build.frame_lays {env : BuildEnv Checked σ} {s : Section} {warned : Prop}
    {space : Space Checked} (hspace : space.Sound) {rect : Rect Checked} (hrect : rect.Defined)
    {depth : Checked} (hdepth : depth.Defined) {m : Material} {kind : ElementKind} {path : Path}
    {id : TextureId} {size : PixelSize} (hm : m.daytime? = some id)
    (hissues : env.store.Issues path id)
    (hempty : size.Empty →
      (kind = .digitalIndicator ∧ size.width = 0) ∨ rect.isDegenerate = true) :
    Lays env s warned (some <$> quadState s space rect (.both 0.5) depth m : Build Checked σ _)
      (OrFault True (·.Frames env.store warned kind path size)) := by
  refine (quadState_lays hspace rect _ depth m).map fun state ⟨hmaterial, hdefined, hflat⟩ => ?_
  exact ⟨⟨id, hmaterial ▸ hm, hissues⟩,
    hdefined hrect Point.defined_middle hdepth,
    fun h => (hempty h).imp_right hflat⟩

/-- An element that shows frames of one sheet. -/
theorem Element.laid_frames {store : TextureStore σ} {warned : Prop} {kind : ElementKind}
    {function : Expr Checked} {states : List (ElementState Checked)} {path : Path} {t : σ}
    {size : PixelSize}
    (hkind : kind ∈ ElementKind.sheets ∨ kind = .speedometer)
    (hfunction : function.Defined) (hsheet : store.imageSize? t path = some size)
    (hstates : ∀ state ∈ states, state.Frames store warned kind path size) :
    Element.Laid store warned ⟨kind, states, 0, some function, .still, false⟩ := by
  have hstrip : IsStrip (⟨kind, states, 0, some function, .still, false⟩ : Element Checked) :=
    hkind.imp_right fun h => ⟨h, rfl⟩
  refine .drawn (states.map fun _ => size) ?_ fun _ => ⟨⟨?_, ?_, trivial⟩, ?_⟩
  · refine List.forall₂_map_right_iff.mpr (List.forall₂_same.mpr fun state hstate => ?_)
    obtain ⟨id, hid, hissues⟩ := (hstates state hstate).issued
    exact shows_frame hstrip hid hissues hsheet
  · exact fun state hstate => (hstates state hstate).defined
  · exact fun f hf => Option.some.inj hf ▸ hfunction
  · refine List.forall₂_map_right_iff.mpr (List.forall₂_same.mpr fun state hstate hempty => ?_)
    exact ((hstates state hstate).empty hempty).imp_left .inr

theorem Build.strip_lays {env : BuildEnv Checked σ} {s : Section} {warned : Prop}
    {frame : Nat → Build Checked σ (Option (ElementState Checked))} {kind : ElementKind}
    {function : Expr Checked} {count : Nat} {path : Path} {t : σ} {size : PixelSize}
    (hsheet : env.store.imageSize? t path = some size)
    (hkind : kind ∈ ElementKind.sheets ∨ kind = .speedometer)
    (hfunction : function.Defined)
    (hframe : ∀ k, k < count → Lays env s warned (frame k)
      (OrFault True (·.Frames env.store warned kind path size))) :
    Lays env s warned
      (strip frame (fun state => (Element.single kind state).selectedBy function) count 0)
      (Step.Laid env.store warned) := by
  have hframe₀ : ∀ k, k < count → Lays env s warned (frame (0 + k))
      (OrFault True (·.Frames env.store warned kind path size)) :=
    fun k hk => (Nat.zero_add k).symm ▸ hframe k hk
  refine (strip_notices hframe₀).mono fun steps ⟨states, hsteps, hstates, _⟩ => ?_
  subst hsteps
  refine ⟨assembled_stripSteps .., ?_⟩
  rw [made_stripSteps]
  cases states with
  | nil => exact List.forall_mem_nil _
  | cons state rest =>
    exact List.forall_mem_singleton.mpr (Element.laid_frames hkind hfunction hsheet hstates)

end DriverDesk
