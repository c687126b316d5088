import Mathlib
import DriverDesk.Host.Memory
import DriverDesk.Proofs.Accounted
import DriverDesk.Proofs.Pivots

/-!
# Backgrounds of framed panels

A background stands on the bottom edge of the frame if the frame is fitted to it. But there is one
frame for all `[Panel]` sections, and it is fitted to the background of the last of them; if this
has none, to none at all. So every background stands from the same row on, and only those
that are as high as the last one stand on the edge.
-/

namespace DriverDesk

open Build Step

variable {K σ : Type}

/-! ## Whole images -/

/-- A texture of a whole image has the size that the image has at any time. -/
def TextureStore.KeepsSizes (store : TextureStore σ) : Prop :=
  ∀ t t' path params id size, params.clip? = none →
    store.load? t path params = some (id, size) → store.imageSize? t' path = some size

theorem Memory.keepsSizes_store (files : List MemoryFile) : (store files).KeepsSizes := by
  intro t t' path params id size hclip hload
  rw [load?_store, hclip] at hload
  obtain ⟨file, hfile, hload⟩ := Option.bind_eq_some_iff.mp hload
  obtain ⟨size', hsize, hload⟩ := Option.bind_eq_some_iff.mp hload
  have hkept : size' = size := by
    split at hload
    · exact congrArg Prod.snd (Option.some.inj hload)
    · cases hload
  exact Option.bind_eq_some_iff.mpr ⟨file, hfile, hkept ▸ hsize⟩

/-! ## Sections -/

variable [Arith K]

namespace Framed

/-- An image that stands in its own size at the left edge, from the row `top` on. -/
def picture (space : Space K) (top : K) (id : TextureId) (size : PixelSize) : ElementState K :=
  let rect : Rect K := ⟨0.0, top, Arith.ofInt size.width, Arith.ofInt size.height⟩
  let quad := space.quad rect (.both 0.5) 0.0
  ⟨quad.offset, .ofQuad quad (keyedMaterial id)⟩

namespace Background

/-- What a background adds in a state of the store: its image, if it has one that loads. -/
def element? (b : Background) (env : BuildEnv K σ) (t : σ) (space : Space K) (top : K) :
    Option (Element K) :=
  (b.path? env.read).bind fun path =>
    (env.store.load? t path keyedImage).map fun (id, size) =>
      .single .background (picture space top id size)

variable {env : BuildEnv K σ} {t : σ} {b : Background} {space : Space K} {top : K}

theorem element?_eq {path : Path} {id : TextureId} {size : PixelSize}
    (hpath : b.path? env.read = some path)
    (hload : env.store.load? t path keyedImage = some (id, size)) :
    b.element? env t space top = some (.single .background (picture space top id size)) := by
  rw [element?, hpath, Option.bind_some, hload]
  rfl

theorem build_yields (b : Background) (s : Section) (space : Space K) (frame : Frame K) :
    Yields env t (b.build s space frame)
      (· = (b.element? env t space frame.semiHeight).toList.map .element) := by
  unfold build element?
  refine Yields.read ?_
  rcases b.path? env.read with _ | path
  · exact .pure rfl
  refine (texture_yields s path keyedImage).bind fun found? t' hfound => ?_
  subst hfound
  dsimp only [Option.bind_some]
  rcases env.store.load? t path keyedImage with _ | ⟨id, size⟩
  · exact .pure rfl
  refine (quadState_gives_quad _ _ _ _ _).yields.bind fun state _ hstate => .pure ?_
  subst hstate
  rfl

/-- What is made of a background is an image that the store loads. -/
theorem loaded_of_made {e : Element K}
    (h : e ∈ made ((b.element? env t space top).toList.map .element)) :
    ∃ path id size, b.path? env.read = some path ∧
      env.store.load? t path keyedImage = some (id, size) ∧
      e = .single .background (picture space top id size) := by
  cases helement : b.element? env t space top with
  | none =>
    rw [helement] at h
    cases h
  | some e' =>
    rw [helement] at h
    cases List.mem_singleton.mp h
    obtain ⟨path, hpath, hmap⟩ := Option.bind_eq_some_iff.mp helement
    obtain ⟨⟨id, size⟩, hload, rfl⟩ := Option.map_eq_some_iff.mp hmap
    exact ⟨path, id, size, hpath, hload, rfl⟩

end Background

/-- What a section adds for a background: a `[Panel]` the one that its settings ask for, as the
store has it at the time, and any other section none. -/
structure AddsBackground (env : BuildEnv K σ) (space : Space K) (top : K) (s : Section)
    (steps : List (Step K)) : Prop where
  panel : s.isPanel = true → ∃ t, steps =
    (((s.read env.read).value : Background).element? env t space top).toList.map .element
  other : ¬ s.isPanel = true → ∀ e ∈ made steps, e.kind ≠ .background

theorem part_adds {env : BuildEnv K σ} {s : Section} {fault : Prop} (space : Space K)
    (frame : Frame K) :
    Leaves env s fault (part space frame s (heading env.read s))
      (AddsBackground env space frame.semiHeight s) := by
  by_cases hpanel : s.isPanel = true
  · rw [heading_of_isPanel hpanel]
    let background : Background := (s.read env.read).value
    have hleaves : Leaves env s fault (background.build s space frame)
        (Makes fault [background.piece env.read env.store]) := background.build_leaves space frame
    refine fun b => ⟨(hleaves b).1, fun _ => ⟨fun _ => ⟨b.textures, ?_⟩, absurd hpanel⟩⟩
    exact background.build_yields s space frame b rfl
  · rw [heading_of_not_isPanel hpanel]
    have hother {steps : List (Step K)} (h : ∀ e ∈ made steps, e.kind ≠ .background) :
        AddsBackground env space frame.semiHeight s steps := ⟨(absurd · hpanel), fun _ => h⟩
    cases isView s.lowerName with
    | true => exact .pure (hother nofun)
    | false =>
      refine (instrument_leaves space).mono fun steps hmakes => hother fun e he hkind => ?_
      obtain ⟨-, p, hp, hshape⟩ := hmakes.shaped e he
      exact kindOf?_ne_background _ (hkind ▸ kind_instrumentPieces p hp e hshape)

end Framed

/-! ## Compiles -/

/-- The element shows all of the image, as the store loads it, from the row `top` on: as many rows
as the image has. -/
def Element.CoversFrom (store : TextureStore σ) (space : Space K) (path : Path) (size : PixelSize)
    (top : K) (e : Element K) : Prop :=
  ∃ t id, store.load? t path Framed.keyedImage = some (id, size) ∧
    e.states = [Framed.picture space top id size]

namespace Compilation

section

variable (source : PanelSource) (options : Options K) (files : FileView) (store : TextureStore σ)
  (signal : Signal) (textures : σ)

/-- Every section that is built adds what it adds for a background, all in one frame. -/
theorem sections_add_backgrounds :
    let c := compileAs .framed source options files store signal textures
    let sections := (Sections.ofLines source.lines).sections
    let env := environment source options files store
    let frame := Framed.fittedFrame env textures sections
    ∃ built, built <+: sections ∧ (c.cancelled = false → built = sections) ∧
      List.Forall₂ (Framed.AddsBackground env (frame.space options.driver) frame.semiHeight)
        built c.batches := by
  intro c sections env frame
  have hplan := prepared_asks .framed source options files store textures
    (Framed.plan_asks_eq sections)
  refine sections_leave .framed source options files store signal textures
    (P := fun s _ => Framed.AddsBackground env (frame.space options.driver) frame.semiHeight s) ?_
  intro part hpart fault
  rw [hplan] at hpart
  obtain ⟨s, -, rfl⟩ := List.mem_map.mp hpart
  exact Framed.part_adds _ _

/-- A `[Panel]` whose image always loads adds its background to a compile that is not cancelled. -/
theorem background_added {s : Section} {path : Path} {size : PixelSize} :
    let c := compileAs .framed source options files store signal textures
    let sections := (Sections.ofLines source.lines).sections
    let path? := Framed.backgroundPath? (environment source options files store).read
    let size? := fun s => (path? s).bind (store.imageSize? textures)
    let space := (Frame.centered options.viewport options.driver).space options.driver
    c.cancelled = false → s ∈ sections → s.isPanel = true → path? s = some path →
      (∀ t, ∃ id, store.load? t path Framed.keyedImage = some (id, size)) →
      ∃ e ∈ c.added, e.kind = .background ∧ e.CoversFrom store space path size
        (Framed.topRow ((Framed.lastPanel? sections).bind size?)) := by
  intro c sections path? size? space hcomplete hs hpanel hpath hloads
  obtain ⟨built, -, hall, hadds⟩ :=
    sections_add_backgrounds source options files store signal textures
  rw [hall hcomplete] at hadds
  obtain ⟨steps, hsteps, hadd⟩ := exists_mem_of_forall₂ hadds.flip s hs
  obtain ⟨t, rfl⟩ := hadd.panel hpanel
  obtain ⟨id, hload⟩ := hloads t
  refine ⟨.single .background (Framed.picture space _ id size),
    List.mem_flatMap.mpr ⟨_, hsteps, ?_⟩, rfl, t, id, hload, rfl⟩
  rw [Framed.Background.element?_eq hpath hload]
  exact List.mem_singleton_self _

end

/-- Every background stands from the one row that the last `[Panel]` gives: its own height above
the bottom edge of the frame, or the row 240 if it has no image that can be measured. So the
background of the last `[Panel]` stands on the bottom edge. -/
theorem backgrounds_cover (source : PanelSource) (options : Options K) (files : FileView)
    (store : TextureStore σ) (signal : Signal) (textures : σ) (hstore : store.KeepsSizes) :
    let c := compileAs .framed source options files store signal textures
    let sections := (Sections.ofLines source.lines).sections
    let path? := Framed.backgroundPath? (environment source options files store).read
    let size? := fun s => (path? s).bind (store.imageSize? textures)
    let last? := Framed.lastPanel? sections
    let space := (Frame.centered options.viewport options.driver).space options.driver
    ∀ e ∈ c.added, e.kind = .background → ∃ s ∈ sections, s.isPanel = true ∧
      ∃ path size, path? s = some path ∧ size? s = some size ∧
        e.CoversFrom store space path size (Framed.topRow (last?.bind size?)) ∧
        (last? = some s →
          e.CoversFrom store space path size (Frame.pixelHeight - Arith.ofInt size.height)) := by
  intro c sections path? size? last? space e he hkind
  obtain ⟨steps, hsteps, hmade⟩ := List.mem_flatMap.mp he
  obtain ⟨built, hprefix, -, hadds⟩ :=
    sections_add_backgrounds source options files store signal textures
  obtain ⟨s, hs, hadd⟩ := exists_mem_of_forall₂ hadds steps hsteps
  have hpanel : s.isPanel = true := by_contra fun h => hadd.other h e hmade hkind
  obtain ⟨t, rfl⟩ := hadd.panel hpanel
  obtain ⟨path, id, size, hpath, hload, rfl⟩ := Framed.Background.loaded_of_made hmade
  have hsize : size? s = some size :=
    Option.bind_eq_some_iff.mpr ⟨path, hpath, hstore t textures path _ id size rfl hload⟩
  refine ⟨s, hprefix.subset hs, hpanel, path, size, hpath, hsize, ⟨t, id, hload, rfl⟩, ?_⟩
  intro hlast
  have hfitted : last?.bind size? = some size := by rw [hlast, Option.bind_some, hsize]
  exact ⟨t, id, hload, congrArg (fun fitted? => [Framed.picture space (Framed.topRow fitted?) id
    size]) hfitted⟩

/-- Two backgrounds, both of which stand where the lower one has its place. -/
theorem backgrounds_cover_of_two :
    let files : List MemoryFile :=
      [⟨⟨"Train/high.bmp"⟩, some ⟨480, 300⟩, none⟩, ⟨⟨"Train/low.bmp"⟩, some ⟨480, 180⟩, none⟩]
    let source := PanelSource.ofText ⟨"Train/panel.cfg"⟩ ⟨"Train"⟩
      "[Panel]\nBackground = high.bmp\n[Panel]\nBackground = low.bmp\n"
    let options := Options.standard (K := Float)
    let store := Memory.store files
    let c := compileAs .framed source options (Memory.view files ⟨"Stock"⟩) store .never []
    let space := (Frame.centered options.viewport options.driver).space options.driver
    store.KeepsSizes ∧ c.added.map (·.kind) = [.background, .background] ∧
      ∀ e ∈ c.added, e.kind = .background → ∃ path size,
        e.CoversFrom store space path size (Frame.pixelHeight - Arith.ofInt 180) := by
  intro files source options store c space
  have hstore := Memory.keepsSizes_store files
  refine ⟨hstore, by decide +kernel, fun e he hkind => ?_⟩
  obtain ⟨s, -, -, path, size, -, -, hcovers, -⟩ := backgrounds_cover source options
    (Memory.view files ⟨"Stock"⟩) store .never [] hstore e he hkind
  have hfitted : (Framed.lastPanel? (Sections.ofLines source.lines).sections).bind
      (fun s => (Framed.backgroundPath? (environment source options (Memory.view files ⟨"Stock"⟩)
        store).read s).bind (store.imageSize? [])) = some ⟨480, 180⟩ := by decide +kernel
  rw [hfitted] at hcovers
  exact ⟨path, size, hcovers⟩

end Compilation

/-! ## Rows -/

section

variable {store : TextureStore σ} {f : Frame ℝ} {driver : Vec ℝ} {path : Path} {size : PixelSize}
  {top top' : ℝ} {e : Element ℝ}

/-- Read exactly, the corners lie where the frame has the pixels of the image. -/
theorem Element.CoversFrom.pivots (h : e.CoversFrom store (f.space driver) path size top) :
    let rect : Rect ℝ := ⟨0.0, top, Arith.ofInt size.width, Arith.ofInt size.height⟩
    ∃ state, e.states = [state] ∧ (f.space driver).Pivots rect rect.center 0.0 state.offset
      (state.mesh.vertices.map (·.position)) := by
  intro rect
  obtain ⟨_, id, -, hstates⟩ := h
  exact ⟨_, hstates, (PanelSpace.framed f driver).linear_space.quad_middle rect 0.0⟩

/-- In a frame with a height, an element covers its image from one row only. -/
theorem Element.CoversFrom.unique (hheight : f.worldHeight ≠ 0)
    (h : e.CoversFrom store (f.space driver) path size top)
    (h' : e.CoversFrom store (f.space driver) path size top') : top = top' := by
  obtain ⟨state, hstates, hpivots⟩ := h.pivots
  obtain ⟨state', hstates', hpivots'⟩ := h'.pivots
  obtain rfl : state = state' := List.head_eq_of_cons_eq (hstates.symm.trans hstates')
  have hmiddle := congrArg Vec.y (hpivots.pivot.symm.trans hpivots'.pivot)
  simp only [Space.pixel, Frame.space, Frame.toWorld, Rect.center, Frame.pixelHeight] at hmiddle
  have hrow : f.worldHeight * top = f.worldHeight * top' := by linarith
  exact mul_left_cancel₀ hheight hrow

/-- A frame that is fitted to no background has the place for one of 200 rows. -/
theorem Framed.topRow_eq (fitted? : Option PixelSize) : (topRow fitted? : ℝ) =
    Frame.pixelHeight - Arith.ofInt (fitted?.elim 200 (·.height) : Nat) := by
  cases fitted? with
  | none =>
    have hrow : (240.0 : ℝ) = 440.0 - ((200 : ℕ) : ℤ) := by norm_num
    exact hrow
  | some size => rfl

/-- A background stands on the bottom edge of the frame if and only if it is as high as the one
that the frame is fitted to. -/
theorem Element.CoversFrom.edge_iff (hheight : f.worldHeight ≠ 0) {fitted? : Option PixelSize}
    (h : e.CoversFrom store (f.space driver) path size (Framed.topRow fitted?)) :
    e.CoversFrom store (f.space driver) path size
      (Frame.pixelHeight - Arith.ofInt size.height) ↔
      fitted?.elim 200 (·.height) = size.height := by
  rw [Framed.topRow_eq] at h
  refine ⟨fun hedge => ?_, fun hsame => hsame ▸ h⟩
  have hrow := sub_right_inj.mp (h.unique hheight hedge)
  exact Int.ofNat_inj.mp (Int.cast_injective hrow)

end

/-- The frame of the standard options has a height. -/
theorem Frame.worldHeight_standard_pos (driver : Vec ℝ) :
    0 < (centered (Viewport.standard : Viewport ℝ) driver).worldHeight := by
  have hhalf : (0.5 : ℝ) * Arith.radians 45.0 = Real.pi / 8 := by
    norm_num [Arith.radians, Arith.pi]
    ring
  have htan : 0 < Real.tan (0.5 * Arith.radians 45.0 : ℝ) := by
    rw [hhalf]
    exact Real.tan_pos_of_pos_of_lt_pi_div_two (by linarith [Real.pi_pos])
      (by linarith [Real.pi_pos])
  have haspect : (1.0 : ℝ) ≤ 16.0 / 9.0 := by norm_num
  have hatan (x : ℝ) : Arith.tan (Arith.atan x) = x := Real.tan_arctan x
  simp only [centered, Viewport.worldSize, Viewport.standard, Viewport.ofVerticalFov, haspect,
    if_true, hatan, eyeDistance, pixelWidth, pixelHeight]
  refine div_pos (mul_pos (mul_pos ?_ (mul_pos htan ?_)) ?_) ?_ <;> norm_num

/-- Behind a `[Panel]` with a background stands one without: the frame is fitted to none, and the
background reaches from the row 240 to a hundred rows below the bottom edge. -/
theorem Compilation.background_below_edge :
    let files : List MemoryFile := [⟨⟨"Train/cab.bmp"⟩, some ⟨480, 300⟩, none⟩]
    let source := PanelSource.ofText ⟨"Train/panel.cfg"⟩ ⟨"Train"⟩
      "[Panel]\nBackground = cab.bmp\n[Panel]\n"
    let options := Options.standard (K := ℝ)
    let store := Memory.store files
    let c := compileAs .framed source options (Memory.view files ⟨"Stock"⟩) store .never []
    let space := (Frame.centered options.viewport options.driver).space options.driver
    ∃ e ∈ c.added, e.kind = .background ∧
      e.CoversFrom store space ⟨"Train/cab.bmp"⟩ ⟨480, 300⟩ 240.0 ∧
      ¬ e.CoversFrom store space ⟨"Train/cab.bmp"⟩ ⟨480, 300⟩
        (Frame.pixelHeight - Arith.ofInt 300) := by
  intro files source options store c space
  let env := (environment source options (Memory.view files ⟨"Stock"⟩) store).read
  let panel : Section := ⟨"Panel", 1, 0, 2, [⟨"Background", "cab.bmp", 2⟩]⟩
  let bare : Section := ⟨"Panel", 3, 2, 3, []⟩
  have hsections : (Sections.ofLines source.lines).sections = [panel, bare] := by decide +kernel
  have hlast : Framed.lastPanel? [panel, bare] = some bare := by decide +kernel
  have hbare : Framed.backgroundPath? env bare = none := by decide +kernel
  have hpath : Framed.backgroundPath? env panel = some ⟨"Train/cab.bmp"⟩ := by decide +kernel
  have hload (t : List Registered) :
      store.load? t ⟨"Train/cab.bmp"⟩ Framed.keyedImage = some (t.length, ⟨480, 300⟩) := by
    rw [Memory.load?_store]
    rfl
  obtain ⟨e, he, hkind, hcovers⟩ := background_added source options (Memory.view files ⟨"Stock"⟩)
    store .never [] (cancelled_never ..) (hsections ▸ List.mem_cons_self) (by decide +kernel) hpath
    fun t => ⟨_, hload t⟩
  rw [hsections, hlast, Option.bind_some, hbare] at hcovers
  have hheight := Frame.worldHeight_standard_pos options.driver
  refine ⟨e, he, hkind, hcovers, fun hedge => ?_⟩
  exact absurd ((hcovers.edge_iff hheight.ne').mp hedge) (by decide)

end DriverDesk
