import DriverDesk.Host.Memory
import DriverDesk.Proofs.Commit
import DriverDesk.Proofs.SheetFrames
import DriverDesk.Proofs.Sheets
import DriverDesk.Proofs.Yields

/-!
# Sheets of indicators

The frames of an indicator may have any positive length. From one pixel on they are cut one behind
the other out of the sheet, so that an element has no more states than the sheet has pixels along
them. Shorter ones are accepted as well, and have no pixels.
-/

namespace DriverDesk

open Build

/-! ## States of strips -/

section

variable {K σ : Type} {store : TextureStore σ} {t : σ} {kind : ElementKind} {frames : Nat}
  {Asked Asked' : Nat → FrameRequest → Prop} {steps : List (Step K)} {rs : List Registration}

theorem Element.states_of_mem_ofFrames {function : Expr K} {states : List (ElementState K)}
    {e : Element K} (he : e ∈ Element.ofFrames kind function states) : e.states = states := by
  cases states with
  | nil => cases he
  | cons state states => rw [List.mem_singleton.mp he]

theorem MakesStrip.imp {Placed : List (ElementState K) → Prop}
    (h : MakesStrip store t kind frames Asked Placed steps rs)
    (hasked : ∀ k, k < frames → ∀ r, Asked k r → Asked' k r) :
    MakesStrip store t kind frames Asked' Placed steps rs := by
  obtain ⟨log, states, function, hrs, hreel, hrest⟩ := h
  exact ⟨log, states, function, hrs, hreel.imp hasked, hrest⟩

theorem MakesStrip.states_le {Placed : List (ElementState K) → Prop}
    (h : MakesStrip store t kind frames Asked Placed steps rs) :
    ∀ e ∈ Step.made steps, e.states.length ≤ frames := by
  obtain ⟨log, states, function, -, hreel, -, -, hmade⟩ := h
  intro e he
  rw [hmade] at he
  rw [Element.states_of_mem_ofFrames he]
  exact hreel.within

variable {functions : List (Expr K)}

theorem MakesStrips.imp (h : MakesStrips store t kind functions frames Asked steps rs)
    (hasked : ∀ k, k < frames → ∀ r, Asked k r → Asked' k r) :
    MakesStrips store t kind functions frames Asked' steps rs := by
  obtain ⟨logs, strips, hrs, hreels, hrest⟩ := h
  exact ⟨logs, strips, hrs, hreels.imp hasked, hrest⟩

theorem MakesStrips.states_le (h : MakesStrips store t kind functions frames Asked steps rs) :
    ∀ e ∈ Step.made steps, e.states.length ≤ frames := by
  obtain ⟨logs, strips, -, hreels, -, -, -, hmade⟩ := h
  intro e he
  rw [hmade, ← List.map_uncurry_zip_eq_zipWith] at he
  obtain ⟨_, helements, he⟩ := List.mem_flatten.mp he
  obtain ⟨⟨function, states⟩, hmem, rfl⟩ := List.mem_map.mp helements
  rw [Element.states_of_mem_ofFrames he]
  exact hreels.within states (List.of_mem_zip hmem).2

end

/-! ## Frames of any length -/

/-- A frame is asked for as a clip of an image, without a nighttime texture. -/
structure FrameRequest.Clips (path : Path) (clip : Clip) (r : FrameRequest) : Prop where
  path : r.day.path = path
  params : r.day.params = Framed.keyedImage.clipped clip
  night : r.night? = none

/-- What is made of a sheet of `length` pixels by frames of `interval`, where frame `k` takes
`extent k` pixels from `start k` on. -/
structure Sheet.Cut (length : ℕ) (interval : Float) (start extent : ℕ → ℕ)
    (elements : List (Element Float)) : Prop where
  slices : 1.0 ≤ interval →
    Slices length (frameCount (Arith.ofInt length) interval) start extent
  states : 1.0 ≤ interval → ∀ e ∈ elements, e.states.length ≤ length
  empty : interval < 1.0 → ∀ k, extent k = 0

theorem Sheet.cut {length : ℕ} {interval : Float} (hlength : length < 2 ^ 32)
    {elements : List (Element Float)}
    (hstates : ∀ e ∈ elements,
      e.states.length ≤ frameCount (Arith.ofInt length : Float) interval) :
    Cut length interval (fun k => pixels (Arith.ofInt k * interval)) (fun _ => pixels interval)
      elements where
  slices hone := slices_of_one_le hone hlength
  states hone e he := (hstates e he).trans (slices_of_one_le hone hlength).count_le
  empty hsmall _ := pixels_of_lt_one hsmall

namespace Framed

variable {σ : Type}

/-- The frames of a brake indicator, side by side in its sheet. -/
structure BrakeIndicator.Sliced (store : TextureStore σ) (t : σ) (d : BrakeIndicator Float)
    (path : Path) (size : PixelSize) (steps : List (Step Float)) (rs : List Registration) :
    Prop where
  strip : MakesStrip store t .brakeIndicator
    (Sheet.frameCount (Arith.ofInt size.width) d.width)
    (fun k => FrameRequest.Clips path (Sheet.horizontalClip d.width (Arith.ofInt size.height) k))
    ElementState.StandAlike steps rs
  cut : Sheet.Cut size.width d.width
    (fun k => (Sheet.horizontalClip d.width (Arith.ofInt size.height) k).left)
    (fun k => (Sheet.horizontalClip d.width (Arith.ofInt size.height) k).width) (Step.made steps)

/-- The frames of a digital indicator, one above the other in its sheet. -/
structure DigitalIndicator.Sliced (store : TextureStore σ) (t : σ) (d : DigitalIndicator Float)
    (path : Path) (size : PixelSize) (steps : List (Step Float)) (rs : List Registration) :
    Prop where
  strips : MakesStrips store t .digitalIndicator d.digitFunctions
    (if d.size.x ≤ 0.0 then 0 else Sheet.frameCount (Arith.ofInt size.height) d.size.y)
    (fun k => FrameRequest.Clips path (Sheet.verticalClip (Arith.ofInt size.width) d.size.y k))
    steps rs
  cut : Sheet.Cut size.height d.size.y
    (fun k => (Sheet.verticalClip (Arith.ofInt size.width) d.size.y k).top)
    (fun k => (Sheet.verticalClip (Arith.ofInt size.width) d.size.y k).height) (Step.made steps)

variable {env : BuildEnv Float σ} {t : σ} {path : Path} {size : PixelSize}

theorem BrakeIndicator.build_sliced (d : BrakeIndicator Float) (himage : d.image? = some path)
    (hsize : env.store.imageSize? t path = some size) (hwidth : size.width < 2 ^ 32)
    (s : Section) (space : Space Float) :
    Asks env t (d.build s space) (d.Sliced env.store t path size) := by
  have hframes : d.frames env.store t =
      Sheet.frameCount (Arith.ofInt size.width) d.width := by
    rw [frames, himage, TextureStore.frames_of_sheet (TextureStore.sheet?_eq hsize)]
    rfl
  refine (d.build_asks s space).mono fun steps rs hmakes => ?_
  rw [hframes] at hmakes
  refine ⟨hmakes.imp fun k _ r hr => ?_, Sheet.cut hwidth hmakes.states_le⟩
  obtain ⟨hnight, hcuts⟩ := hr
  rw [himage] at hcuts
  exact ⟨(Option.some.inj hcuts.image).symm, hcuts.params_eq hsize, hnight⟩

theorem DigitalIndicator.build_sliced (d : DigitalIndicator Float)
    (hnumber : d.number? = some path) (hsize : env.store.imageSize? t path = some size)
    (hheight : size.height < 2 ^ 32) (s : Section) (space : Space Float) :
    Asks env t (d.build s space) (d.Sliced env.store t path size) := by
  have hframes : d.frames env.store t =
      if d.size.x ≤ 0.0 then 0 else Sheet.frameCount (Arith.ofInt size.height) d.size.y := by
    rw [frames, hnumber, TextureStore.frames_of_sheet (TextureStore.sheet?_eq hsize)]
    rfl
  refine (d.build_asks s space).mono fun steps rs hmakes => ?_
  rw [hframes] at hmakes
  refine ⟨hmakes.imp fun k _ r hr => ?_, Sheet.cut hheight fun e he => ?_⟩
  · obtain ⟨hnight, hcuts⟩ := hr
    rw [hnumber] at hcuts
    exact ⟨(Option.some.inj hcuts.image).symm, hcuts.params_eq hsize, hnight⟩
  · refine (hmakes.states_le e he).trans ?_
    split
    · exact Nat.zero_le _
    · exact le_rfl

/-- What a section builds, if it is that of an indicator and the sheet it names can be measured. -/
structure SheetSliced (env : BuildEnv Float σ) (t : σ) (s : Section)
    (build : Build Float σ (List (Step Float))) : Prop where
  brake : s.lowerName ∈ ["brakeindicator", "ブレーキ表示灯"] → ∀ path size,
    ((s.read env.read).value : BrakeIndicator Float).image? = some path →
    env.store.imageSize? t path = some size → size.width < 2 ^ 32 →
    Asks env t build (BrakeIndicator.Sliced env.store t (s.read env.read).value path size)
  digits : s.lowerName ∈ ["digitalindicator", "デジタル速度計"] → ∀ path size,
    ((s.read env.read).value : DigitalIndicator Float).number? = some path →
    env.store.imageSize? t path = some size → size.height < 2 ^ 32 →
    Asks env t build (DigitalIndicator.Sliced env.store t (s.read env.read).value path size)

end Framed

/-- Frames of one pixel or more are sliced out of the sheet of an indicator. -/
theorem indicator_sheets_sliced {σ : Type} (env : BuildEnv Float σ) (t : σ)
    (space : Space Float) (s : Section) :
    Framed.SheetSliced env t s (Framed.instrument space s) := by
  constructor
  case brake =>
    intro hname path size himage hsize hwidth
    rw [Framed.instrument_brakeIndicator hname]
    refine (settings_asks _ s).bindQuiet fun d hd => ?_
    subst hd
    exact Framed.BrakeIndicator.build_sliced _ himage hsize hwidth s space
  case digits =>
    intro hname path size hnumber hsize hheight
    rw [Framed.instrument_digitalIndicator hname]
    refine (settings_asks _ s).bindQuiet fun d hd => ?_
    subst hd
    exact Framed.DigitalIndicator.build_sliced _ hnumber hsize hheight s space

/-- A sheet of seven columns is sliced into two frames of two and a half. -/
theorem indicator_sheet_of_seven_columns :
    let files : List MemoryFile := [⟨⟨"Train/image.png"⟩, some ⟨7, 16⟩, none⟩]
    let env : BuildEnv Float (List Registered) :=
      ⟨⟨"panel.cfg", ⟨"Train"⟩, Memory.view files ⟨"Stock"⟩⟩, Memory.store files, .standard⟩
    let s : Section := ⟨"BrakeIndicator", 1, 0, 3,
      [⟨"Image", "image.png", 2⟩, ⟨"Width", "2.5", 3⟩]⟩
    let space : Space Float := ⟨fun r => (⟨r.left, r.top⟩, ⟨r.left, r.top⟩), .zero⟩
    Asks env [] (Framed.instrument space s) (Framed.BrakeIndicator.Sliced env.store []
      (s.read env.read).value ⟨"Train/image.png"⟩ ⟨7, 16⟩) := by
  intro files env s space
  refine (indicator_sheets_sliced env [] space s).brake ?_ _ _ ?_ ?_ ?_
  all_goals decide +kernel

/-- A brake indicator whose frames are narrower than a pixel has more of them than its sheet has
columns, and none of them shows any. -/
theorem Compilation.frames_without_pixels :
    let files : List MemoryFile := [⟨⟨"Train/image.png"⟩, some ⟨2, 16⟩, none⟩]
    let text := "[BrakeIndicator]\nImage = image.png\nWidth = 0.4\n"
    let c := compileAs .framed (.ofText ⟨"Train/panel.cfg"⟩ ⟨"Train"⟩ text)
      (Options.standard (K := Float)) (Memory.view files ⟨"Stock"⟩) (Memory.store files) .never []
    c.added.map (·.states.length) = [5] ∧ c.bench.diagnostics = [] ∧
      c.bench.registrations.map (fun r => r.params.clip?.map fun clip => (clip.left, clip.width)) =
        [some (0, 0), some (0, 0), some (0, 0), some (1, 0), some (1, 0)] := by
  decide +kernel

end DriverDesk
