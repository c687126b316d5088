import DriverDesk.Calibrated.DigitalNumber
import DriverDesk.Framed.BrakeIndicator
import DriverDesk.Framed.DigitalIndicator
import DriverDesk.Framed.Speedometer
import DriverDesk.Proofs.Strips

/-!
# Instruments with sheets

Numbers, indicators and signal lamps cut the frames of a strip out of one image: how many
there are follows from its size, and frame `k` is the clip that begins `k` frames into it.
-/

namespace DriverDesk

open Build

variable {K σ : Type} [Arith K]

/-! ## The frames of a sheet -/

/-- The size of an image that a section may name. -/
def TextureStore.sheet? (store : TextureStore σ) (t : σ) (image? : Option Path) :
    Option (Point K) :=
  (image?.bind (store.imageSize? t)).map lengths

/-- The number of frames of an image that a section may name. -/
def TextureStore.frames (store : TextureStore σ) (t : σ) (image? : Option Path)
    (count : Point K → Nat) : Nat := ((store.sheet? (K := K) t image?).map count).getD 0

/-- A frame is asked for as the clip of an image, by the size of that. -/
structure FrameRequest.Cuts (store : TextureStore σ) (t : σ) (image? : Option Path) (key : Rgb)
    (clip : Point K → Clip) (r : FrameRequest) : Prop where
  image : image? = some r.day.path
  params : ∃ sheet : Point K, store.sheet? t image? = some sheet ∧
    r.day.params = ⟨some key, some (clip sheet), .clampToEdge, .clampToEdge⟩

theorem TextureStore.frames_of_sheet {store : TextureStore σ} {t : σ} {image? : Option Path}
    {sheet : Point K} (h : store.sheet? t image? = some sheet) (count : Point K → Nat) :
    store.frames t image? count = count sheet := by
  rw [frames, h]; rfl

theorem TextureStore.sheet?_eq {store : TextureStore σ} {t : σ} {path : Path} {size : PixelSize}
    (hsize : store.imageSize? t path = some size) :
    store.sheet? t (some path) = some (lengths size : Point K) := by
  rw [sheet?, Option.bind_some, hsize]; rfl

/-- A frame is asked for as a clip by the size that the store says. -/
theorem FrameRequest.Cuts.params_eq {store : TextureStore σ} {t : σ} {path : Path} {key : Rgb}
    {clip : Point K → Clip} {r : FrameRequest} {size : PixelSize}
    (h : r.Cuts store t (some path) key clip) (hsize : store.imageSize? t path = some size) :
    r.day.params = ⟨some key, some (clip (lengths size)), .clampToEdge, .clampToEdge⟩ := by
  obtain ⟨sheet, hsheet, hparams⟩ := h.params
  obtain rfl : lengths size = sheet :=
    Option.some.inj ((store.sheet?_eq hsize).symm.trans hsheet)
  exact hparams

theorem TextureStore.frames_of_none {store : TextureStore σ} {t : σ} {image? : Option Path}
    (h : store.sheet? (K := K) t image? = none) (count : Point K → Nat) :
    store.frames t image? count = 0 := by
  rw [frames, h]; rfl

theorem TextureStore.frames_eq_zero {store : TextureStore σ} {t : σ} {image? : Option Path}
    {count : Point K → Nat} (h : ∀ sheet, count sheet = 0) : store.frames t image? count = 0 := by
  unfold frames
  cases store.sheet? (K := K) t image? with
  | none => rfl
  | some sheet => exact h sheet

/-- A frame with a daytime texture only. -/
theorem keyedFrame_asks {env : BuildEnv K σ} {t : σ} (s : Section) (space : Space K) (path : Path)
    (params : TextureParams) (rect : Rect K) (depth : K) :
    Asks env t (do
      let some (texture, _) ← texture s path params | pure none
      some <$> quadState s space rect (.both 0.5) depth (Framed.keyedMaterial texture))
      (FrameRequest.Gives env.store t
        (fun r => r.day.path = path ∧ r.day.params = params ∧ r.night? = none)
        (ElementState.Stands (space.quad rect (.both 0.5) depth))) := by
  refine Asks.bindTexture (fun r hpath hparams hloads => ?_)
    fun r id size hpath hparams hid hloads => ?_
  · exact .pure ⟨⟨r, none⟩, rfl, ⟨hpath, hparams, rfl⟩, hloads, rfl⟩
  · refine (quadState_asks s space rect _ depth _).map fun state rs h => ?_
    obtain ⟨rfl, rfl⟩ := h
    exact ⟨⟨r, none⟩, rfl, ⟨hpath, hparams, rfl⟩, hloads, ⟨hid.symm, nofun⟩, rfl, rfl⟩

namespace Calibrated.DigitalNumber

variable {env : BuildEnv K σ} {t : σ}

/-- The number of frames in an image of a number. -/
def framesIn (store : TextureStore σ) (t : σ) (d : DigitalNumber K) (image? : Option Path) : Nat :=
  store.frames t image? fun sheet : Point K => Sheet.frameCount sheet.y d.interval

theorem nightFrames_asks (d : DigitalNumber K) (s : Section) :
    Asks env t (d.nightFrames s : Build K σ Nat)
      (Quietly (· = framesIn env.store t d d.nighttime?)) := by
  unfold nightFrames framesIn TextureStore.frames TextureStore.sheet?
  cases d.nighttime? with
  | none => exact .pure ⟨rfl, rfl⟩
  | some night =>
    refine (imageSize_asks s night).bindQuiet fun size? hsize => ?_
    subst hsize
    cases hsize : env.store.imageSize? t night with
    | none => exact .pure ⟨rfl, by simp [hsize]⟩
    | some size => exact .pure ⟨rfl, by simp [hsize]⟩

/-- Where every frame of a number stands. -/
def quad (d : DigitalNumber K) (space : Space K) (sheet : Point K) : Quad K :=
  space.quad ⟨d.location.x, d.location.y, sheet.x, d.interval⟩ (.both 0.5) (depthOf d.layer)

/-- The requests for frame `index` of a number. -/
structure AskedFor (d : DigitalNumber K) (day : Path) (sheet : Point K) (nightFrames index : Nat)
    (r : FrameRequest) : Prop where
  path : r.day.path = day
  params : r.day.params =
    (TextureParams.keyed d.key).clipped (Sheet.verticalClip sheet.x d.interval index)
  night : ∀ n, r.night? = some n →
    index < nightFrames ∧ d.nighttime? = some n.path ∧ n.params = r.day.params

/-- A nighttime texture is asked for if the daytime one is loaded, and the nighttime image has the
frame. -/
def LitAt (store : TextureStore σ) (d : DigitalNumber K) (nightFrames index : Nat) (t : σ)
    (r : FrameRequest) : Prop :=
  r.night?.isSome = true ↔
    store.Loads t r.day ∧ index < nightFrames ∧ d.nighttime?.isSome = true

theorem frame_asks (d : DigitalNumber K) (s : Section) (space : Space K) (day : Path)
    (sheet : Point K) (nightFrames index : Nat) :
    Asks env t (d.frame s space day sheet nightFrames index)
      (FrameRequest.Gives env.store t
        (fun r => d.AskedFor day sheet nightFrames index r ∧
          d.LitAt env.store nightFrames index t r)
        (ElementState.Stands (d.quad space sheet))) := by
  refine Asks.bindTexture (fun r hpath hparams hloads => ?_)
    fun r id size hpath hparams hid hloads => ?_
  · have hlit : d.LitAt env.store nightFrames index t ⟨r, none⟩ :=
      iff_of_false Bool.false_ne_true fun h => hloads h.1
    exact .pure ⟨⟨r, none⟩, rfl, ⟨⟨hpath, hparams, nofun⟩, hlit⟩, hloads, rfl⟩
  have posed (night? : Option TextureId) (n? : Option Registration) {t' : σ}
      (hasked : d.AskedFor day sheet nightFrames index ⟨r, n?⟩)
      (hlit : n?.isSome = true ↔ index < nightFrames ∧ d.nighttime?.isSome = true)
      (hnight : ∀ id, night? = some id → ∃ n, n? = some n ∧ n.id? = some id) :
      Asks env t' (some <$> quadState s space
        ⟨d.location.x, d.location.y, sheet.x, d.interval⟩ (.both 0.5) (depthOf d.layer)
        ((Material.plain (some id) night? Rgba.white).keyed d.key) : Build K σ _)
        fun state? rs => FrameRequest.Gives env.store t
          (fun r => d.AskedFor day sheet nightFrames index r ∧
            d.LitAt env.store nightFrames index t r)
          (ElementState.Stands (d.quad space sheet)) state? (r :: (n?.toList ++ rs)) := by
    refine (quadState_asks s space _ _ _ _).map fun state rs h => ?_
    obtain ⟨rfl, rfl⟩ := h
    rw [List.append_nil]
    exact ⟨⟨r, n?⟩, rfl, ⟨hasked, hlit.trans (and_iff_right hloads).symm⟩, hloads,
      ⟨hid.symm, hnight⟩, rfl, rfl⟩
  refine .ite (fun hlt => ?_) fun hge => posed none none ⟨hpath, hparams, nofun⟩ ?_ nofun
  · refine (optionalTexture_asks s d.nighttime? _).bind fun night? rs h => ?_
    obtain ⟨n?, rfl, hsome?, hasked, hsome, -⟩ := h
    refine posed night? n? ⟨hpath, hparams, fun n hn => ?_⟩ ?_ fun id hid => ?_
    · exact ⟨hlt, (hasked n hn).1, (hasked n hn).2.trans hparams.symm⟩
    · rw [hsome?]
      exact (and_iff_right hlt).symm
    · obtain ⟨n, hn, hid', -⟩ := hsome id hid
      exact ⟨n, hn, hid'⟩
  · exact iff_of_false Bool.false_ne_true fun h => hge h.1

/-- Frame `k` of a number is asked for in the daytime image, and in the nighttime image
only if that has such a frame too. -/
structure Asked (store : TextureStore σ) (t : σ) (d : DigitalNumber K) (k : Nat)
    (r : FrameRequest) : Prop where
  day : r.Cuts store t d.daytime? d.key fun sheet : Point K =>
    ⟨0, Sheet.pixels (Arith.ofInt k * d.interval), Sheet.pixels sheet.x, Sheet.pixels d.interval⟩
  night : ∀ n, r.night? = some n →
    d.nighttime? = some n.path ∧ n.params = r.day.params ∧ k < framesIn store t d d.nighttime?

theorem build_asks_along (d : DigitalNumber K) (s : Section) (space : Space K) :
    Asks env t (d.build s space) (MakesStripAlong env.store t .digitalNumber
      (framesIn env.store t d d.daytime?) (Asked env.store t d)
      (d.LitAt env.store (framesIn env.store t d d.nighttime?)) ElementState.StandAlike) := by
  have nothing {frames : Nat} {Asked At} (h : frames = 0) :
      MakesStripAlong env.store t .digitalNumber frames Asked At (ElementState.StandAlike (K := K))
        [] [] :=
    .none h nofun
  unfold build framesIn
  cases hday : d.daytime? with
  | none => exact giveUp_asks s _ (nothing rfl)
  | some day =>
    refine .ite (fun hinterval => giveUp_asks s _ (nothing ?_)) fun _ => ?_
    · exact TextureStore.frames_eq_zero fun sheet => if_pos hinterval
    refine (imageSize_asks s day).bindQuiet
      fun sheet? (hsheet : sheet? = env.store.sheet? t (some day)) => ?_
    cases sheet? with
    | none => exact .pure (nothing (TextureStore.frames_of_none hsheet.symm _))
    | some sheet =>
      rw [TextureStore.frames_of_sheet hsheet.symm]
      refine .ite (fun hframes => giveUp_asks s _ (nothing hframes)) fun _ => ?_
      refine (d.nightFrames_asks s).bindQuiet fun nightFrames hnight => ?_
      subst hnight
      refine (subject_asks s _ _).bindQuiet fun subject _ => ?_
      refine strip_makes_along _ (fun k _ t' => ?_)
        (ElementState.standAlike_of_stands (d.quad space sheet))
      refine (d.frame_asks s space day sheet _ k).mono
        (FrameRequest.Gives.imp (fun r hr => ⟨?_, hr.2⟩) fun _ => id)
      obtain ⟨hasked, -⟩ := hr
      rw [← hday] at hsheet
      refine ⟨⟨by rw [hday, hasked.path], sheet, hsheet.symm, hasked.params⟩, fun n hn => ?_⟩
      obtain ⟨hlt, hpath, hparams⟩ := hasked.night n hn
      exact ⟨hpath, hparams, hlt⟩

theorem build_asks (d : DigitalNumber K) (s : Section) (space : Space K) :
    Asks env t (d.build s space) (MakesStrip env.store t .digitalNumber
      (framesIn env.store t d d.daytime?) (Asked env.store t d) ElementState.StandAlike) :=
  (d.build_asks_along s space).mono fun _ _ => MakesStripAlong.makesStrip

end Calibrated.DigitalNumber

namespace Framed.BrakeIndicator

variable {env : BuildEnv K σ} {t : σ}

/-- The number of frames in the image of an indicator. -/
def frames (store : TextureStore σ) (t : σ) (b : BrakeIndicator K) : Nat :=
  store.frames t b.image? fun sheet : Point K => Sheet.frameCount sheet.x b.width

/-- Frame `k` of an indicator is asked for in its image. -/
def Asked (store : TextureStore σ) (t : σ) (b : BrakeIndicator K) (k : Nat) (r : FrameRequest) :
    Prop :=
  r.night? = none ∧ r.Cuts store t b.image? Rgb.blue fun sheet : Point K =>
    ⟨Sheet.pixels (Arith.ofInt k * b.width), 0, Sheet.pixels b.width, Sheet.pixels sheet.y⟩

theorem build_asks (b : BrakeIndicator K) (s : Section) (space : Space K) :
    Asks env t (b.build s space) (MakesStrip env.store t .brakeIndicator
      (frames env.store t b) (Asked env.store t b) ElementState.StandAlike) := by
  have nothing {frames : Nat} {Asked} (h : frames = 0) :
      MakesStrip env.store t .brakeIndicator frames Asked (ElementState.StandAlike (K := K))
        [] [] :=
    .none h nofun
  unfold build frames Asked
  cases himage : b.image? with
  | none => exact giveUp_asks s _ (nothing rfl)
  | some path =>
    refine .ite (fun hwidth => giveUp_asks s _ (nothing ?_)) fun _ => ?_
    · exact TextureStore.frames_eq_zero fun sheet => if_pos hwidth
    refine (imageSize_asks s path).bindQuiet
      fun sheet? (hsheet : sheet? = env.store.sheet? t (some path)) => ?_
    cases sheet? with
    | none => exact .pure (nothing (TextureStore.frames_of_none hsheet.symm _))
    | some sheet =>
      rw [TextureStore.frames_of_sheet hsheet.symm]
      refine .ite (fun hframes => giveUp_asks s _ (nothing hframes)) fun _ => ?_
      refine Asks.read.bindQuiet fun env' _ => ?_
      refine strip_makes _ (fun k _ t' => ?_) (ElementState.standAlike_of_stands
        (space.quad ⟨b.corner.x, b.corner.y, b.width, sheet.y⟩ (.both 0.5) (depthOf 2)))
      refine (keyedFrame_asks s space path _ _ _).mono
        (FrameRequest.Gives.imp (fun r hr => ?_) fun _ => id)
      obtain ⟨hpath, hparams, hnight⟩ := hr
      exact ⟨hnight, congrArg some hpath.symm, sheet, hsheet.symm, hparams⟩

end Framed.BrakeIndicator

namespace Framed.DigitalIndicator

variable {env : BuildEnv K σ} {t : σ}

/-- The requests for frame `index` of a digit. -/
def AskedFor (d : DigitalIndicator K) (path : Path) (sheetWidth : K) (index : Nat)
    (r : FrameRequest) : Prop :=
  r.day.path = path ∧
    r.day.params = keyedImage.clipped (Sheet.verticalClip sheetWidth d.size.y index) ∧
    r.night? = none

/-- Where every frame of a digit stands. -/
def quad (d : DigitalIndicator K) (space : Space K) (digit : Nat) : Quad K :=
  space.quad ⟨d.corner.x + Arith.ofInt digit * d.size.x, d.corner.y, d.size.x, d.size.y⟩
    (.both 0.5) (depthOf 7)

theorem frame_asks (d : DigitalIndicator K) (s : Section) (space : Space K) (path : Path)
    (sheetWidth : K) (digit index : Nat) :
    Asks env t (d.frame s space path sheetWidth digit index)
      (FrameRequest.Gives env.store t (d.AskedFor path sheetWidth index)
        (ElementState.Stands (d.quad space digit))) :=
  keyedFrame_asks s space path _ _ _

/-- The digits from some on make one element each, if its first frame can be had. -/
theorem strips_asks (d : DigitalIndicator K) (s : Section) (space : Space K) (path : Path)
    (sheetWidth : K) (frames digit : Nat) (functions : List (Expr K))
    {Asked : Nat → FrameRequest → Prop}
    (hasked : ∀ k r, d.AskedFor path sheetWidth k r → Asked k r) :
    Asks env t (d.strips s space path sheetWidth frames digit functions)
      (MakesStrips env.store t .digitalIndicator functions frames Asked) := by
  induction functions generalizing t digit with
  | nil => exact .pure ⟨[], [], rfl, .nil, rfl, nofun, .nil, rfl⟩
  | cons function functions ih =>
    have hframe : ∀ k, k < frames → ∀ t', Asks env t'
        (d.frame s space path sheetWidth digit (0 + k)) (FrameRequest.Gives env.store t'
          (Asked k) (ElementState.Stands (d.quad space digit))) := by
      intro k _ t'
      rw [Nat.zero_add]
      exact (d.frame_asks s space path sheetWidth digit k).mono
        (FrameRequest.Gives.imp (hasked k) fun _ => id)
    refine (strip_asks hframe).bind fun first rs h => ?_
    obtain ⟨log, states, rfl, hreel, hposed, rfl⟩ := h
    refine (ih (digit + 1)).bind fun rest rs h => .pure ?_
    obtain ⟨logs, strips, rfl, hreels, hlength, halike, hassembled, hmade⟩ := h
    refine ⟨log :: logs, states :: strips, by simp, .cons hreel hreels, ?_, ?_, ?_, ?_⟩
    · rw [List.length_cons, List.length_cons, hlength]
    · exact List.forall_mem_cons.mpr ⟨ElementState.standAlike_of_stands _ states hposed, halike⟩
    · exact (assembled_stripSteps _ states).append hassembled
    · rw [hassembled.made_append, hmade, made_stripSteps]; rfl

/-- The number of frames in the image of an indicator. -/
def frames (store : TextureStore σ) (t : σ) (d : DigitalIndicator K) : Nat :=
  if d.size.x ≤ 0.0 then 0
  else store.frames t d.number? fun sheet : Point K => Sheet.frameCount sheet.y d.size.y

/-- Frame `k` of a digit is asked for in the image of the indicator. -/
def Asked (store : TextureStore σ) (t : σ) (d : DigitalIndicator K) (k : Nat) (r : FrameRequest) :
    Prop :=
  r.night? = none ∧ r.Cuts store t d.number? Rgb.blue fun sheet : Point K =>
    ⟨0, Sheet.pixels (Arith.ofInt k * d.size.y), Sheet.pixels sheet.x, Sheet.pixels d.size.y⟩

theorem build_asks (d : DigitalIndicator K) (s : Section) (space : Space K) :
    Asks env t (d.build s space) (MakesStrips env.store t .digitalIndicator d.digitFunctions
      (frames env.store t d) (Asked env.store t d)) := by
  unfold build frames Asked
  cases hnumber : d.number? with
  | none => exact giveUp_asks s _ (.none (by split <;> rfl))
  | some path =>
    refine .ite (fun hsize => giveUp_asks s _ (.none ?_)) fun hsize => ?_
    · rw [Bool.or_eq_true, decide_eq_true_eq, decide_eq_true_eq] at hsize
      split
      · rfl
      · exact TextureStore.frames_eq_zero fun sheet => if_pos (hsize.resolve_left ‹_›)
    rw [Bool.or_eq_true, decide_eq_true_eq, decide_eq_true_eq, not_or] at hsize
    rw [if_neg hsize.1]
    refine (imageSize_asks s path).bindQuiet
      fun sheet? (hsheet : sheet? = env.store.sheet? t (some path)) => ?_
    cases sheet? with
    | none => exact .pure (.none (TextureStore.frames_of_none hsheet.symm _))
    | some sheet =>
      rw [TextureStore.frames_of_sheet hsheet.symm]
      refine .ite (fun hframes => giveUp_asks s _ (.none hframes)) fun _ => ?_
      refine d.strips_asks s space path sheet.x _ 0 d.digitFunctions fun k r hr => ?_
      obtain ⟨hpath, hparams, hnight⟩ := hr
      exact ⟨hnight, congrArg some hpath.symm, sheet, hsheet.symm, hparams⟩

end Framed.DigitalIndicator

namespace Framed.Speedometer

variable {env : BuildEnv K σ} {t : σ}

/-- The number of signal lamps. -/
def signalFrames (store : TextureStore σ) (t : σ) (m : Speedometer K) : Nat :=
  store.frames t m.signals? fun sheet : Point K =>
    min (Sheet.frameCount sheet.x sheet.y) (signalSpeeds (K := K)).length

/-- The signal lamp `k` is asked for in the image of the lamps. -/
def AskedSignal (store : TextureStore σ) (t : σ) (m : Speedometer K) (k : Nat)
    (r : FrameRequest) : Prop :=
  r.night? = none ∧ r.Cuts store t m.signals? Rgb.blue fun sheet : Point K =>
    ⟨Sheet.pixels (Arith.ofInt k * sheet.y), 0, Sheet.pixels sheet.y, Sheet.pixels sheet.y⟩

theorem signals_asks (m : Speedometer K) (s : Section) (space : Space K) :
    Asks env t (m.signals s space) (MakesStrip env.store t .speedometer
      (signalFrames env.store t m) (AskedSignal env.store t m) fun _ => True) := by
  unfold signals signalFrames AskedSignal
  cases himage : m.signals? with
  | none => exact .pure (.none rfl trivial)
  | some path =>
    refine (imageSize_asks s path).bindQuiet
      fun sheet? (hsheet : sheet? = env.store.sheet? t (some path)) => ?_
    cases sheet? with
    | none => exact .pure (.none (TextureStore.frames_of_none hsheet.symm _) trivial)
    | some sheet =>
      rw [TextureStore.frames_of_sheet hsheet.symm]
      refine strip_makes (fun _ => True) (fun k hk t' => ?_) fun _ _ => trivial
      have hspeed : k < (signalSpeeds (K := K)).length := by omega
      unfold signalFrame
      rw [List.getElem?_eq_getElem hspeed]
      refine (keyedFrame_asks s space path _ _ _).mono
        (FrameRequest.Gives.imp (fun r hr => ?_) fun _ _ => trivial)
      obtain ⟨hpath, hparams, hnight⟩ := hr
      exact ⟨hnight, congrArg some hpath.symm, sheet, hsheet.symm, hparams⟩

end Framed.Speedometer

/-- Every instrument whose frames stand in a sheet makes an element of as many states as
frames are loaded one after the other from the first on, and asks for nothing behind the
first that is not. The state of a number shows the frame of that number, as it was
registered, and all states stand in one place, those of signal lamps apart. A digital
indicator has one such strip for each of its digits. -/
theorem sheets_show_frames (env : BuildEnv K σ) (t : σ) (s : Section) (space : Space K) :
    (∀ d : Calibrated.DigitalNumber K, Asks env t (d.build s space)
      (MakesStrip env.store t .digitalNumber (d.framesIn env.store t d.daytime?)
        (d.Asked env.store t) ElementState.StandAlike)) ∧
    (∀ b : Framed.BrakeIndicator K, Asks env t (b.build s space)
      (MakesStrip env.store t .brakeIndicator (b.frames env.store t) (b.Asked env.store t)
        ElementState.StandAlike)) ∧
    (∀ d : Framed.DigitalIndicator K, Asks env t (d.build s space)
      (MakesStrips env.store t .digitalIndicator d.digitFunctions (d.frames env.store t)
        (d.Asked env.store t))) ∧
    ∀ m : Framed.Speedometer K, Asks env t (m.signals s space)
      (MakesStrip env.store t .speedometer (m.signalFrames env.store t)
        (m.AskedSignal env.store t) fun _ => True) :=
  ⟨fun d => d.build_asks s space, fun b => b.build_asks s space, fun d => d.build_asks s space,
    fun m => m.signals_asks s space⟩

end DriverDesk
