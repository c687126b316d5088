import Mathlib
import DriverDesk.Host.Memory
import DriverDesk.Proofs.Findings
import DriverDesk.Proofs.LastRecords
import DriverDesk.Proofs.SheetFrames
import DriverDesk.Proofs.Sheets
import DriverDesk.Proofs.Yields

/-!
# Sheets of numbers

The interval of a number is a whole count of pixel rows, so its sheet is cut into bands without a
gap: as many as fit, each with all its rows. A nighttime sheet is cut alike.
-/

namespace DriverDesk

open Build Argument

/-! ## Intervals -/

/-- The rows of a frame that a record sets, if it has the key and a positive value. -/
def Record.interval? : Record → Option ℕ :=
  Record.given? "interval" fun text =>
    ((usable? Numeral.lenientInt? text).filter (0 < ·)).map Int.toNat

/-- The rows of a frame are those of the last record that sets them. -/
def Section.interval? (s : Section) : Option ℕ := (s.records.filterMap Record.interval?).getLast?

theorem Record.interval?_bounds {r : Record} {i : ℕ} (h : r.interval? = some i) :
    0 < i ∧ i < 2 ^ 31 := by
  unfold interval? given? at h
  split at h
  · obtain ⟨n, hn, rfl⟩ := Option.map_eq_some_iff.mp h
    obtain ⟨hread, hpos⟩ := Option.filter_eq_some_iff.mp hn
    have hpos : 0 < n := of_decide_eq_true hpos
    have hbound : n ≤ 2147483647 := le_of_whole? hread
    omega
  · cases h

theorem Section.interval?_bounds {s : Section} {i : ℕ} (h : s.interval? = some i) :
    0 < i ∧ i < 2 ^ 31 := by
  obtain ⟨r, -, hr⟩ := List.mem_filterMap.mp (List.mem_of_getLast? h)
  exact Record.interval?_bounds hr

namespace Calibrated.DigitalNumber

variable {K σ : Type} [Arith K]

/-- How a record is read to an interval. -/
def readInterval (c : RecordAt) : Noted (Option Int) := do
  match ← c.integer "Height" c.value with
  | none => pure none
  | some i => if 0 < i then pure (some i) else c.refuse "Height is expected to be positive"

theorem value_readInterval (c : RecordAt) :
    (readInterval c).value = (usable? Numeral.lenientInt? c.value).filter (0 < ·) := by
  rw [readInterval, Noted.value_bind, RecordAt.integer, c.value_readOr]
  rcases usable? Numeral.lenientInt? c.value with _ | i
  · rfl
  · dsimp only [Option.filter]
    by_cases hpos : 0 < i
    · simp [hpos]
    · simp only [hpos, decide_false, if_false, Bool.false_eq_true]
      rfl

theorem interval_owned : Readable.Owned ["interval"] (Field.saysOf Arith.ofInt readInterval)
    (interval : DigitalNumber K → K) := by
  have hinterval {put : Int → DigitalNumber K → DigitalNumber K}
      (hput : ∀ i d, (put i d).interval = Arith.ofInt i) :
      (Field.keeping ["interval"] readInterval put).Owned ["interval"]
        (Field.saysOf Arith.ofInt readInterval) interval :=
    Field.keeping_owned_of hput
  refine ⟨?_, by simp [Readable.fields, fields, Field.subject]⟩
  simp only [Readable.fields, fields, List.forall_mem_cons]
  refine ⟨?_, ?_, ?_, ?_, ?_, hinterval fun _ _ => rfl, ?_, List.forall_mem_nil _⟩ <;>
    simp [Field.subject, Field.pair, Field.image, Field.key, Field.layer]

/-- What a section of a number is read to has the interval of the section. -/
theorem interval_read (env : ReadEnv) (s : Section) :
    ((s.read env).value : DigitalNumber K).interval =
      s.interval?.elim 0.0 fun (i : ℕ) => Arith.ofInt i := by
  have hsaid : Record.said? env s.name ["interval"] (Field.saysOf Arith.ofInt readInterval) =
      fun r => r.interval?.map fun (i : ℕ) => (Arith.ofInt i : K) := by
    funext r
    unfold Record.said? Record.interval? Record.given?
    simp only [List.mem_singleton]
    split
    · rw [Field.saysOf, value_readInterval, Option.map_map]
      refine Option.map_congr fun n hn => ?_
      have hpos : 0 < n := of_decide_eq_true (Option.filter_eq_some_iff.mp hn).2
      rw [Function.comp_apply, Int.toNat_of_nonneg hpos.le]
    · rfl
  have hread := (part_readRecords interval_owned.1 interval_owned.2 env s.name s.records
    (Readable.initial : DigitalNumber K)).1
  rw [hsaid, latest, ← List.map_filterMap] at hread
  refine hread.trans ?_
  rw [Section.interval?, List.getLastD_eq_getLast?, List.getLast?_map]
  cases (s.records.filterMap Record.interval?).getLast? with
  | none => rfl
  | some i => rfl

end Calibrated.DigitalNumber

/-! ## Bands -/

namespace Clip

/-- Frame `k` of a sheet whose frames of `interval` rows stand one above the other. -/
def band (width interval k : ℕ) : Clip := ⟨0, k * interval, width, interval⟩

/-- The rows of an image that a clip takes. -/
def rows (c : Clip) : Set ℕ := Set.Ico c.top (c.top + c.height)

variable {width height i : ℕ}

/-- As many bands as fit lie one behind the other in the sheet. -/
theorem slices_band (width height : ℕ) (hi : 0 < i) :
    Slices height (height / i) (fun k => (band width i k).top)
      fun k => (band width i k).height := by
  refine ⟨fun _ _ => hi, fun k hk => ?_, fun k _ => (Nat.succ_mul k i).ge⟩
  calc k * i + i = (k + 1) * i := (Nat.succ_mul k i).symm
    _ ≤ height / i * i := Nat.mul_le_mul_right i hk
    _ ≤ height := Nat.div_mul_le_self height i

/-- Bands leave no gap. -/
theorem iUnion_rows_band (hi : 0 < i) (n : ℕ) :
    ⋃ k ∈ Set.Iio n, (band width i k).rows = Set.Iio (n * i) := by
  ext y
  simp only [rows, band, Set.mem_iUnion, Set.mem_Iio, Set.mem_Ico, exists_prop]
  constructor
  · rintro ⟨k, hk, -, hy⟩
    calc y < k * i + i := hy
      _ = (k + 1) * i := (Nat.succ_mul k i).symm
      _ ≤ n * i := Nat.mul_le_mul_right i hk
  · intro hy
    exact ⟨y / i, Nat.div_lt_of_lt_mul (by rwa [Nat.mul_comm] at hy), Nat.div_mul_le_self y i,
      Nat.lt_div_mul_add hi⟩

theorem verticalClip_eq_band {k : ℕ} (hi : 0 < i) (hwidth : width < 2 ^ 32)
    (hheight : height < 2 ^ 32) (hk : k < height / i) :
    Sheet.verticalClip (Arith.ofInt width : Float) (Arith.ofInt i) k = band width i k := by
  have hinside : k * i + i ≤ height := (slices_band width height hi).inside k hk
  have hcount : height / i ≤ height := Nat.div_le_self height i
  rw [Sheet.verticalClip, Sheet.pixels_natCast hwidth, Sheet.pixels_natCast (by omega),
    Sheet.pixels_natCast_mul hi (by omega) (by omega) (by omega)]
  rfl

end Clip

/-! ## Sections -/

/-- The images that the store can measure have sides of 32 bits. -/
def TextureStore.Words {σ : Type} (store : TextureStore σ) (t : σ) : Prop :=
  ∀ path size, store.imageSize? t path = some size → size.width < 2 ^ 32 ∧ size.height < 2 ^ 32

theorem Memory.words {files : List MemoryFile}
    (h : ∀ f ∈ files, ∀ size, f.size? = some size → size.width < 2 ^ 32 ∧ size.height < 2 ^ 32)
    (t : List Registered) : (Memory.store files).Words t := by
  intro path size hsize
  obtain ⟨f, hf, hsize⟩ := Option.bind_eq_some_iff.mp hsize
  exact h f (List.mem_of_find?_eq_some hf) size hsize

namespace Build

variable {K σ : Type} {env : BuildEnv K σ} {b : Bench σ}

theorem bind_run {α β : Type} (x : Build K σ α) (f : α → Build K σ β) :
    (x >>= f) env b = f (x env b).1 env (x env b).2 := rfl

/-- An image that can be measured leaves the bench as it is. -/
theorem imageSize_run [Arith K] {path : Path} {size : PixelSize}
    (hsize : env.store.imageSize? b.textures path = some size) (s : Section) :
    (imageSize s path : Build K σ _) env b = (some (lengths size), b) := by
  have hread : imageSize s path env b = (if (env.store.imageSize? b.textures path).isNone then
      complain s ("Image " ++ path.text ++ " could not be read") >>= fun _ =>
        pure ((env.store.imageSize? b.textures path).map lengths)
      else pure ((env.store.imageSize? b.textures path).map lengths) : Build K σ _) env b := rfl
  rw [hread, hsize, if_neg (by simp)]
  rfl

end Build

namespace Calibrated.DigitalNumber

variable {σ : Type} {env : BuildEnv Float σ} {t : σ}

/-- The rows of the nighttime sheet, if there is one that can be read. -/
def nightRows (store : TextureStore σ) (t : σ) (d : DigitalNumber Float) : ℕ :=
  ((d.nighttime?.bind (store.imageSize? t)).map (·.height)).getD 0

/-- The requests for the band `k` of the sheets of a number. -/
structure AskedBand (d : DigitalNumber Float) (day : Path) (width i k : ℕ) (r : FrameRequest) :
    Prop where
  path : r.day.path = day
  params : r.day.params = (TextureParams.keyed d.key).clipped (.band width i k)
  night : ∀ n, r.night? = some n → d.nighttime? = some n.path ∧ n.params = r.day.params

/-- The nighttime sheet is asked for the band `k` if it has that, and the daytime band is loaded. -/
def LitBand (d : DigitalNumber Float) (store : TextureStore σ) (t₀ : σ) (i k : ℕ) (t : σ)
    (r : FrameRequest) : Prop :=
  r.night?.isSome = true ↔ store.Loads t r.day ∧ k < d.nightRows store t₀ / i

theorem framesIn_eq (d : DigitalNumber Float) {i : ℕ} (hi : 0 < i) (hi' : i < 2 ^ 32)
    (hinterval : d.interval = Arith.ofInt i) (hwords : env.store.Words t) (image? : Option Path) :
    d.framesIn env.store t image? =
      ((image?.bind (env.store.imageSize? t)).map (·.height)).getD 0 / i := by
  unfold framesIn TextureStore.frames TextureStore.sheet?
  cases hsize : image?.bind (env.store.imageSize? t) with
  | none => exact (Nat.zero_div i).symm
  | some size =>
    obtain ⟨path, -, hpath⟩ := Option.bind_eq_some_iff.mp hsize
    simp only [Option.map_some, Option.getD_some, hinterval]
    exact Sheet.frameCount_natCast (hwords path size hpath).2 hi hi'

theorem litBand_of_litAt {d : DigitalNumber Float} {i : ℕ} (hi : 0 < i) (hi' : i < 2 ^ 32)
    (hinterval : d.interval = Arith.ofInt i) (hwords : env.store.Words t) {k : ℕ} {t' : σ}
    {r : FrameRequest}
    (h : d.LitAt env.store (d.framesIn env.store t d.nighttime?) k t' r) :
    d.LitBand env.store t i k t' r := by
  rw [d.framesIn_eq hi hi' hinterval hwords] at h
  refine h.trans (and_congr_right fun _ => and_iff_left_of_imp fun hk => ?_)
  by_contra hnone
  rw [Option.not_isSome_iff_eq_none] at hnone
  rw [hnone, Option.bind_none, Option.map_none, Option.getD_none, Nat.zero_div] at hk
  exact absurd hk (Nat.not_lt_zero k)

/-- A number cuts its sheets into bands of its interval. -/
theorem build_bands (d : DigitalNumber Float) {i : ℕ} (hi : 0 < i) (hi' : i < 2 ^ 32)
    (hinterval : d.interval = Arith.ofInt i) (hwords : env.store.Words t) {day : Path}
    {size : PixelSize} (hday : d.daytime? = some day)
    (hsize : env.store.imageSize? t day = some size) (s : Section) (space : Space Float) :
    Asks env t (d.build s space) (MakesStripAlong env.store t .digitalNumber (size.height / i)
      (d.AskedBand day size.width i) (d.LitBand env.store t i) ElementState.StandAlike) := by
  have hframes : d.framesIn env.store t d.daytime? = size.height / i := by
    rw [d.framesIn_eq hi hi' hinterval hwords, hday, Option.bind_some, hsize]
    rfl
  obtain ⟨hwidth, hheight⟩ := hwords day size hsize
  refine (d.build_asks_along s space).mono fun steps rs h => ?_
  obtain ⟨log, states, function, hrs, hreel, halong, hrest⟩ := h
  rw [hframes] at hreel
  refine ⟨log, states, function, hrs, hreel.imp fun k hk r hr => ?_, fun k r hr => ?_, hrest⟩
  · obtain ⟨hcuts, hnight⟩ := hr
    rw [hday] at hcuts
    refine ⟨(Option.some.inj hcuts.image).symm, ?_, fun n hn => ?_⟩
    · rw [← Clip.verticalClip_eq_band hi hwidth hheight hk, ← hinterval]
      exact hcuts.params_eq hsize
    · exact ⟨(hnight n hn).1, (hnight n hn).2.1⟩
  · exact litBand_of_litAt hi hi' hinterval hwords (halong k r hr)

/-- A sheet without room for a frame is reported, and nothing is built. -/
theorem build_tooLow (d : DigitalNumber Float) {i : ℕ} (hi : 0 < i) (hi' : i < 2 ^ 32)
    (hinterval : d.interval = Arith.ofInt i) {b : Bench σ} {day : Path} {size : PixelSize}
    (hday : d.daytime? = some day) (hsize : env.store.imageSize? b.textures day = some size)
    (hheight : size.height < 2 ^ 32) (hframes : size.height / i = 0) (s : Section)
    (space : Space Float) :
    d.build s space env b = ([], { b with diagnostics := b.diagnostics ++
      [.ofKind .element "Interval is larger than the height of DaytimeImage"
        (env.read.headerOf s)] }) := by
  have hpositive : ¬ d.interval ≤ 0.0 := by
    have hone : (0 : ℚ) < i := by exact_mod_cast hi
    rw [hinterval, (measures_ofInt (by omega)).le_iff measures_zero]
    exact not_le.mpr hone
  have hcount : Sheet.frameCount (lengths size : Point Float).y d.interval = 0 := by
    rw [hinterval, ← hframes]
    exact Sheet.frameCount_natCast hheight hi hi'
  unfold build
  simp only [hday, if_neg hpositive]
  rw [bind_run, imageSize_run hsize]
  simp only [hcount, if_true]
  rfl

/-- What the section of a number builds by frames of `i` rows: the bands of its sheet, in order and
with no row left out or in two of them, are the frames of a strip. -/
structure Sliced (env : BuildEnv Float σ) (b : Bench σ) (s : Section) (d : DigitalNumber Float)
    (day : Path) (size : PixelSize) (i : ℕ) (result : List (Step Float) × Bench σ) : Prop where
  slices : Slices size.height (size.height / i) (fun k => (Clip.band size.width i k).top)
    fun k => (Clip.band size.width i k).height
  disjoint : (Set.Iio (size.height / i)).PairwiseDisjoint fun k => (Clip.band size.width i k).rows
  covered : ⋃ k ∈ Set.Iio (size.height / i), (Clip.band size.width i k).rows =
    Set.Iio (size.height / i * i)
  strip : ∃ requests, Bench.Requested env.store b result.2 requests ∧
    MakesStripAlong env.store b.textures .digitalNumber (size.height / i)
      (d.AskedBand day size.width i) (d.LitBand env.store b.textures i) ElementState.StandAlike
      result.1 requests
  tooLow : size.height / i = 0 → result = ([], { b with
    diagnostics := b.diagnostics ++ (s.read env.read : Noted (DigitalNumber Float)).notes ++
      [.ofKind .element "Interval is larger than the height of DaytimeImage"
        (env.read.headerOf s)] })

end Calibrated.DigitalNumber

/-- The section of a number slices its sheet exactly: into as many bands of its interval as there is
room for. -/
theorem number_sheets_sliced {σ : Type} (env : BuildEnv Float σ) (b : Bench σ)
    (space : Space Float) {s : Section} (hname : s.lowerName = "digitalnumber")
    (hwords : env.store.Words b.textures) {i : ℕ} (hinterval : s.interval? = some i) {day : Path}
    (hday : ((s.read env.read).value : Calibrated.DigitalNumber Float).daytime? = some day)
    {size : PixelSize} (hsize : env.store.imageSize? b.textures day = some size) :
    Calibrated.DigitalNumber.Sliced env b s (s.read env.read).value day size i
      (Calibrated.instrument space s env b) := by
  obtain ⟨hi, hi'⟩ := Section.interval?_bounds hinterval
  have hread : ((s.read env.read).value : Calibrated.DigitalNumber Float).interval =
      Arith.ofInt i := by
    rw [Calibrated.DigitalNumber.interval_read, hinterval]
    rfl
  have hslices := Clip.slices_band size.width size.height hi
  rw [Calibrated.instrument_digitalNumber hname]
  refine ⟨hslices, hslices.pairwiseDisjoint, Clip.iUnion_rows_band hi _, ?_, fun hframes => ?_⟩
  · have hbuild := Calibrated.DigitalNumber.build_bands _ hi (by omega) hread hwords hday hsize s
      space
    exact (settings_asks _ s).bindQuiet (fun d hd => hd ▸ hbuild) b rfl
  · rw [buildWith_run]
    refine Calibrated.DigitalNumber.build_tooLow _ hi (by omega) hread hday ?_
      (hwords day size hsize).2 hframes s space
    exact hsize

/-- A sheet of twenty rows has three frames of six, and two rows behind them. -/
theorem number_sheet_of_twenty_rows :
    let files : List MemoryFile := [⟨⟨"Train/image.png"⟩, some ⟨8, 20⟩, none⟩]
    let env : BuildEnv Float (List Registered) :=
      ⟨⟨"panel2.cfg", ⟨"Train"⟩, Memory.view files ⟨"Stock"⟩⟩, Memory.store files, .standard⟩
    let s : Section := ⟨"DigitalNumber", 1, 0, 3,
      [⟨"DaytimeImage", "image.png", 2⟩, ⟨"Interval", "6.4", 3⟩]⟩
    let space : Space Float := ⟨fun r => (⟨r.left, r.top⟩, ⟨r.left, r.top⟩), .zero⟩
    Calibrated.DigitalNumber.Sliced env ⟨[], [], []⟩ s (s.read env.read).value
      ⟨"Train/image.png"⟩ ⟨8, 20⟩ 6 (Calibrated.instrument space s env ⟨[], [], []⟩) := by
  refine number_sheets_sliced _ _ _ ?_ (Memory.words ?_ _) ?_ ?_ ?_
  all_goals decide +kernel

end DriverDesk
