import DriverDesk.Proofs.Alike
import DriverDesk.Proofs.Headers
import DriverDesk.Proofs.Insertion

/-!
# Merged headers

The headers of a panel may stand anywhere in its file, and be cut or merged: the panel has the
same camera, and its other sections are built the same.
-/

namespace DriverDesk

open Build

variable {K σ : Type}

/-! ## What sections say -/

/-- The key and the value of a record. -/
def Record.pair (r : Record) : String × String := (r.key, r.value)

/-- What a section says, wherever it stands. -/
def Section.content (s : Section) : String × List (String × String) :=
  (s.name, s.records.map (·.pair))

/-- The section that says something, out of a file. -/
def Section.ofContent (content : String × List (String × String)) : Section :=
  ⟨content.1, 0, 0, 0, content.2.map fun p => ⟨p.1, p.2, 0⟩⟩

/-- In the second list one section stands for all of a kind and has their records in order.
The other sections say the same, in the same order. -/
structure Sections.Merged (kind : Section → Bool) (sections sections' : List Section) : Prop where
  merged : ∃ s, sections'.filter kind = [s] ∧
    s.content.2 = (sections.filter kind).flatMap (·.content.2)
  others : (sections'.filter (!kind ·)).map (·.content) =
    (sections.filter (!kind ·)).map (·.content)

/-- Merged sections have the records of those they stand for. -/
theorem Sections.Merged.records {kind : Section → Bool} {sections sections' : List Section}
    (h : Merged kind sections sections') :
    ((sections'.filter kind).flatMap (·.records)).map (·.pair) =
      ((sections.filter kind).flatMap (·.records)).map (·.pair) := by
  obtain ⟨s, hs, hrecords⟩ := h.merged
  rw [List.map_flatMap, List.map_flatMap, hs, List.flatMap_singleton]
  exact hrecords

theorem latest_given?_congr {α : Type} {rs rs' : List Record}
    (h : rs'.map (·.pair) = rs.map (·.pair)) (key : String) (read? : String → Option α) (a : α) :
    latest (Record.given? key read?) rs' a = latest (Record.given? key read?) rs a := by
  have hpair : Record.given? key read? =
      (fun p : String × String => if Text.lower p.1 = key then read? p.2 else none) ∘
        Record.pair := rfl
  rw [latest, latest, hpair, ← List.filterMap_map, ← List.filterMap_map, h]

theorem Calibrated.calibration_congr [Arith K] {sections sections' : List Section}
    (h : Sections.Merged (·.isThis) sections sections') :
    (calibration sections' : Calibration K) = calibration sections := by
  simp only [calibration, Calibration.heeding, latest_given?_congr h.records]

theorem Framed.directionOf_congr [Arith K] {sections sections' : List Section}
    (h : Sections.Merged (·.isView) sections sections') :
    (directionOf sections' : Point K) = directionOf sections := by
  simp only [directionOf, heeding, latest_given?_congr h.records]

/-! ## Building out of a file -/

/-- What is built first of all from the state `t` of the store, but for the names of
textures. -/
def Build.alone (env : BuildEnv K σ) (t : σ) (x : Build K σ (List (Step K))) : List (Step K) :=
  (x env ⟨t, [], []⟩).1.map Step.anonymous

theorem Section.echoes_ofContent (T : Echo fun _ => 0) (kind? : String → Option Kind)
    (s : Section) : s.Echoes T kind? (ofContent s.content) := by
  refine ⟨⟨rfl, rfl⟩, fun kind _ => ?_⟩
  have hrecords : (ofContent s.content).records = s.records.map (·.move fun _ => 0) := by
    rw [ofContent, content, List.map_map]
    rfl
  rw [hrecords]
  exact .moved T s.records

/-- What is built of an instrument does not depend on where its section stands. -/
theorem Calibrated.alone_ofContent [Arith K] (env : BuildEnv K σ) (t : σ) (space : Space K)
    (s : Section) :
    alone env t (instrument space (.ofContent s.content)) = alone env t (instrument space s) := by
  let T := Echo.exact fun _ => 0
  have hsame := instrument_echoes (s.echoes_ofContent T (kind? K)) space env _ _
    (Bench.echoes_nil T t)
  exact congrArg (·.map Step.anonymous) hsame.1.symm

namespace Compilation

/-- Parts that are built alike everywhere are built one after another as each is alone. -/
theorem buildAll_alone {env : BuildEnv K σ} {t : σ}
    {parts : List (Section × Build K σ (List (Step K)))}
    (h : ∀ part ∈ parts, Alike env t SameSteps part.2 part.2) {b : Bench σ}
    (hb : env.store.Reaches t b.textures) :
    (buildAll parts env b).1.map (·.map Step.anonymous) =
      parts.map fun part => alone env t part.2 := by
  induction parts generalizing b with
  | nil => rfl
  | cons part parts ih =>
    obtain ⟨hpart, hparts⟩ := List.forall_mem_cons.mp h
    -- the part leaves a bench that requests lead to, from which the others go on
    obtain ⟨hsteps, hb', -⟩ := hpart b ⟨t, [], []⟩ hb (env.store.reaches_refl t)
    rw [buildAll_cons, List.map_cons, List.map_cons, ih hparts hb', hsteps]
    rfl

/-- What a compile built of the sections of a kind, but for the names of textures. -/
def builtOf (kind : Section → Bool) (sections : List Section) (c : Compilation K σ) :
    List (List (Step K)) :=
  ((sections.zip c.batches).filter (kind ·.1)).map (·.2.map Step.anonymous)

/-- What is built of the sections of a kind is what is built of the parts for them. -/
theorem builtOf_eq {env : BuildEnv K σ} {t : σ} {kind : Section → Bool}
    {c : Compilation K σ} {parts reached : List (Section × Build K σ (List (Step K)))}
    (hreached : reached <+: parts)
    (hbatches : c.batches.map (·.map Step.anonymous) = reached.map fun part => alone env t part.2) :
    builtOf kind (parts.map (·.1)) c =
      (reached.filter (kind ·.1)).map fun part => alone env t part.2 := by
  obtain ⟨rest, rfl⟩ := hreached
  have hzip : ((reached ++ rest).map (·.1)).zip (c.batches.map (·.map Step.anonymous)) =
      reached.map fun part => (part.1, alone env t part.2) := by
    rw [hbatches, List.map_append, ← List.append_nil (reached.map fun part => alone env t part.2),
      List.zip_append (by rw [List.length_map, List.length_map]), List.zip_nil_right,
      List.append_nil, List.zip_map']
  calc builtOf kind ((reached ++ rest).map (·.1)) c
    _ = ((((reached ++ rest).map (·.1)).zip (c.batches.map (·.map Step.anonymous))).filter
          (kind ·.1)).map (·.2) := by
        rw [List.zip_map_right, List.filter_map, List.map_map]
        rfl
    _ = _ := by
        rw [hzip, List.filter_map, List.map_map]
        rfl

variable [Arith K] (source : PanelSource) (options : Options K) (files : FileView)
  (store : TextureStore σ) (signal : Signal) (textures : σ)

/-- A compile that is not cancelled builds all parts of its plan. -/
theorem reached_of_not_cancelled (format : PanelFormat)
    (h : (compileAs format source options files store signal textures).cancelled = false) :
    signal.reached (prepared format source options files store textures).1.parts =
      (prepared format source options files store textures).1.parts := by
  obtain ⟨line, htile⟩ := prepared_tile format source options files store textures
  have hends : signal.Passes source.lines.length := by
    rw [compileAs_eq] at h
    refine (Signal.walk_snd_iff_passes signal source.lines.length signal.passes_zero
      (Nat.zero_le _)).mp ?_
    simpa using h
  refine List.filter_eq_self.mpr fun part hpart => decide_eq_true ?_
  exact hends.mono (htile.within part.1 (List.mem_map_of_mem hpart)).2.2

/-- The instruments of a panel, each built alone with the calibration of all headers. -/
def instrumentsOf (env : BuildEnv K σ) (textures : σ) (sections : List Section) :
    List (List (Step K)) :=
  let space := (Calibrated.calibration sections).space env.options.viewport env.options.driver
  (sections.filter (!·.isThis)).map fun s => alone env textures (Calibrated.instrument space s)

theorem instrumentsOf_congr (env : BuildEnv K σ) {sections sections' : List Section}
    (h : Sections.Merged (·.isThis) sections sections') :
    instrumentsOf env textures sections' = instrumentsOf env textures sections := by
  -- only where they stand tells the sections of the two files apart
  have hcontent (sections : List Section) : instrumentsOf env textures sections =
      ((sections.filter (!·.isThis)).map (·.content)).map fun content =>
        alone env textures (Calibrated.instrument
          ((Calibrated.calibration sections).space env.options.viewport env.options.driver)
          (.ofContent content)) := by
    rw [List.map_map]
    exact List.map_congr_left fun s _ => (Calibrated.alone_ofContent env textures _ s).symm
  rw [hcontent, hcontent, h.others, Calibrated.calibration_congr h]

/-- What a compile prepares of a calibrated panel. -/
theorem prepared_calibrated :
    let start := prepared .calibrated source options files store textures
    start.1 = Calibrated.planOf (environment source options files store)
        (Sections.ofLines source.lines).sections ∧ start.2.textures = textures := by
  have hprepare : Asks (environment source options files store) textures
      (prepare .calibrated source) (Quietly (· = Calibrated.planOf _ _)) :=
    (take_asks _).bindQuiet fun _ _ => Calibrated.plan_asks_eq _
  obtain ⟨_, hstart, rfl, hplan⟩ := hprepare ⟨textures, [], []⟩ rfl
  exact ⟨hplan, hstart.textures⟩

/-- The parts of a calibrated plan without its headers build the instruments alone. -/
theorem alone_planOf (env : BuildEnv K σ) (sections : List Section) :
    (((Calibrated.planOf env sections).parts.filter (!·.1.isThis)).map fun part =>
      alone env textures part.2) = instrumentsOf env textures sections := by
  rw [Calibrated.planOf, List.filter_map, List.map_map]
  refine List.map_congr_left fun s hs => ?_
  have hthis : s.isThis = false := by simpa using (List.mem_filter.mp hs).2
  have hnone : Calibrated.header? (K := K) env.read s = none := by
    rw [Calibrated.header?, hthis]
    rfl
  dsimp only [Function.comp_apply]
  rw [hnone]
  rfl

variable {store textures} in
/-- A compile builds the instruments of a panel as if each stood alone. -/
theorem built_instruments (h : store.Independent textures) :
    let c := compileAs .calibrated source options files store signal textures
    let sections := (Sections.ofLines source.lines).sections
    let whole := instrumentsOf (environment source options files store) textures sections
    c.camera = .ofCalibration (Calibrated.calibration sections) options.viewport ∧
      c.builtOf (!·.isThis) sections <+: whole ∧
      (c.cancelled = false → c.builtOf (!·.isThis) sections = whole) := by
  intro c sections whole
  let env := environment source options files store
  let start := prepared .calibrated source options files store textures
  obtain ⟨hplan, htextures⟩ := prepared_calibrated source options files store textures
  obtain ⟨line, htile⟩ := prepared_tile .calibrated source options files store textures
  have hsections : start.1.parts.map (·.1) = sections :=
    (prepared_covers .calibrated source options files store textures).sections
  have hreached : signal.reached start.1.parts <+: start.1.parts := Signal.reached_prefix htile
  have halike : ∀ part ∈ start.1.parts, Alike env textures SameSteps part.2 part.2 := by
    rw [show start.1 = _ from hplan]
    intro part hpart
    obtain ⟨s, -, rfl⟩ := List.mem_map.mp hpart
    exact Calibrated.part_alike h _ _ _ _
  have hbatches : c.batches.map (·.map Step.anonymous) =
      (signal.reached start.1.parts).map fun part => alone env textures part.2 := by
    have hbuilt : c.batches = (buildAll (signal.reached start.1.parts) env start.2).1 :=
      congrArg Prod.fst (compileAs_built .calibrated source options files store textures signal)
    rw [hbuilt]
    refine buildAll_alone (fun part hpart => halike part (List.mem_filter.mp hpart).1) ?_
    rw [show start.2.textures = textures from htextures]
    exact store.reaches_refl textures
  have hbuilt : c.builtOf (!·.isThis) sections =
      ((signal.reached start.1.parts).filter (!·.1.isThis)).map fun part =>
        alone env textures part.2 := by
    rw [← hsections]
    exact builtOf_eq hreached hbatches
  have hwhole : (start.1.parts.filter (!·.1.isThis)).map (fun part => alone env textures part.2) =
      whole := by
    rw [show start.1 = _ from hplan]
    exact alone_planOf textures env sections
  refine ⟨?_, ?_, fun hcancelled => ?_⟩
  · rw [compileAs_camera, show prepared _ _ _ _ _ _ = start from rfl, show start.1 = _ from hplan]
    rfl
  · rw [hbuilt, ← hwhole]
    exact (hreached.filter _).map _
  · rw [hbuilt, ← hwhole,
      reached_of_not_cancelled source options files store signal textures .calibrated hcancelled]

/-- The camera of a framed panel looks where its views say. -/
theorem camera_framed :
    (compileAs .framed source options files store signal textures).camera =
      let direction := Framed.directionOf (Sections.ofLines source.lines).sections
      .ofFrame (.centered options.viewport options.driver) direction.x direction.y := by
  have hprepare : Asks (environment source options files store) textures
      (prepare .framed source) (Quietly fun p => p.camera = _) :=
    (take_asks _).bindQuiet fun _ _ => Framed.plan_asks_camera _
  obtain ⟨_, -, -, hcamera⟩ := hprepare ⟨textures, [], []⟩ rfl
  rw [compileAs_camera]
  exact hcamera

/-- However its records are cut into headers, and wherever these stand, a panel has one
calibration: of each setting the last value that can be used. When one `[This]` stands for
all, the camera and what is built of the other sections stay as they were, but for the names
of textures. When one `[View]` does, the camera stays as it was. -/
theorem headers_count_as_one (options : Options K) (files : FileView) (store : TextureStore σ)
    (textures : σ) (hstore : store.Independent textures) (signal signal' : Signal) :
    (∀ source source' : PanelSource,
      source'.path = source.path → source'.trainFolder = source.trainFolder →
      let sections := (Sections.ofLines source.lines).sections
      let sections' := (Sections.ofLines source'.lines).sections
      Sections.Merged (·.isThis) sections sections' →
      let c := compileAs .calibrated source options files store signal textures
      let c' := compileAs .calibrated source' options files store signal' textures
      let whole := instrumentsOf (environment source options files store) textures sections
      c.camera = .ofCalibration (Calibrated.calibration sections) options.viewport ∧
      c'.camera = c.camera ∧
      c.builtOf (!·.isThis) sections <+: whole ∧ c'.builtOf (!·.isThis) sections' <+: whole ∧
      (c.cancelled = false → c.builtOf (!·.isThis) sections = whole) ∧
      (c'.cancelled = false → c'.builtOf (!·.isThis) sections' = whole)) ∧
    (∀ source source' : PanelSource,
      let sections := (Sections.ofLines source.lines).sections
      Sections.Merged (·.isView) sections (Sections.ofLines source'.lines).sections →
      let c := compileAs .framed source options files store signal textures
      let c' := compileAs .framed source' options files store signal' textures
      let direction := Framed.directionOf sections
      c.camera = .ofFrame (.centered options.viewport options.driver) direction.x direction.y ∧
      c'.camera = c.camera) := by
  constructor
  · intro source source' hpath hfolder sections sections' hmerged c c' whole
    obtain ⟨hcamera, hprefix, hwhole⟩ := built_instruments source options files signal hstore
    obtain ⟨hcamera', hprefix', hwhole'⟩ := built_instruments source' options files signal' hstore
    have henv : environment source' options files store =
        environment source options files store :=
      environment_congr (congrArg Path.displayName hpath) hfolder
    rw [henv, instrumentsOf_congr textures _ hmerged] at hprefix' hwhole'
    rw [Calibrated.calibration_congr hmerged] at hcamera'
    exact ⟨hcamera, hcamera'.trans hcamera.symm, hprefix, hprefix', hwhole, hwhole'⟩
  · intro source source' sections hmerged c c' direction
    have hcamera := camera_framed source options files store signal textures
    have hcamera' := camera_framed source' options files store signal' textures
    rw [Framed.directionOf_congr hmerged] at hcamera'
    exact ⟨hcamera, hcamera'.trans hcamera.symm⟩

end Compilation

theorem Memory.load?_store (files : List MemoryFile) (textures : List Registered) (path : Path)
    (params : TextureParams) :
    (store files).load? textures path params = (find? files path).bind fun file =>
      file.size?.bind fun size =>
        if allows textures path file.limit? then
          some (textures.length, clippedSize size params.clip?)
        else none := by
  have hregister : (store files).register textures path params =
      register files textures path params := rfl
  rw [TextureStore.load?, hregister, register]
  rcases find? files path with _ | ⟨path', _ | size, limit?⟩
  · rfl
  · rfl
  · simp only [Option.bind_some]
    cases allows textures path limit? with
    | false => rfl
    | true => simp [store, Registered.sizeOf?]

/-- A store in memory does not look back unless one of its files has a limit. -/
theorem Memory.independent_store {files : List MemoryFile} (h : ∀ f ∈ files, f.limit? = none)
    (textures : List Registered) : (store files).Independent textures := by
  have hload (textures : List Registered) (path : Path) (params : TextureParams) :
      ((store files).load? textures path params).map (·.2) =
        ((find? files path).bind (·.size?)).map (clippedSize · params.clip?) := by
    rw [load?_store]
    cases hf : find? files path with
    | none => rfl
    | some file =>
      obtain ⟨path', _ | size, limit?⟩ := file
      · rfl
      · cases h _ (List.mem_of_find?_eq_some hf)
        rfl
  exact ⟨fun _ _ path params => (hload _ path params).trans (hload _ path params).symm,
    fun _ _ _ => rfl⟩

namespace Compilation

/-- A lamp between two headers, and a view cut in two. -/
theorem headers_count_as_one_lamp :
    let files : List MemoryFile := [⟨⟨"Train/day.bmp"⟩, some ⟨8, 8⟩, none⟩]
    let source := PanelSource.ofText ⟨"Train/panel2.cfg"⟩ ⟨"Train"⟩
      "[This]\nTop = 5\n[PilotLamp]\nDaytimeImage = day.bmp\n[This]\nTop = low\nLeft = 7\n"
    let source' := PanelSource.ofText ⟨"Train/panel2.cfg"⟩ ⟨"Train"⟩
      "[PilotLamp]\nDaytimeImage = day.bmp\n[This]\nTop = 5\nTop = low\nLeft = 7\n"
    let view := PanelSource.ofText ⟨"Train/panel.cfg"⟩ ⟨"Train"⟩
      "[View]\nYaw = 1\n[View]\nPitch = 2\n"
    let view' := PanelSource.ofText ⟨"Train/panel.cfg"⟩ ⟨"Train"⟩ "[View]\nYaw = 1\nPitch = 2\n"
    let compiled (format : PanelFormat) (source : PanelSource) :=
      compileAs format source (Options.standard (K := Float))
        (Memory.view files ⟨"Compatibility"⟩) (Memory.store files) .never []
    let sections (source : PanelSource) := (Sections.ofLines source.lines).sections
    (Memory.store files).Independent [] ∧
      Sections.Merged (·.isThis) (sections source) (sections source') ∧
      Sections.Merged (·.isView) (sections view) (sections view') ∧
      (compiled .calibrated source').camera = (compiled .calibrated source).camera ∧
      (compiled .calibrated source').builtOf (!·.isThis) (sections source') =
        (compiled .calibrated source).builtOf (!·.isThis) (sections source) ∧
      (compiled .framed view').camera = (compiled .framed view).camera := by
  intro files source source' view view' compiled sections
  have hsections : sections source =
      [⟨"This", 1, 0, 2, [⟨"Top", "5", 2⟩]⟩,
       ⟨"PilotLamp", 3, 2, 4, [⟨"DaytimeImage", "day.bmp", 4⟩]⟩,
       ⟨"This", 5, 4, 7, [⟨"Top", "low", 6⟩, ⟨"Left", "7", 7⟩]⟩] := by decide
  have hsections' : sections source' =
      [⟨"PilotLamp", 1, 0, 2, [⟨"DaytimeImage", "day.bmp", 2⟩]⟩,
       ⟨"This", 3, 2, 6, [⟨"Top", "5", 4⟩, ⟨"Top", "low", 5⟩, ⟨"Left", "7", 6⟩]⟩] := by decide
  have hviews : sections view =
      [⟨"View", 1, 0, 2, [⟨"Yaw", "1", 2⟩]⟩, ⟨"View", 3, 2, 4, [⟨"Pitch", "2", 4⟩]⟩] := by decide
  have hviews' : sections view' = [⟨"View", 1, 0, 3, [⟨"Yaw", "1", 2⟩, ⟨"Pitch", "2", 3⟩]⟩] := by
    decide
  have hthis : Sections.Merged (·.isThis) (sections source) (sections source') := by
    rw [hsections, hsections']
    exact ⟨⟨_, rfl, by decide⟩, by decide⟩
  have hview : Sections.Merged (·.isView) (sections view) (sections view') := by
    rw [hviews, hviews']
    exact ⟨⟨_, rfl, by decide⟩, by decide⟩
  have hstore : (Memory.store files).Independent [] :=
    Memory.independent_store (List.forall_mem_singleton.mpr rfl) []
  have hpath : source'.path = source.path := rfl
  have hfolder : source'.trainFolder = source.trainFolder := rfl
  have hcancelled (source : PanelSource) : (compiled .calibrated source).cancelled = false :=
    (compileAs_unstopped _ _ _ _ _ source Signal.stopsAt_never).2
  have h := headers_count_as_one (Options.standard (K := Float))
    (Memory.view files ⟨"Compatibility"⟩) (Memory.store files) [] hstore .never .never
  obtain ⟨-, hcamera, -, -, hbuilt, hbuilt'⟩ := h.1 source source' hpath hfolder hthis
  exact ⟨hstore, hthis, hview, hcamera,
    (hbuilt' (hcancelled source')).trans (hbuilt (hcancelled source)).symm,
    (h.2 view view' hview).2⟩

end Compilation

end DriverDesk
