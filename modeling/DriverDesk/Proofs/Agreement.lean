import DriverDesk.Proofs.MovedPlans
import DriverDesk.Proofs.Stopping

/-!
# Compiling to the same

Two compiles agree when a car cannot tell them apart. A compile that nothing stops is built of
the plan it prepares, so compiles agree when their plans echo each other, and what the second
one says answers to what the first one says.
-/

namespace DriverDesk

namespace Compilation

open Build Step

variable {K σ : Type} {shift : Nat → Nat} {T : Echo shift}

/-- The second compile gives a car the same as the first one, and requests the same textures. -/
structure Agrees (c c' : Compilation K σ) : Prop where
  camera : c'.camera = c.camera
  added : c'.added = c.added
  commit : ∀ (cars : Cars K) (car : Nat), c'.commit cars car = c.commit cars car
  registrations : c'.bench.registrations = c.bench.registrations
  textures : c'.bench.textures = c.bench.textures

namespace Agrees

variable {c c' c'' : Compilation K σ}

theorem symm (h : c.Agrees c') : c'.Agrees c :=
  ⟨h.camera.symm, h.added.symm, fun cars car => (h.commit cars car).symm, h.registrations.symm,
    h.textures.symm⟩

theorem trans (h : c.Agrees c') (h' : c'.Agrees c'') : c.Agrees c'' :=
  ⟨h'.camera.trans h.camera, h'.added.trans h.added,
    fun cars car => (h'.commit cars car).trans (h.commit cars car),
    h'.registrations.trans h.registrations, h'.textures.trans h.textures⟩

end Agrees

/-! ## Preparing -/

theorem preambleDiagnostic?_move (shift : Nat → Nat) (fileName : String) (line : Nat)
    (text : String) :
    preambleDiagnostic? fileName (shift line) text =
      (preambleDiagnostic? fileName line text).map (·.move shift) := by
  unfold preambleDiagnostic?
  rcases Text.after? "version" (Text.asciiLower text) with _ | rest
  · rfl
  · dsimp only
    rcases Numeral.lenient? (String.ofList (versionText rest.toList)) with _ | d
    · rfl
    · dsimp only
      split
      · rfl
      · rfl

theorem preambleDiagnostics_move (fileName : String) (preamble : List (Nat × String)) :
    preambleDiagnostics fileName (preamble.map (Prod.map shift id)) =
      (preambleDiagnostics fileName preamble).map (·.move shift) := by
  simp only [preambleDiagnostics, List.filterMap_map, List.map_filterMap, Function.comp_def,
    Prod.map_fst, Prod.map_snd, id_eq, preambleDiagnostic?_move shift]

/-- The plan of a file whose sections say the same, moved. -/
theorem prepare_echoes [Arith K] (T : Echo shift) (format : PanelFormat)
    {source source' : PanelSource}
    (hfile : source'.fileName = source.fileName)
    (hpreamble : (Sections.ofLines source'.lines).preamble =
      (Sections.ofLines source.lines).preamble.map (Prod.map shift id))
    (hsections : Interleaved (Section.Echoes T (format.kind? K))
      (Section.Unknown (format.kind? K)) (Sections.ofLines source.lines).sections
      (Sections.ofLines source'.lines).sections) :
    Build.Echoes (K := K) (σ := σ) T (Plan.Echoes T) (prepare format source)
      (prepare format source') := by
  have hnotes : Noted.Moves shift Eq
      ⟨(), preambleDiagnostics source.fileName (Sections.ofLines source.lines).preamble⟩
      ⟨(), preambleDiagnostics source'.fileName (Sections.ofLines source'.lines).preamble⟩ := by
    refine ⟨rfl, ?_⟩
    rw [hfile, hpreamble]
    exact preambleDiagnostics_move _ _
  exact (take_echoes (hnotes.echoes T)).bindEq fun _ => Plan.make_echoes format hsections

/-! ## Building -/

/-- Parts that build the same give the same batches, but for empty ones. -/
theorem buildAll_echoes {parts parts' : List (Section × Build K σ (List (Step K)))}
    (h : Interleaved (fun part part' => Build.Echoes T Eq part.2 part'.2)
      (fun part => part.2 = pure []) parts parts') :
    Build.Echoes T (Interleaved Eq (· = [])) (buildAll parts) (buildAll parts') := by
  induction h with
  | nil => exact .pure .nil
  | keep hpart _ ih =>
    intro env b b' hb
    obtain ⟨hsteps, hb⟩ := hpart env b b' hb
    rw [buildAll_cons, buildAll_cons, ← hsteps]
    obtain ⟨hbatches, hb⟩ := ih env _ _ hb
    exact ⟨.keep rfl hbatches, hb⟩
  | extra hpart _ ih =>
    intro env b b' hb
    rw [buildAll_cons, hpart]
    obtain ⟨hbatches, hb⟩ := ih env b b' hb
    exact ⟨.extra rfl hbatches, hb⟩

/-- What is built of a plan on an empty bench when nothing stops it. -/
def ofPlan (env : BuildEnv K σ) (textures : σ) (start : Build K σ (Plan K σ)) :
    Compilation K σ :=
  let prepared := start env ⟨textures, [], []⟩
  let built := buildAll prepared.1.parts env prepared.2
  ⟨prepared.1.camera, built.1, [], false, built.2⟩

/-- Plans that echo each other are built to the same. -/
theorem ofPlan_answers (textures : σ) {start start' : Build K σ (Plan K σ)}
    (h : Build.Echoes T (Plan.Echoes T) start start') (env : BuildEnv K σ) :
    let c := ofPlan env textures start
    let c' := ofPlan env textures start'
    c.Agrees c' ∧ T.Answers c.bench.diagnostics c'.bench.diagnostics := by
  intro c c'
  obtain ⟨hplan, hstart⟩ := h env _ _ (Bench.echoes_nil T textures)
  -- the second bench echoes the first one, so its parts build on from there
  obtain ⟨hbatches, hbench⟩ := buildAll_echoes hplan.2 env _ _ hstart
  have hflatten : c'.batches.flatten = c.batches.flatten := by
    rw [← List.flatMap_id, ← List.flatMap_id]
    exact hbatches.flatMap_eq (by rintro _ _ rfl; rfl) fun _ h => h
  refine ⟨⟨hplan.1, ?_, fun cars car => ?_, hbench.registrations, hbench.textures⟩,
    hbench.diagnostics⟩
  · exact hbatches.flatMap_eq (by rintro _ _ rfl; rfl) (by rintro _ rfl; rfl)
  · rw [commit, commit, Cars.applyAll_eq, Cars.applyAll_eq, hflatten,
      show c'.camera = c.camera from hplan.1]
    rfl

/-! ## Compiling -/

theorem reached_of_stopsAt {signal : Signal} (h : ∀ line, signal.stopsAt line = false)
    {β : Type} (parts : List (Section × β)) : signal.reached parts = parts :=
  List.filter_eq_self.mpr fun _ _ => decide_eq_true fun line _ => h line

theorem environment_congr {source source' : PanelSource} {options : Options K}
    {files : FileView} {store : TextureStore σ} (hfile : source'.fileName = source.fileName)
    (hfolder : source'.trainFolder = source.trainFolder) :
    environment source' options files store = environment source options files store := by
  rw [environment, hfile, hfolder, environment]

variable [Arith K] (options : Options K) (files : FileView) (store : TextureStore σ)
  (textures : σ)

/-- A compile that nothing stops builds all parts of its plan. -/
theorem compileAs_unstopped (format : PanelFormat) (source : PanelSource) {signal : Signal}
    (hsignal : ∀ line, signal.stopsAt line = false) :
    let c := compileAs format source options files store signal textures
    let start := prepared format source options files store textures
    (c.batches, c.bench) =
        buildAll start.1.parts (environment source options files store) start.2 ∧
      c.cancelled = false := by
  intro c start
  constructor
  · rw [← reached_of_stopsAt hsignal start.1.parts]
    exact compileAs_built format source options files store textures signal
  · rw [(compileAs_calls format source options files store textures signal).2,
      List.find?_eq_none.mpr fun line _ => by simp [hsignal line]]
    rfl

/-- A compile that nothing stops is built of all it prepares. -/
theorem compileAs_ofPlan (format : PanelFormat) (source : PanelSource) {signal : Signal}
    (hsignal : ∀ line, signal.stopsAt line = false) :
    let c := compileAs format source options files store signal textures
    let whole := ofPlan (environment source options files store) textures (prepare format source)
    whole.Agrees c ∧ c.bench = whole.bench := by
  intro c whole
  obtain ⟨hbuilt, hcancelled⟩ :=
    compileAs_unstopped options files store textures format source hsignal
  have hcamera : c.camera = whole.camera :=
    compileAs_camera format source options files store textures signal
  have hbatches : c.batches = whole.batches := congrArg Prod.fst hbuilt
  have hbench : c.bench = whole.bench := congrArg Prod.snd hbuilt
  refine ⟨⟨hcamera, ?_, fun cars car => ?_, congrArg Bench.registrations hbench,
    congrArg Bench.textures hbench⟩, hbench⟩
  · rw [added, added, hbatches]
  · rw [commit, commit, hcamera, hbatches, hcancelled]
    rfl

/-- When nothing stops them, compiles that prepare the same agree, and what the second one says
answers to what the first one says. -/
theorem compileAs_answers {format : PanelFormat} {source source' : PanelSource} {signal : Signal}
    (hfile : source'.fileName = source.fileName)
    (hfolder : source'.trainFolder = source.trainFolder)
    (h : Build.Echoes (K := K) (σ := σ) T (Plan.Echoes T) (prepare format source)
      (prepare format source'))
    (hsignal : ∀ line, signal.stopsAt line = false) :
    let c := compileAs format source options files store signal textures
    let c' := compileAs format source' options files store signal textures
    c.Agrees c' ∧ T.Answers c.bench.diagnostics c'.bench.diagnostics := by
  intro c c'
  obtain ⟨hwhole, hbench⟩ := compileAs_ofPlan options files store textures format source hsignal
  obtain ⟨hwhole', hbench'⟩ := compileAs_ofPlan options files store textures format source' hsignal
  obtain ⟨hagrees, hanswers⟩ :=
    ofPlan_answers textures h (environment source options files store)
  rw [environment_congr hfile hfolder] at hwhole' hbench'
  refine ⟨(hwhole.symm.trans hagrees).trans hwhole', ?_⟩
  rw [show c.bench = _ from hbench, show c'.bench = _ from hbench']
  exact hanswers

end Compilation

end DriverDesk
