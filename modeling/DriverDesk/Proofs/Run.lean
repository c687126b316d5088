import DriverDesk.Compile.Basic
import DriverDesk.Proofs.Plan
import DriverDesk.Proofs.Spans
import DriverDesk.Proofs.Walk

/-!
# Runs

A compile prepares a plan and then builds those parts of it whose sections the walk
comes to the end of. What it prepares does not depend on the signal, and the signal
only decides how many parts are built.
-/

namespace DriverDesk

open Build Step

variable {K σ : Type}

/-! ## Building one part after another -/

namespace Compilation

/-- Build parts in turn. -/
def buildAll (parts : List (Section × Build K σ (List (Step K)))) :
    Build K σ (List (List (Step K))) := parts.mapM (·.2)

@[simp] theorem buildAll_nil (env : BuildEnv K σ) (b : Bench σ) :
    buildAll [] env b = ([], b) := rfl

@[simp] theorem buildAll_cons (part : Section × Build K σ (List (Step K)))
    (parts : List (Section × Build K σ (List (Step K)))) (env : BuildEnv K σ) (b : Bench σ) :
    buildAll (part :: parts) env b =
      ((part.2 env b).1 :: (buildAll parts env (part.2 env b).2).1,
        (buildAll parts env (part.2 env b).2).2) := by
  unfold buildAll
  rw [List.mapM_cons]
  rfl

theorem buildAll_append (l₁ l₂ : List (Section × Build K σ (List (Step K))))
    (env : BuildEnv K σ) (b : Bench σ) :
    buildAll (l₁ ++ l₂) env b =
      ((buildAll l₁ env b).1 ++ (buildAll l₂ env (buildAll l₁ env b).2).1,
        (buildAll l₂ env (buildAll l₁ env b).2).2) := by
  induction l₁ generalizing b with
  | nil => rfl
  | cons part l₁ ih => simp only [List.cons_append, buildAll_cons, ih]

theorem length_buildAll (parts : List (Section × Build K σ (List (Step K))))
    (env : BuildEnv K σ) (b : Bench σ) : (buildAll parts env b).1.length = parts.length := by
  induction parts generalizing b with
  | nil => rfl
  | cons part parts ih => simp only [buildAll_cons, List.length_cons, ih]

theorem buildAll_gives {P : List (Step K) → Prop}
    {parts : List (Section × Build K σ (List (Step K)))}
    (h : ∀ part ∈ parts, Gives part.2 P) :
    Gives (buildAll parts) fun batches => ∀ steps ∈ batches, P steps := by
  induction parts with
  | nil => exact .pure fun _ hs => by cases hs
  | cons part parts ih =>
    intro env b
    rw [buildAll_cons]
    obtain ⟨hsteps, hb⟩ := h part (by simp) env b
    obtain ⟨hrest, hb'⟩ := ih (fun p hp => h p (by simp [hp])) env (part.2 env b).2
    refine ⟨fun steps hs => ?_, hb'.trans hb⟩
    rcases List.mem_cons.mp hs with rfl | hs
    · exact hsteps
    · exact hrest steps hs

/-- Building the first parts of a plan gives the first batches, and less on the bench. -/
theorem buildAll_take {P : List (Step K) → Prop}
    {parts : List (Section × Build K σ (List (Step K)))}
    (h : ∀ part ∈ parts, Gives part.2 P) (k : Nat) (env : BuildEnv K σ) (b : Bench σ) :
    (buildAll (parts.take k) env b).1 = (buildAll parts env b).1.take k ∧
      (buildAll parts env b).2.Extends (buildAll (parts.take k) env b).2 := by
  have happend := buildAll_append (parts.take k) (parts.drop k) env b
  rw [List.take_append_drop] at happend
  rw [happend]
  refine ⟨?_, (buildAll_gives (fun part hp => h part (List.mem_of_mem_drop hp)) env _).2⟩
  have hlength := length_buildAll (parts.take k) env b
  rw [List.length_take] at hlength
  dsimp only
  rcases Nat.le_total k parts.length with hk | hk
  · rw [List.take_left' (by omega)]
  · rw [List.drop_eq_nil_of_le hk, buildAll_nil, List.append_nil, List.take_of_length_le hk,
      List.take_of_length_le (by rw [length_buildAll]; exact hk)]

end Compilation

/-! ## The parts a walk comes to the end of -/

namespace Signal

variable (signal : Signal)

/-- The parts whose last line is passed. -/
def reached {β : Type} (parts : List (Section × β)) : List (Section × β) :=
  parts.filter fun part => signal.Passes part.1.stop

theorem reached_never {β : Type} (parts : List (Section × β)) : never.reached parts = parts :=
  List.filter_eq_self.mpr fun part _ => decide_eq_true (passes_never part.1.stop)

/-- The sections of the parts that are reached. -/
theorem map_reached {β : Type} (parts : List (Section × β)) :
    (signal.reached parts).map (·.1) =
      (parts.map (·.1)).filter fun s => signal.Passes s.stop := by
  rw [List.filter_map]; rfl

variable {signal} {β : Type} {part : Section × β} {parts : List (Section × β)} {line total : Nat}

theorem reached_cons_of_passes (h : signal.Passes part.1.stop) :
    signal.reached (part :: parts) = part :: signal.reached parts := by
  simp [reached, h]

/-- When one section is not passed, neither are those behind it. -/
theorem reached_eq_nil (h : Section.Tile line (parts.map (·.1)) total)
    (hline : ¬ signal.Passes line) : signal.reached parts = [] := by
  refine List.filter_eq_nil_iff.mpr fun part hpart => ?_
  have hlt := h.lt_stop part.1 (List.mem_map_of_mem hpart)
  simpa using fun hpass : signal.Passes part.1.stop => hline (hpass.mono (by omega))

theorem reached_cons_of_not_passes (h : Section.Tile part.1.stop (parts.map (·.1)) total)
    (hpass : ¬ signal.Passes part.1.stop) : signal.reached (part :: parts) = [] := by
  rw [← reached_eq_nil h hpass]
  simp [reached, hpass]

/-- Of sections end to end, those that are passed are the first. -/
theorem reached_prefix (h : Section.Tile line (parts.map (·.1)) total) :
    signal.reached parts <+: parts := by
  induction parts generalizing line with
  | nil => exact List.prefix_refl _
  | cons part parts ih =>
    cases h with
    | cons hs hrest =>
      by_cases hpass : signal.Passes part.1.stop
      · rw [reached_cons_of_passes hpass]
        exact (List.prefix_cons_inj part).mpr (ih hrest)
      · rw [reached_cons_of_not_passes hrest hpass]
        exact List.nil_prefix

end Signal

/-! ## The walk over the sections -/

namespace Compilation

variable (signal : Signal) (total : Nat)

theorem runParts_cons (part : Section × Build K σ (List (Step K)))
    (parts : List (Section × Build K σ (List (Step K)))) (env : BuildEnv K σ) (b : Bench σ) :
    runParts signal total (part :: parts) env b =
      let walked := signal.walk total part.1.start (part.1.stop - part.1.start)
      let after := runParts signal total parts env (part.2 env b).2
      if walked.2 then
        (⟨(part.2 env b).1 :: after.1.batches, walked.1 ++ after.1.calls, after.1.cancelled⟩,
          after.2)
      else (⟨[], walked.1, true⟩, b) := by
  obtain ⟨s, build⟩ := part
  rw [runParts]
  rcases signal.walk total s.start (s.stop - s.start) with ⟨calls, _ | _⟩
  · rfl
  · rfl

variable {signal total} {line : Nat} {parts : List (Section × Build K σ (List (Step K)))}

/-- From where the sections begin, the walk builds those it comes to the end of. -/
theorem runParts_eq (h : Section.Tile line (parts.map (·.1)) total)
    (hline : signal.Passes line) (env : BuildEnv K σ) (b : Bench σ) :
    runParts signal total parts env b =
      (⟨(buildAll (signal.reached parts) env b).1, (signal.walk total line (total - line)).1,
        !(signal.walk total line (total - line)).2⟩,
        (buildAll (signal.reached parts) env b).2) := by
  induction parts generalizing line b with
  | nil =>
    cases h
    rw [Nat.sub_self]
    rfl
  | cons part parts ih =>
    cases h with
    | cons hs hrest =>
      dsimp only at hs hrest hline ⊢
      have hle := hrest.le
      have hwalk := Signal.walk_add signal total part.1.start (part.1.stop - part.1.start)
        (total - part.1.stop)
      rw [show part.1.stop - part.1.start + (total - part.1.stop) = total - part.1.start by omega,
        show part.1.start + (part.1.stop - part.1.start) = part.1.stop by omega] at hwalk
      have hends := Signal.walk_snd_iff_passes signal total hline (Nat.le_of_lt hs)
      rw [runParts_cons, hwalk]
      by_cases hpass : signal.Passes part.1.stop
      · have hended := hends.mpr hpass
        rw [Signal.reached_cons_of_passes hpass, buildAll_cons]
        dsimp only
        rw [if_pos hended, if_pos hended, ih hrest hpass]
      · have hstopped := mt hends.mp hpass
        rw [Signal.reached_cons_of_not_passes hrest hpass, buildAll_nil]
        dsimp only
        rw [if_neg hstopped, if_neg hstopped, Bool.eq_false_iff.mpr hstopped]
        rfl

/-- The lines in front of the first section are walked before it. -/
theorem run_eq_runParts (h : Section.Tile line (parts.map (·.1)) total) (env : BuildEnv K σ)
    (b : Bench σ) :
    run signal total parts env b =
      let walked := signal.walk total 0 line
      let after := runParts signal total parts env b
      if walked.2 then (⟨after.1.batches, walked.1 ++ after.1.calls, after.1.cancelled⟩, after.2)
      else (⟨[], walked.1, true⟩, b) := by
  cases parts with
  | nil =>
    cases h
    unfold run
    rcases signal.walk total 0 total with ⟨calls, _ | _⟩
    · rfl
    · rfl
  | cons part parts =>
    obtain ⟨s, build⟩ := part
    cases h
    unfold run
    dsimp only
    rcases signal.walk total 0 s.start with ⟨calls, _ | _⟩
    · rfl
    · rfl

/-- A walk over all lines builds the parts it comes to the end of. -/
theorem run_eq (h : Section.Tile line (parts.map (·.1)) total) (env : BuildEnv K σ)
    (b : Bench σ) :
    run signal total parts env b =
      (⟨(buildAll (signal.reached parts) env b).1, (signal.walk total 0 total).1,
        !(signal.walk total 0 total).2⟩,
        (buildAll (signal.reached parts) env b).2) := by
  have hwalk := Signal.walk_add signal total 0 line (total - line)
  rw [show line + (total - line) = total by have := h.le; omega, Nat.zero_add] at hwalk
  have hends := Signal.walk_snd_iff_passes signal total signal.passes_zero (Nat.zero_le line)
  rw [Nat.sub_zero] at hends
  rw [run_eq_runParts h, hwalk]
  by_cases hpass : signal.Passes line
  · have hended := hends.mpr hpass
    dsimp only
    rw [if_pos hended, if_pos hended, runParts_eq h hpass]
  · have hstopped := mt hends.mp hpass
    rw [Signal.reached_eq_nil h hpass, buildAll_nil]
    dsimp only
    rw [if_neg hstopped, if_neg hstopped, Bool.eq_false_iff.mpr hstopped]
    rfl

/-! ## A whole compile -/

variable [Arith K]

/-- What a compile builds in. -/
def environment (source : PanelSource) (options : Options K) (files : FileView)
    (store : TextureStore σ) : BuildEnv K σ :=
  ⟨⟨source.fileName, source.trainFolder, files⟩, store, options⟩

/-- Read the preamble and the headers. -/
def prepare (format : PanelFormat) (source : PanelSource) : Build K σ (Plan K σ) := do
  let sections := Sections.ofLines source.lines
  Build.take ⟨(), preambleDiagnostics source.fileName sections.preamble⟩
  Plan.make format sections.sections

theorem prepare_gives (format : PanelFormat) (source : PanelSource) :
    Gives (prepare format source : Build K σ (Plan K σ))
      (Plan.Covers (Sections.ofLines source.lines).sections) :=
  (take_gives (P := fun _ => True) trivial).bind fun _ _ => Plan.make_gives format _

variable (format : PanelFormat) (source : PanelSource) (options : Options K) (files : FileView)
  (store : TextureStore σ) (textures : σ)

/-- The plan of a compile, and the bench that its building starts from. -/
def prepared : Plan K σ × Bench σ :=
  prepare format source (environment source options files store) ⟨textures, [], []⟩

theorem prepared_covers :
    (prepared format source options files store textures).1.Covers
      (Sections.ofLines source.lines).sections :=
  (prepare_gives format source _ _).1

theorem prepared_tile :
    ∃ line, Section.Tile line
      ((prepared format source options files store textures).1.parts.map (·.1))
      source.lines.length := by
  rw [(prepared_covers format source options files store textures).sections]
  exact Sections.tile_ofLines source.lines

/-- A compile builds the parts of its plan that the walk comes to the end of. -/
theorem compileAs_eq (signal : Signal) :
    compileAs format source options files store signal textures =
      let total := source.lines.length
      let start := prepared format source options files store textures
      let built := buildAll (signal.reached start.1.parts)
        (environment source options files store) start.2
      ⟨start.1.camera, built.1, (signal.walk total 0 total).1, !(signal.walk total 0 total).2,
        built.2⟩ := by
  obtain ⟨line, htile⟩ := prepared_tile format source options files store textures
  calc compileAs format source options files store signal textures
    _ = let start := prepared format source options files store textures
        let walked := run signal source.lines.length start.1.parts
          (environment source options files store) start.2
        ⟨start.1.camera, walked.1.batches, walked.1.calls, walked.1.cancelled, walked.2⟩ := rfl
    _ = _ := by dsimp only; rw [run_eq htile]

/-- What a compile builds, and how it leaves the bench. -/
theorem compileAs_built (signal : Signal) :
    let c := compileAs format source options files store signal textures
    let start := prepared format source options files store textures
    (c.batches, c.bench) =
      buildAll (signal.reached start.1.parts) (environment source options files store) start.2 := by
  intro c start
  rw [show c = _ from compileAs_eq format source options files store textures signal]
  rfl

theorem compileAs_camera (signal : Signal) :
    (compileAs format source options files store signal textures).camera =
      (prepared format source options files store textures).1.camera := by
  rw [compileAs_eq]

end Compilation

end DriverDesk
