import DriverDesk.Host.Memory
import DriverDesk.Proofs.CalibratedPieces
import DriverDesk.Proofs.FramedPieces
import DriverDesk.Proofs.Merging
import DriverDesk.Proofs.Stopping

/-!
# Accounting for sections

Every section that a compile builds makes what its pieces come to, in the order of the file.
From this it follows that no instrument is lost without an error or made twice, and that all
elements are sound.
-/

namespace DriverDesk

open Build Step

variable {K σ : Type} [Arith K]

/-! ## Plans -/

/-- The pieces of a section of a panel. -/
def PanelFormat.piecesOf (env : ReadEnv) (store : TextureStore σ) (s : Section) :
    PanelFormat → List (Piece K)
  | .calibrated => Calibrated.piecesOf env s
  | .framed => Framed.piecesOf env store s

/-- Each part of the plan leaves steps with `P`, which may speak of its section and of the fault
that the section has. -/
def Plan.PartsLeave (env : BuildEnv K σ) (P : Section → Prop → List (Step K) → Prop)
    (p : Plan K σ) : Prop :=
  ∀ part ∈ p.parts, ∀ fault, Leaves env part.1 fault part.2 (P part.1 fault)

/-- Each part of the plan makes the pieces of its section. -/
def Plan.Makes (env : BuildEnv K σ) (format : PanelFormat) (p : Plan K σ) : Prop :=
  ∀ part ∈ p.parts, ∀ fault,
    Leaves env part.1 fault part.2 (Step.Makes fault (format.piecesOf env.read env.store part.1))

variable {env : BuildEnv K σ} {t : σ}

/-- What the sections of each format leave, the parts of its plans do. -/
theorem Plan.make_leaves {P : PanelFormat → Section → Prop → List (Step K) → Prop}
    (hcalibrated : ∀ space key s fault,
      Leaves env s fault (Calibrated.part space key s (Calibrated.header? env.read s))
        (P .calibrated s fault))
    (hframed : ∀ space frame s fault,
      Leaves env s fault (Framed.part space frame s (Framed.heading env.read s))
        (P .framed s fault))
    (format : PanelFormat) (sections : List Section) :
    Asks env t (Plan.make format sections) (Quietly (Plan.PartsLeave env (P format))) := by
  cases format with
  | calibrated =>
    refine (Calibrated.plan_asks_eq sections).mono fun plan _ ⟨hrs, hplan⟩ => ⟨hrs, ?_⟩
    subst hplan
    intro part hpart fault
    obtain ⟨s, -, rfl⟩ := List.mem_map.mp hpart
    exact hcalibrated _ _ s fault
  | framed =>
    refine (Framed.plan_asks_eq sections).mono fun plan _ ⟨hrs, hplan⟩ => ⟨hrs, ?_⟩
    subst hplan
    intro part hpart fault
    obtain ⟨s, -, rfl⟩ := List.mem_map.mp hpart
    exact hframed _ _ s fault

theorem Plan.make_makes (format : PanelFormat) (sections : List Section) :
    Asks env t (Plan.make format sections) (Quietly (Plan.Makes env format)) :=
  Plan.make_leaves (t := t)
    (P := fun format s fault => Step.Makes fault (format.piecesOf env.read env.store s))
    (fun _ _ _ _ => Calibrated.part_leaves _ _) (fun _ _ _ _ => Framed.part_leaves _ _)
    format sections

/-! ## Building one part after another -/

namespace Compilation

omit [Arith K] in
/-- What is known of each part holds of its steps, with the marks on a bench that comes later. -/
theorem buildAll_notices {m : Section → Bench.Mark σ} {P : Section → Prop → List (Step K) → Prop}
    {parts : List (Section × Build K σ (List (Step K)))}
    (h : ∀ part ∈ parts, ∀ seen, Notices env (m part.1) seen part.2 (P part.1 seen))
    (b : Bench σ) :
    (buildAll parts env b).2.Extends b ∧ ∀ last : Bench σ, last.Extends (buildAll parts env b).2 →
      List.Forall₂ (fun s steps => P s ((m s).Shown last) steps) (parts.map (·.1))
        (buildAll parts env b).1 := by
  induction parts generalizing b with
  | nil => exact ⟨.refl b, fun _ _ => .nil⟩
  | cons part parts ih =>
    obtain ⟨hrest, hall⟩ := ih (fun p hp => h p (List.mem_cons_of_mem _ hp)) (part.2 env b).2
    rw [buildAll_cons]
    refine ⟨hrest.trans (h part List.mem_cons_self True b).1, fun last hlast => ?_⟩
    refine .cons ((h part List.mem_cons_self _ b).2 fun hshown => ?_) (hall last hlast)
    exact (m part.1).extends_shown (hlast.trans hrest) hshown

variable (format : PanelFormat) (source : PanelSource) (options : Options K) (files : FileView)
  (store : TextureStore σ) (signal : Signal) (textures : σ)

/-- What the plan of a compile has on every bench. -/
theorem prepared_asks {P : Plan K σ → Prop}
    (h : Asks (environment source options files store) textures
      (Plan.make format (Sections.ofLines source.lines).sections) (Quietly P)) :
    P (prepared format source options files store textures).1 := by
  have hprepare : Asks (environment source options files store) textures
      (prepare format source) (Quietly P) :=
    (take_asks _).bindQuiet fun _ _ => h
  obtain ⟨_, -, -, hplan⟩ := hprepare ⟨textures, [], []⟩ rfl
  exact hplan

/-- The sections that a compile builds are the first ones, all of them if it is not cancelled,
and their steps are as the plan has them, with the marks that the bench shows in the end. -/
theorem sections_notice {m : Section → Bench.Mark σ}
    {P : Section → Prop → List (Step K) → Prop}
    (hplan : ∀ part ∈ (prepared format source options files store textures).1.parts, ∀ seen,
      Notices (environment source options files store) (m part.1) seen part.2 (P part.1 seen)) :
    let c := compileAs format source options files store signal textures
    let sections := (Sections.ofLines source.lines).sections
    ∃ built, built <+: sections ∧ (c.cancelled = false → built = sections) ∧
      List.Forall₂ (fun s steps => P s ((m s).Shown c.bench) steps) built c.batches := by
  intro c sections
  let env := environment source options files store
  let start := prepared format source options files store textures
  obtain ⟨line, htile⟩ := prepared_tile format source options files store textures
  have hsections : start.1.parts.map (·.1) = sections :=
    (prepared_covers format source options files store textures).sections
  have hbuilt : (c.batches, c.bench) = buildAll (signal.reached start.1.parts) env start.2 :=
    compileAs_built format source options files store textures signal
  refine ⟨(signal.reached start.1.parts).map (·.1), ?_, fun hcancelled => ?_, ?_⟩
  · rw [← hsections]
    exact (Signal.reached_prefix htile).map _
  · rw [reached_of_not_cancelled source options files store signal textures format hcancelled,
      hsections]
  · have hparts : ∀ part ∈ signal.reached start.1.parts, ∀ seen,
        Notices env (m part.1) seen part.2 (P part.1 seen) :=
      fun part hpart => hplan part (List.mem_filter.mp hpart).1
    have hnotice := (buildAll_notices hparts start.2).2 _ (.refl _)
    rw [← hbuilt] at hnotice
    exact hnotice

/-- The sections that a compile builds, and the faults that they have in the end. -/
theorem sections_leave {P : Section → Prop → List (Step K) → Prop}
    (hplan : (prepared format source options files store textures).1.PartsLeave
      (environment source options files store) P) :
    let c := compileAs format source options files store signal textures
    let sections := (Sections.ofLines source.lines).sections
    ∃ built, built <+: sections ∧ (c.cancelled = false → built = sections) ∧
      List.Forall₂ (fun s steps => P s (c.bench.Faulted source.fileName s) steps)
        built c.batches :=
  sections_notice format source options files store signal textures
    (m := .faultOf source.fileName) hplan

/-- The sections that a compile builds are the first ones, all of them if it is not cancelled.
Each makes the pieces it has, and what they make stands in their order. -/
theorem sections_make :
    let c := compileAs format source options files store signal textures
    let sections := (Sections.ofLines source.lines).sections
    let env := environment source options files store
    ∃ built, built <+: sections ∧ (c.cancelled = false → built = sections) ∧
      List.Forall₂ (fun s steps => Step.Makes (c.bench.Faulted source.fileName s)
        (format.piecesOf env.read store s) steps) built c.batches ∧
      ∀ cars : Cars K, (c.commit cars options.car).2.elements options.car =
        cars.elements options.car ++ c.batches.flatMap made := by
  intro c sections env
  have hplan := prepared_asks format source options files store textures
    (Plan.make_makes format _)
  obtain ⟨built, hprefix, hall, hmake⟩ := sections_leave format source options files store signal
    textures (P := fun s fault => Step.Makes fault (format.piecesOf env.read store s)) hplan
  exact ⟨built, hprefix, hall, hmake, fun cars => elements_commit
    (batches_assembled format source options files store signal textures) cars options.car⟩

end Compilation

/-! ## Calibrated panels -/

namespace Calibrated

/-- What a section of a calibrated panel may add: an instrument one element of its kind, or
none for a fault; a header at most one background; any other section nothing. -/
def Adds (fault : Prop) (s : Section) (es : List (Element K)) : Prop :=
  match kindOf? s.lowerName with
  | some kind => (∃ e, es = [e] ∧ e.kind = kind) ∨ (es = [] ∧ fault)
  | none => if s.isThis then es = [] ∨ ∃ e, es = [e] ∧ e.kind = .background else es = []

theorem adds_of_makes {env : ReadEnv} {fault : Prop} {s : Section} {steps : List (Step K)}
    (h : Makes fault (piecesOf env s) steps) : Adds fault s (made steps) := by
  obtain ⟨-, es, hes, hmade⟩ := h
  rw [hmade]
  unfold piecesOf header? at hes
  by_cases hthis : s.isThis = true
  · have hkind : kindOf? s.lowerName = none := by
      rw [show s.lowerName = "this" from beq_iff_eq.mp hthis]
      rfl
    rw [if_pos hthis] at hes
    rw [Adds, hkind]
    dsimp only
    rw [if_pos hthis]
    obtain ⟨e?, _, he, ⟨⟩, rfl⟩ := List.forall₂_cons_left_iff.mp hes
    cases e? with
    | none => exact .inl rfl
    | some e => exact .inr ⟨e, rfl, he.2⟩
  · rw [if_neg hthis] at hes
    dsimp only at hes
    unfold Adds
    cases hkind : kindOf? s.lowerName with
    | none =>
      rw [hkind] at hes
      cases hes
      exact (if_neg hthis).mpr rfl
    | some kind =>
      rw [hkind] at hes
      obtain ⟨e?, _, he, ⟨⟩, rfl⟩ := List.forall₂_cons_left_iff.mp hes
      cases e? with
      | none => exact .inr ⟨rfl, he trivial⟩
      | some e => exact .inl ⟨e, rfl, he.2⟩

end Calibrated

namespace Compilation

/-- No instrument of a calibrated panel is lost without an error that stands in its section, or
made twice. The sections that are built are the first ones, all of them if the compile is not
cancelled, and what they add stands in their order. -/
theorem calibrated_sections_add (source : PanelSource) (options : Options K) (files : FileView)
    (store : TextureStore σ) (signal : Signal) (textures : σ) :
    let c := compileAs .calibrated source options files store signal textures
    let sections := (Sections.ofLines source.lines).sections
    ∃ built, built <+: sections ∧ (c.cancelled = false → built = sections) ∧
      List.Forall₂ (fun s steps =>
        Calibrated.Adds (c.bench.Faulted source.fileName s) s (made steps)) built c.batches ∧
      ∀ cars : Cars K, (c.commit cars options.car).2.elements options.car =
        cars.elements options.car ++ c.batches.flatMap made := by
  intro c sections
  obtain ⟨built, hprefix, hall, hmake, hstand⟩ :=
    sections_make .calibrated source options files store signal textures
  exact ⟨built, hprefix, hall, hmake.imp fun s steps h => Calibrated.adds_of_makes h, hstand⟩

/-! ## Framed panels -/

/-- No piece of a framed panel is lost without an error that stands in its section, if it is
asked for: by the last record with its keys or by the kind of the section. Two slips apart: a
needle with an empty colour component and signal lamps without a frame do not count as asked
for, since nothing is said when they are left out. The pieces of a section stand one after the
other, and the sections in their order. -/
theorem framed_sections_make (source : PanelSource) (options : Options K) (files : FileView)
    (store : TextureStore σ) (signal : Signal) (textures : σ) :
    let c := compileAs .framed source options files store signal textures
    let sections := (Sections.ofLines source.lines).sections
    let env := environment source options files store
    ∃ built, built <+: sections ∧ (c.cancelled = false → built = sections) ∧
      List.Forall₂ (fun s steps => Makes (c.bench.Faulted source.fileName s)
        (Framed.piecesOf env.read store s) steps) built c.batches ∧
      ∀ cars : Cars K, (c.commit cars options.car).2.elements options.car =
        cars.elements options.car ++ c.batches.flatMap made :=
  sections_make .framed source options files store signal textures

/-- The two slips. A needle whose colour has an empty component, and signal lamps in a sheet that
is narrower than high, are left out of a panel that is read to its end, and nothing is said. -/
theorem needle_and_signals_lost :
    let files : List MemoryFile :=
      [⟨⟨"Stock/needle_pressuregauge_lower.png"⟩, some ⟨16, 64⟩, none⟩,
        ⟨⟨"Stock/needle_speedometer.png"⟩, some ⟨16, 64⟩, none⟩,
        ⟨⟨"Train/atc.bmp"⟩, some ⟨16, 24⟩, none⟩]
    let panel := fun text => compileAs .framed (.ofText ⟨"Train/panel.cfg"⟩ ⟨"Train"⟩ text)
      (Options.standard (K := Float)) (Memory.view files ⟨"Stock"⟩) (Memory.store files) .never []
    let gauge := panel "[PressureGauge]\nLowerNeedle = bc, 255, , 0\n"
    let speedometer := panel "[Speedometer]\nAtc = atc.bmp\n"
    gauge.cancelled = false ∧ gauge.added.length = 0 ∧ gauge.bench.diagnostics = [] ∧
      speedometer.cancelled = false ∧ speedometer.added.length = 1 ∧
      speedometer.bench.diagnostics = [] := by
  decide +kernel

/-! ## All panels -/

/-- Every element that a compile adds is sound. -/
theorem added_sound (format : PanelFormat) (source : PanelSource) (options : Options K)
    (files : FileView) (store : TextureStore σ) (signal : Signal) (textures : σ)
    (cars : Cars K) :
    let c := compileAs format source options files store signal textures
    let after := (c.commit cars options.car).2
    ∀ e ∈ (after.elements options.car).drop (cars.elements options.car).length, e.Sound := by
  intro c after e he
  have hadded : e ∈ c.added := by
    rw [elements_commit (batches_assembled format source options files store signal textures)
      cars options.car, List.drop_left] at he
    exact he
  obtain ⟨steps, hsteps, hmade⟩ := List.mem_flatMap.mp hadded
  obtain ⟨built, -, -, hmake, -⟩ :=
    sections_make format source options files store signal textures
  have hsound : List.Forall₂ (fun steps (_ : Section) => (∀ e ∈ made steps, e.Sound) ∧ True)
      c.batches built :=
    (hmake.imp fun s steps h => ⟨h.sound, trivial⟩).flip
  exact ((List.forall₂_and_left _ _).mp hsound).1 steps hsteps e hmade

end Compilation

end DriverDesk
