import DriverDesk.Proofs.Reported
import DriverDesk.Proofs.Run

/-!
# Where diagnostics point

Every diagnostic of a compile points to a line of the panel file: to one in front of the first
section, to the header of a section, or to one of its records. The preamble, the readings and
the builders each report in one of these ways only, and the sections of a file share no line.
-/

namespace DriverDesk

open Build

variable {K σ : Type}

namespace Diagnostic

/-- What the line says that the diagnostic is about: it stands in front of the first section, or
in the one section that covers it, as the record with the key or, without one, as the header. -/
def Marks (d : Diagnostic) (parts : Sections) (line : Nat) : Prop :=
  match d.location.sectionName? with
  | none => d.location.key? = none ∧ ∃ text, (line, text) ∈ parts.preamble
  | some name => ∃ s ∈ parts.sections, s.name = name ∧ s.Covers line ∧
      (∀ s' ∈ parts.sections, s'.Covers line → s' = s) ∧
      match d.location.key? with
      | none => line = s.line ∧ ∀ r ∈ s.records, r.line ≠ line
      | some key => ∃ r ∈ s.records, r.line = line ∧ r.lowerKey = Text.lower key ∧
          ∀ r' ∈ s.records, r'.line = line → r' = r

/-- The diagnostic points to a line of the source, and is of a kind that goes with it. -/
structure Points (source : PanelSource) (d : Diagnostic) : Prop where
  file : d.location.file = source.fileName
  line : ∃ line, d.location.line? = some line ∧ 1 ≤ line ∧ line ≤ source.lines.length ∧
    d.Marks (Sections.ofLines source.lines) line
  format : d.kind = .format ↔ d.location.sectionName? = none
  critical : d.critical = true ↔ d.kind = .resource
  warning : d.severity = .warning → d.kind = .element ∨ d.kind = .format

variable {source : PanelSource} {d : Diagnostic}

/-- What stands in a section points to its line. -/
theorem Within.points {s : Section} (hs : s ∈ (Sections.ofLines source.lines).sections)
    (h : d.Within source.fileName s) : d.Points source := by
  obtain ⟨first, htile⟩ := Sections.tile_ofLines source.lines
  have hlaid := Sections.laid_ofLines source.lines s hs
  have hspan := htile.within s hs
  have hline := hlaid.line
  refine ⟨h.file, ?_, ?_, ?_, fun hwarning => .inl (h.warning hwarning)⟩
  · have covered {l : Nat} (hl : s.Covers l) : 1 ≤ l ∧ l ≤ source.lines.length := by
      obtain ⟨hstart, hstop⟩ := hl
      omega
    rcases h.place with ⟨hkey, hl⟩ | ⟨r, hr, key, hkey, hlower, hl⟩
    · have hcovers : s.Covers s.line := ⟨by omega, by omega⟩
      refine ⟨s.line, hl, (covered hcovers).1, (covered hcovers).2, ?_⟩
      rw [Marks, h.sectionName, hkey]
      refine ⟨s, hs, rfl, hcovers, fun s' hs' hl' => htile.eq_of_covers hs' hs hl' hcovers, rfl, ?_⟩
      intro r hr
      have := (hlaid.records r hr).1
      omega
    · have hrecord := hlaid.records r hr
      have hcovers : s.Covers r.line := ⟨by omega, hrecord.2⟩
      refine ⟨r.line, hl, (covered hcovers).1, (covered hcovers).2, ?_⟩
      rw [Marks, h.sectionName, hkey]
      exact ⟨s, hs, rfl, hcovers, fun s' hs' hl' => htile.eq_of_covers hs' hs hl' hcovers,
        r, hr, rfl, hlower.symm, fun r' hr' hr'l => hlaid.eq_of_line hr' hr hr'l⟩
  · simp [h.kind, h.sectionName]
  · simp [h.critical]

end Diagnostic

/-! ## The preamble -/

namespace Compilation

theorem preambleDiagnostic?_eq_some {fileName : String} {line : Nat} {text : String}
    {d : Diagnostic} (h : preambleDiagnostic? fileName line text = some d) :
    d.location = ⟨fileName, none, none, some line⟩ ∧ d.kind = .format ∧ d.critical = false := by
  unfold preambleDiagnostic? at h
  dsimp only at h
  split at h
  · split at h
    · split at h
      · cases h
      · cases h; exact ⟨rfl, rfl, rfl⟩
    · cases h; exact ⟨rfl, rfl, rfl⟩
  · cases h; exact ⟨rfl, rfl, rfl⟩

theorem preamble_points (source : PanelSource) :
    ∀ d ∈ preambleDiagnostics source.fileName (Sections.ofLines source.lines).preamble,
      d.Points source := by
  intro d hd
  obtain ⟨⟨line, text⟩, hmem, hd⟩ := List.mem_filterMap.mp hd
  obtain ⟨hlocation, hkind, hcritical⟩ := preambleDiagnostic?_eq_some hd
  obtain ⟨hone, hlast⟩ := Sections.preambleOf_lines 0 source.lines _ hmem
  rw [Nat.zero_add] at hlast
  refine ⟨by rw [hlocation], ⟨line, by rw [hlocation], hone, hlast, ?_⟩, ?_, ?_, fun _ => ?_⟩
  · rw [Diagnostic.Marks, hlocation]
    exact ⟨rfl, text, hmem⟩
  · simp [hkind, hlocation]
  · simp [hkind, hcritical]
  · exact .inr hkind

end Compilation

/-! ## Plans -/

/-- Each part of the plan reports within its section, which is one of the given ones. -/
def Plan.ReportsWithin (sections : List Section) (p : Plan K σ) : Prop :=
  ∀ part ∈ p.parts, part.1 ∈ sections ∧ ∀ env, Build.ReportsWithin env part.1 part.2

variable [Arith K] {env : BuildEnv K σ}

omit [Arith K] in
theorem Build.Reports.mono {α : Type} {D D' : Diagnostic → Prop} {x : Build K σ α}
    (hx : x.Reports env D) (h : ∀ d, D d → D' d) : x.Reports env D' := by
  intro b
  obtain ⟨notes, hnotes, hd⟩ := hx b
  exact ⟨notes, hnotes, fun d hmem => h d (hd d hmem)⟩

theorem Framed.fitted_reports {D : Diagnostic → Prop} (headings : List (Heading K)) :
    (fitted headings : Build K σ (Frame K)).Reports env D := by
  refine .read ?_
  rcases (lastBackground? headings).bind (·.path? env.read) with _ | path
  · exact .pure _
  refine Reports.get.bind fun b => ?_
  rcases env.store.imageSize? b.textures path with _ | size
  · exact .pure _
  · exact .pure _

section

variable {D : Diagnostic → Prop} {sections : List Section}
  (h : ∀ s ∈ sections, ∀ d, d.Within env.read.fileName s → D d)

include h

theorem Calibrated.readHeaders_reports :
    (readHeaders sections : Build K σ (List (Section × Option (Header K)))).Reports env D := by
  induction sections with
  | nil => exact .pure _
  | cons s rest ih =>
    have hrest := ih fun s' hs' => h s' (List.mem_cons_of_mem _ hs')
    have hs := h s List.mem_cons_self
    refine .ite ?_ (hrest.bind fun others => .pure _)
    refine Reports.bind ?_ fun header? => hrest.bind fun others => .pure _
    exact ((settings_reports Header.blames).mono hs).map

theorem Calibrated.plan_reports : (plan sections : Build K σ (Plan K σ)).Reports env D :=
  .read ((readHeaders_reports h).bind fun _ => .pure _)

theorem Framed.readHeadings_reports :
    (readHeadings sections : Build K σ (List (Section × Heading K))).Reports env D := by
  induction sections with
  | nil => exact .pure _
  | cons s rest ih =>
    have hrest := ih fun s' hs' => h s' (List.mem_cons_of_mem _ hs')
    have hs := h s List.mem_cons_self
    refine .ite ?_ (.ite ?_ (hrest.bind fun others => .pure _))
    · refine Reports.bind ?_ fun heading => hrest.bind fun others => .pure _
      exact ((settings_reports Background.blames).mono hs).map
    · refine Reports.bind ?_ fun heading => hrest.bind fun others => .pure _
      exact ((settings_reports View.blames).mono hs).map

theorem Framed.plan_reports : (plan sections : Build K σ (Plan K σ)).Reports env D :=
  .read ((readHeadings_reports h).bind fun _ => (fitted_reports _).bind fun _ => .pure _)

theorem Plan.make_reports (format : PanelFormat) :
    (Plan.make format sections : Build K σ (Plan K σ)).Reports env D := by
  cases format with
  | calibrated => exact Calibrated.plan_reports h
  | framed => exact Framed.plan_reports h

end

theorem Plan.make_parts (format : PanelFormat) (sections : List Section) :
    Gives (Plan.make format sections : Build K σ (Plan K σ)) (Plan.ReportsWithin sections) := by
  cases format with
  | calibrated =>
    refine Gives.read.bind fun env _ => ?_
    refine (Calibrated.readHeaders_gives sections).bind fun headed h => .pure fun part hp => ?_
    obtain ⟨q, hq, rfl⟩ := List.mem_map.mp hp
    exact ⟨h ▸ List.mem_map_of_mem hq, fun env => Calibrated.part_reports _ _ _⟩
  | framed =>
    refine Gives.read.bind fun env _ => ?_
    refine (Framed.readHeadings_gives sections).bind fun headed h => ?_
    refine (Framed.fitted_gives _).bind fun frame _ => .pure fun part hp => ?_
    obtain ⟨q, hq, rfl⟩ := List.mem_map.mp hp
    exact ⟨h ▸ List.mem_map_of_mem hq, fun env => Framed.part_reports _ _ _⟩

/-! ## A whole compile -/

namespace Compilation

omit [Arith K] in
theorem buildAll_reports {D : Diagnostic → Prop}
    {parts : List (Section × Build K σ (List (Step K)))}
    (h : ∀ part ∈ parts, part.2.Reports env D) : (buildAll parts).Reports env D := by
  induction parts with
  | nil => exact .pure _
  | cons part parts ih =>
    intro b
    obtain ⟨notes, hnotes, hd⟩ := h part (by simp) b
    obtain ⟨notes', hnotes', hd'⟩ := ih (fun p hp => h p (by simp [hp])) (part.2 env b).2
    rw [buildAll_cons]
    refine ⟨notes ++ notes', ?_, fun d hmem => ?_⟩
    · rw [hnotes', hnotes, List.append_assoc]
    · rcases List.mem_append.mp hmem with hmem | hmem
      · exact hd d hmem
      · exact hd' d hmem

theorem prepare_reports {D : Diagnostic → Prop} (format : PanelFormat) (source : PanelSource)
    (hpreamble : ∀ d ∈ preambleDiagnostics source.fileName
      (Sections.ofLines source.lines).preamble, D d)
    (hsections : ∀ s ∈ (Sections.ofLines source.lines).sections, ∀ d,
      d.Within env.read.fileName s → D d) :
    (prepare format source : Build K σ (Plan K σ)).Reports env D := by
  have hread : Noted.Reports D
      ⟨(), preambleDiagnostics source.fileName (Sections.ofLines source.lines).preamble⟩ :=
    hpreamble
  exact (take_reports hread).bind fun _ => Plan.make_reports hsections format

theorem prepare_parts (format : PanelFormat) (source : PanelSource) :
    Gives (prepare format source : Build K σ (Plan K σ))
      (Plan.ReportsWithin (Sections.ofLines source.lines).sections) :=
  (take_gives (P := fun _ => True) trivial).bind fun _ _ => Plan.make_parts format _

/-- What holds of all diagnostics of the preamble, and of all that stand in a section, holds of
all diagnostics of a compile. -/
theorem forall_mem_diagnostics {D : Diagnostic → Prop} (format : PanelFormat)
    (source : PanelSource) (options : Options K) (files : FileView) (store : TextureStore σ)
    (signal : Signal) (textures : σ)
    (hpreamble : ∀ d ∈ preambleDiagnostics source.fileName
      (Sections.ofLines source.lines).preamble, D d)
    (hsections : ∀ s ∈ (Sections.ofLines source.lines).sections, ∀ d,
      d.Within source.fileName s → D d) :
    ∀ d ∈ (compileAs format source options files store signal textures).bench.diagnostics,
      D d := by
  intro d hd
  let env := environment source options files store
  let start := prepared format source options files store textures
  have hreports : (prepare format source).Reports env D :=
    prepare_reports format source hpreamble hsections
  obtain ⟨notes, hnotes, hprepared⟩ := hreports ⟨textures, [], []⟩
  have hparts : ∀ part ∈ signal.reached start.1.parts, part.2.Reports env D :=
    fun part hpart => by
      have h := (prepare_parts format source env ⟨textures, [], []⟩).1 part
        (List.mem_filter.mp hpart).1
      exact (h.2 env).mono (hsections part.1 h.1)
  obtain ⟨notes', hnotes', hbuilt⟩ := buildAll_reports hparts start.2
  rw [compileAs_eq] at hd
  have hbench := hnotes'.trans (congrArg (· ++ notes') hnotes)
  rcases List.mem_append.mp (hbench ▸ hd) with hd | hd
  · exact hprepared d hd
  · exact hbuilt d hd

/-- No diagnostic of a compile points to an empty line. -/
theorem filled_of_mem_diagnostics (format : PanelFormat) (source : PanelSource)
    (options : Options K) (files : FileView) (store : TextureStore σ) (signal : Signal)
    (textures : σ) :
    ∀ d ∈ (compileAs format source options files store signal textures).bench.diagnostics,
      ∃ line, d.location.line? = some line ∧ Sections.Filled 0 source.lines line := by
  refine forall_mem_diagnostics format source options files store signal textures ?_ ?_
  · intro d hd
    obtain ⟨⟨line, text⟩, hmem, hd⟩ := List.mem_filterMap.mp hd
    have hfilled := Sections.filled_preambleOf 0 source.lines _ hmem
    exact ⟨line, by rw [(preambleDiagnostic?_eq_some hd).1], hfilled⟩
  · intro s hs d hd
    obtain ⟨hheader, hrecords⟩ := (Sections.filled_cutFrom 0 source.lines).2 s hs
    rcases hd.place with ⟨-, hline⟩ | ⟨r, hr, -, -, -, hline⟩
    · exact ⟨s.line, hline, hheader⟩
    · exact ⟨r.line, hline, hrecords r hr⟩

/-- Every diagnostic of a compile points to a line of the panel file. -/
theorem diagnostics_point (format : PanelFormat) (source : PanelSource) (options : Options K)
    (files : FileView) (store : TextureStore σ) (signal : Signal) (textures : σ) :
    let c := compileAs format source options files store signal textures
    ∀ d ∈ c.bench.diagnostics, d.Points source := by
  intro c d hd
  have hsections : ∀ s ∈ (Sections.ofLines source.lines).sections, ∀ d : Diagnostic,
      d.Within source.fileName s → d.Points source := fun s hs d hd => hd.points hs
  exact forall_mem_diagnostics format source options files store signal textures
    (preamble_points source) hsections d hd

end Compilation

end DriverDesk
