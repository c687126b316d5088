import DriverDesk.Proofs.Complaints
import DriverDesk.Proofs.Readings
import DriverDesk.Proofs.Postfix

/-!
# Places of diagnostics

What is reported while a section is read and built stands in the section: at its header, or at
the record that gave the value. `x.Reports env D` says of work in one environment that it only
adds diagnostics with `D` to the bench. It goes through binds, so that each builder is gone
through once.
-/

namespace DriverDesk

variable {K σ : Type}

/-- The diagnostic stands at the header of the section, or at a record with its key. -/
structure Diagnostic.Within (file : String) (s : Section) (d : Diagnostic) : Prop where
  file : d.location.file = file
  sectionName : d.location.sectionName? = some s.name
  place : (d.location.key? = none ∧ d.location.line? = some s.line) ∨
    ∃ r ∈ s.records, ∃ key, d.location.key? = some key ∧ Text.lower key = r.lowerKey ∧
      d.location.line? = some r.line
  kind : d.kind ≠ .format
  critical : d.critical = (d.kind == .resource)
  warning : d.severity = .warning → d.kind = .element

/-- An error of a record stands at it. -/
theorem RecordAt.Blamed.within {env : ReadEnv} {s : Section} {r : Record} {d : Diagnostic}
    (h : Blamed ⟨env, s.name, r⟩ d) (hr : r ∈ s.records) : d.Within env.fileName s := by
  obtain ⟨hlocation, hseverity, hkind, hcritical⟩ := h
  refine ⟨by rw [hlocation]; rfl, by rw [hlocation]; rfl, .inr ⟨r, hr, r.key, ?_, rfl, ?_⟩, ?_,
    hcritical, ?_⟩
  · rw [hlocation]; rfl
  · rw [hlocation]; rfl
  · rcases hkind with hkind | hkind <;> simp [hkind]
  · simp [hseverity]

namespace Build

/-- In the environment, `x` adds diagnostics with `D` to the bench, and no others. -/
def Reports {α : Type} (env : BuildEnv K σ) (D : Diagnostic → Prop) (x : Build K σ α) : Prop :=
  ∀ b, ∃ notes, (x env b).2.diagnostics = b.diagnostics ++ notes ∧ ∀ d ∈ notes, D d

variable {env : BuildEnv K σ} {D : Diagnostic → Prop}

namespace Reports

variable {α β : Type} {x : Build K σ α} {f : α → Build K σ β}

theorem pure (a : α) : Reports env D (Pure.pure a) :=
  fun _ => ⟨[], (List.append_nil _).symm, fun _ hd => nomatch hd⟩

theorem bindValue (hx : Reports env D x) (hf : ∀ b, Reports env D (f (x env b).1)) :
    Reports env D (x >>= f) := by
  intro b
  obtain ⟨notes, hnotes, h⟩ := hx b
  obtain ⟨notes', hnotes', h'⟩ := hf b (x env b).2
  refine ⟨notes ++ notes', ?_, fun d hd => ?_⟩
  · rw [← List.append_assoc, ← hnotes]
    exact hnotes'
  · rcases List.mem_append.mp hd with hd | hd
    · exact h d hd
    · exact h' d hd

theorem bind (hx : Reports env D x) (hf : ∀ a, Reports env D (f a)) : Reports env D (x >>= f) :=
  hx.bindValue fun _ => hf _

/-- What follows work that may have no value. -/
theorem bindOption {x : Build K σ (Option α)} {f : Option α → Build K σ β}
    (hx : Reports env D x) (hnone : Reports env D (f none))
    (hsome : ∀ a, Reports env D (f (some a))) : Reports env D (x >>= f) := by
  refine hx.bind fun a? => ?_
  cases a? with
  | none => exact hnone
  | some a => exact hsome a

/-- What follows a look at the environment. -/
theorem read {f : BuildEnv K σ → Build K σ β} (h : Reports env D (f env)) :
    Reports env D (MonadReader.read >>= f) := fun b => h b

theorem get : Reports env D (MonadState.get : Build K σ (Bench σ)) :=
  fun _ => ⟨[], (List.append_nil _).symm, fun _ hd => nomatch hd⟩

theorem map {g : α → β} (hx : Reports env D x) : Reports env D (g <$> x) := fun b => hx b

theorem ite {c : Prop} [Decidable c] {y : Build K σ α} (hx : Reports env D x)
    (hy : Reports env D y) : Reports env D (if c then x else y) := by
  split
  · exact hx
  · exact hy

/-- Something done or left out before the rest. -/
theorem when {c : Prop} [Decidable c] {y : Build K σ Unit} {rest : Unit → Build K σ α}
    (hy : Reports env D y) (h : Reports env D (rest ())) :
    Reports env D (if c then y >>= rest else rest ()) :=
  ite (hy.bind fun _ => h) h

end Reports

/-! ## The ways of working on a bench -/

theorem take_reports {α : Type} {x : Noted α} (h : x.Reports D) :
    Reports env D (take x : Build K σ α) :=
  fun _ => ⟨x.notes, rfl, h⟩

theorem report_reports {d : Diagnostic} (h : D d) : Reports env D (report d : Build K σ Unit) :=
  take_reports (Noted.reports_report h)

theorem register_reports (path : Path) (params : TextureParams) :
    Reports env D (register path params : Build K σ (Option TextureId)) :=
  fun _ => ⟨[], (List.append_nil _).symm, fun _ hd => nomatch hd⟩

/-- A strip reports what its frames do. -/
theorem strip_reports {frame : Nat → Build K σ (Option (ElementState K))}
    {first : ElementState K → Element K} (h : ∀ i, Reports env D (frame i)) (count index : Nat) :
    Reports env D (strip frame first count index) := by
  induction count generalizing index with
  | zero => exact .pure _
  | succ count ih =>
    refine (h index).bindOption (.pure _) fun state => ?_
    exact (ih (index + 1)).bind fun _ => .pure _

/-- In the environment, what `x` reports stands in the section. -/
abbrev ReportsWithin {α : Type} (env : BuildEnv K σ) (s : Section) (x : Build K σ α) : Prop :=
  x.Reports env (Diagnostic.Within env.read.fileName s)

variable {s : Section}

theorem complain_reports (message : String) :
    ReportsWithin env s (complain s message : Build K σ Unit) :=
  .read (report_reports ⟨rfl, rfl, .inl ⟨rfl, rfl⟩, nofun, rfl, nofun⟩)

theorem warn_reports (message : String) :
    ReportsWithin env s (warn s message : Build K σ Unit) :=
  .read (report_reports ⟨rfl, rfl, .inl ⟨rfl, rfl⟩, nofun, rfl, fun _ => rfl⟩)

theorem giveUp_reports {α : Type} (message : String) :
    ReportsWithin env s (giveUp s message : Build K σ (List α)) :=
  (complain_reports message).bind fun _ => .pure _

theorem stockImage_reports (image : String) :
    ReportsWithin env s (stockImage s image : Build K σ _) := by
  refine .read (.ite (.pure _) ?_)
  refine (report_reports ?_).bind fun _ => .pure _
  exact ⟨rfl, rfl, .inl ⟨rfl, rfl⟩, nofun, rfl, nofun⟩

theorem settings_reports {α : Type} [Readable α] (h : Readable.Blames α) :
    ReportsWithin env s (settings α s : Build K σ α) := by
  refine .read (take_reports fun d hd => ?_)
  obtain ⟨r, hr, hblamed⟩ := s.read_blames h env.read d hd
  exact hblamed.within hr

section

variable [Arith K]

theorem texture_reports (path : Path) (params : TextureParams) :
    ReportsWithin env s (texture s path params : Build K σ _) := by
  have found (x : Option (TextureId × Point K)) :
      ReportsWithin env s (do
        if x.isNone then complain s ("Texture " ++ path.text ++ " could not be loaded")
        Pure.pure x : Build K σ _) :=
    .when (complain_reports _) (.pure _)
  refine (register_reports path params).bind fun id? => ?_
  cases id? with
  | none => exact found none
  | some id => exact .read (Reports.get.bind fun b => found _)

theorem optionalTexture_reports (path? : Option Path) (params : TextureParams) :
    ReportsWithin env s (optionalTexture s path? params : Build K σ _) := by
  cases path? with
  | none => exact .pure _
  | some path => exact (texture_reports path params).bind fun _ => .pure _

theorem imageSize_reports (path : Path) :
    ReportsWithin env s (imageSize s path : Build K σ _) :=
  .read (Reports.get.bind fun _ => .when (complain_reports _) (.pure _))

theorem quadState_reports (space : Space K) (rect : Rect K) (pivot : Point K) (depth : K)
    (m : Material) :
    ReportsWithin env s (quadState s space rect pivot depth m : Build K σ _) := by
  unfold quadState
  exact .when (warn_reports _) (.pure _)

end

end Build

/-! ## Subjects -/

/-- A subject that a record of the section gives, or the one of a section that gives none. -/
def SubjectSetting.GivenIn (s : Section) (x : SubjectSetting) : Prop :=
  x = .standard ∨ ∃ r ∈ s.records, r.lowerKey = "subject" ∧ x.line? = some r.line

section

variable [Arith K]

theorem Subject.expression_reports (cars : Nat) (subject : String) (l : Location) :
    (expression (K := K) cars subject l).Reports
      (· = .ofKind .field ("Invalid subject " ++ subject) l) := by
  unfold expression
  obtain ⟨base, digit⟩ := splitDigit (String.ofList (Text.trim subject.toList))
  cases hr : resolve? (K := K) cars base <;> cases digit <;>
    simp [Noted.Reports, Noted.report, hr]

/-- The subject of a section that gives none is known. -/
theorem Subject.notes_true (cars : Nat) (l : Location) :
    (expression (K := K) cars "true" l).notes = [] := by
  have htrim : String.ofList (Text.trim "true".toList) = "true" := by decide
  have hlower : Text.asciiLower "true" = "true" := by decide
  have hsplit : splitDigit "true" = ("true", none) := by decide
  have hresolve : resolve? (K := K) cars "true" = some [.integer 1] := by
    rw [resolve?, htrim, hlower]
    rfl
  unfold expression
  rw [htrim, hsplit]
  simp only [hresolve]
  rfl

theorem Build.subject_reports {env : BuildEnv K σ} {s : Section} {x : SubjectSetting}
    (h : x.GivenIn s) :
    ReportsWithin env s (subject s x.name x.line? : Build K σ (Expr K)) := by
  refine .read (take_reports fun d hd => ?_)
  rcases h with rfl | ⟨r, hr, hkey, hline⟩
  · rw [show SubjectSetting.standard.name = "true" from rfl, Subject.notes_true] at hd
    cases hd
  · have hlower : Text.lower "Subject" = r.lowerKey := by rw [hkey]; decide
    have hgiven : x.line?.getD s.line = r.line := by rw [hline]; rfl
    rw [Subject.expression_reports _ _ _ d hd]
    exact ⟨rfl, rfl, .inr ⟨r, hr, "Subject", rfl, hlower, congrArg some hgiven⟩, nofun, rfl, nofun⟩

end

end DriverDesk
