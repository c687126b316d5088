import DriverDesk.Build.Basic
import DriverDesk.PanelFile.Setting

/-!
# Moved lines

`move` renumbers the lines that diagnostics point to. A second way of reading or building
echoes a first one when their values are related and what it says answers to what the first
one says; the same notes with their lines renumbered always do. Echoes go through binds, so a
builder is gone through once.
-/

namespace DriverDesk

variable {K σ : Type} (shift : Nat → Nat)

/-! ## What has a line -/

def Location.move (l : Location) : Location := { l with line? := l.line?.map shift }

def Diagnostic.move (d : Diagnostic) : Diagnostic := { d with location := d.location.move shift }

def Record.move (r : Record) : Record := { r with line := shift r.line }

def RecordAt.move (c : RecordAt) : RecordAt := { c with record := c.record.move shift }

def SubjectSetting.move (s : SubjectSetting) : SubjectSetting :=
  { s with line? := s.line?.map shift }

/-- The second section is the first on another line, as far as builders look at it. -/
structure Section.Moved (s s' : Section) : Prop where
  name : s'.name = s.name
  line : s'.line = shift s.line

/-! ## Reading -/

/-- The second value says what the first one does, with its lines moved. -/
structure Noted.Moves {α β : Type} (R : α → β → Prop) (x : Noted α) (y : Noted β) : Prop where
  value : R x.value y.value
  notes : y.notes = x.notes.map (·.move shift)

variable {shift}

namespace Noted.Moves

variable {α α' β β' : Type} {R : α → α' → Prop} {S : β → β' → Prop}

theorem pure {a : α} {a' : α'} (h : R a a') :
    Noted.Moves shift R (Pure.pure a) (Pure.pure a') := ⟨h, rfl⟩

theorem bind {x : Noted α} {x' : Noted α'} {f : α → Noted β} {f' : α' → Noted β'}
    (hx : Noted.Moves shift R x x') (hf : ∀ a a', R a a' → Noted.Moves shift S (f a) (f' a')) :
    Noted.Moves shift S (x >>= f) (x' >>= f') := by
  have h := hf _ _ hx.value
  refine ⟨h.value, ?_⟩
  rw [Noted.notes_bind, Noted.notes_bind, hx.notes, h.notes, List.map_append]

/-- What follows a value that does not move. -/
theorem bindEq {x x' : Noted α} {f f' : α → Noted β} (hx : Noted.Moves shift Eq x x')
    (hf : ∀ a, Noted.Moves shift Eq (f a) (f' a)) : Noted.Moves shift Eq (x >>= f) (x' >>= f') :=
  hx.bind fun a _ h => h ▸ hf a

theorem report (d : Diagnostic) :
    Noted.Moves shift Eq (Noted.report d) (Noted.report (d.move shift)) :=
  ⟨rfl, rfl⟩

theorem refuse (d : Diagnostic) :
    Noted.Moves shift Eq (Noted.refuse d : Noted (Option α)) (Noted.refuse (d.move shift)) :=
  ⟨rfl, rfl⟩

end Noted.Moves

/-- A subject is one expression wherever it is given. -/
theorem Subject.expression_moves [Arith K] (cars : Nat) (subject : String) (l : Location) :
    Noted.Moves shift Eq (Subject.expression (K := K) cars subject l)
      (Subject.expression cars subject (l.move shift)) := by
  unfold Subject.expression
  obtain ⟨base, digit⟩ := Subject.splitDigit (String.ofList (Text.trim subject.toList))
  cases hr : Subject.resolve? (K := K) cars base with
  | some e =>
    cases digit with
    | some n => constructor <;> simp [hr]
    | none => constructor <;> simp [hr]
  | none =>
    have hnotes : (Noted.report (.ofKind .field ("Invalid subject " ++ subject)
        (l.move shift))).notes =
        (Noted.report (.ofKind .field ("Invalid subject " ++ subject) l)).notes.map
          (·.move shift) := rfl
    cases digit with
    | some n => constructor <;> simp [hr, hnotes]
    | none => constructor <;> simp [hr, hnotes]

/-! ## Echoes -/

/-- How what is said a second time, with the lines of the file renumbered, answers to what is
said a first time. -/
structure Echo (shift : Nat → Nat) where
  Answers : List Diagnostic → List Diagnostic → Prop
  /-- The same notes with their lines moved are an answer. -/
  moved : ∀ notes, Answers notes (notes.map (·.move shift))
  append : ∀ {notes notes' more more' : List Diagnostic}, Answers notes notes' →
    Answers more more' → Answers (notes ++ more) (notes' ++ more')

/-- Nothing answers but the same notes with their lines moved. -/
def Echo.exact (shift : Nat → Nat) : Echo shift where
  Answers notes notes' := notes' = notes.map (·.move shift)
  moved _ := rfl
  append h h' := by rw [h, h', List.map_append]

/-- The benches have the same textures, and what lies on the second answers to what lies on
the first. -/
structure Bench.Echoes (T : Echo shift) (b b' : Bench σ) : Prop where
  textures : b'.textures = b.textures
  registrations : b'.registrations = b.registrations
  diagnostics : T.Answers b.diagnostics b'.diagnostics

theorem Bench.echoes_nil (T : Echo shift) (textures : σ) :
    Bench.Echoes T ⟨textures, [], []⟩ ⟨textures, [], []⟩ := ⟨rfl, rfl, T.moved []⟩

/-- The values are related, and the second one's notes answer to the first one's. -/
structure Noted.Echoes {α β : Type} (T : Echo shift) (R : α → β → Prop) (x : Noted α)
    (y : Noted β) : Prop where
  value : R x.value y.value
  notes : T.Answers x.notes y.notes

theorem Noted.Moves.echoes {α β : Type} {R : α → β → Prop} {x : Noted α} {y : Noted β}
    (T : Echo shift) (h : Noted.Moves shift R x y) : Noted.Echoes T R x y := by
  refine ⟨h.value, ?_⟩
  rw [h.notes]
  exact T.moved _

theorem Noted.Echoes.bind {α α' β β' : Type} {T : Echo shift} {R : α → α' → Prop}
    {S : β → β' → Prop} {x : Noted α} {x' : Noted α'} {f : α → Noted β} {f' : α' → Noted β'}
    (hx : Noted.Echoes T R x x') (hf : ∀ a a', R a a' → Noted.Echoes T S (f a) (f' a')) :
    Noted.Echoes T S (x >>= f) (x' >>= f') := by
  have h := hf _ _ hx.value
  refine ⟨h.value, ?_⟩
  rw [Noted.notes_bind, Noted.notes_bind]
  exact T.append hx.notes h.notes

/-! ## Building -/

namespace Build

/-- On benches that echo each other, both ways to build give related values and leave benches
that echo each other. -/
def Echoes {α β : Type} (T : Echo shift) (R : α → β → Prop) (x : Build K σ α)
    (y : Build K σ β) : Prop :=
  ∀ env b b', b.Echoes T b' → R (x env b).1 (y env b').1 ∧ (x env b).2.Echoes T (y env b').2

variable {T : Echo shift}

namespace Echoes

variable {α α' β β' : Type} {R : α → α' → Prop} {S : β → β' → Prop}

theorem pure {a : α} {a' : α'} (h : R a a') :
    Echoes (K := K) (σ := σ) T R (Pure.pure a) (Pure.pure a') := fun _ _ _ hb => ⟨h, hb⟩

theorem bind {x : Build K σ α} {x' : Build K σ α'} {f : α → Build K σ β}
    {f' : α' → Build K σ β'} (hx : Echoes T R x x')
    (hf : ∀ a a', R a a' → Echoes T S (f a) (f' a')) : Echoes T S (x >>= f) (x' >>= f') := by
  intro env b b' hb
  obtain ⟨ha, hb⟩ := hx env b b' hb
  exact hf _ _ ha env _ _ hb

/-- What follows a value that is the same. -/
theorem bindEq {x x' : Build K σ α} {f : α → Build K σ β} {f' : α → Build K σ β'}
    (hx : Echoes T Eq x x') (hf : ∀ a, Echoes T S (f a) (f' a)) :
    Echoes T S (x >>= f) (x' >>= f') :=
  hx.bind fun a _ h => h ▸ hf a

/-- What follows work that may have no value. -/
theorem bindOption {x x' : Build K σ (Option α)} {f : Option α → Build K σ β}
    {f' : Option α → Build K σ β'} (hx : Echoes T Eq x x')
    (hnone : Echoes T S (f none) (f' none))
    (hsome : ∀ a, Echoes T S (f (some a)) (f' (some a))) :
    Echoes T S (x >>= f) (x' >>= f') := by
  refine hx.bindEq fun a? => ?_
  cases a? with
  | none => exact hnone
  | some a => exact hsome a

/-- What follows the second way to build only. -/
theorem bindRight {x : Build K σ α} {y : Build K σ α'} {g : α' → β'} {S : α → β' → Prop}
    (hx : Echoes T R x y) (h : ∀ a a', R a a' → S a (g a')) :
    Echoes T S x (y >>= fun a' => Pure.pure (g a')) := by
  intro env b b' hb
  obtain ⟨ha, hb⟩ := hx env b b' hb
  exact ⟨h _ _ ha, hb⟩

theorem map {x x' : Build K σ α} {g : α → β} (hx : Echoes T Eq x x') :
    Echoes T Eq (g <$> x) (g <$> x') := by
  intro env b b' hb
  obtain ⟨ha, hb⟩ := hx env b b' hb
  exact ⟨congrArg g ha, hb⟩

theorem ite {c : Prop} [Decidable c] {x x' : Build K σ α} {y y' : Build K σ α}
    (hx : Echoes T Eq x x') (hy : Echoes T Eq y y') :
    Echoes T Eq (if c then x else y) (if c then x' else y') := by
  split
  · exact hx
  · exact hy

/-- Something done or left out before the rest. -/
theorem when {c : Prop} [Decidable c] {y y' : Build K σ Unit} {rest rest' : Unit → Build K σ α}
    (hy : Echoes T Eq y y') (h : Echoes T Eq (rest ()) (rest' ())) :
    Echoes T Eq (if c then y >>= rest else rest ()) (if c then y' >>= rest' else rest' ()) :=
  ite (hy.bindEq fun _ => h) h

theorem read : Echoes (K := K) (σ := σ) T Eq read read := fun _ _ _ hb => ⟨rfl, hb⟩

/-- Whatever looks at the textures of a bench does not see what was said. -/
theorem get {f : Bench σ → Build K σ β} {f' : Bench σ → Build K σ β'}
    (h : ∀ b b', b'.textures = b.textures → Echoes T S (f b) (f' b')) :
    Echoes T S (MonadState.get >>= f) (MonadState.get >>= f') :=
  fun env b b' hb => h b b' hb.textures env b b' hb

end Echoes

variable {s s' : Section}

theorem take_echoes {α β : Type} {R : α → β → Prop} {x : Noted α} {y : Noted β}
    (h : Noted.Echoes T R x y) : Echoes (K := K) (σ := σ) T R (take x) (take y) := by
  intro env b b' hb
  exact ⟨h.value, hb.textures, hb.registrations, T.append hb.diagnostics h.notes⟩

theorem report_echoes (d : Diagnostic) :
    Echoes (K := K) (σ := σ) T Eq (report d) (report (d.move shift)) :=
  take_echoes ((Noted.Moves.report d).echoes T)

theorem headerOf_move (env : ReadEnv) (h : s.Moved shift s') :
    env.headerOf s' = (env.headerOf s).move shift := by
  rw [ReadEnv.headerOf, h.name, h.line]
  rfl

theorem complain_echoes (h : s.Moved shift s') (message : String) :
    Echoes (K := K) (σ := σ) T Eq (complain s message) (complain s' message) := by
  refine Echoes.read.bindEq fun env => ?_
  rw [headerOf_move env.read h]
  exact report_echoes _

theorem warn_echoes (h : s.Moved shift s') (message : String) :
    Echoes (K := K) (σ := σ) T Eq (warn s message) (warn s' message) := by
  refine Echoes.read.bindEq fun env => ?_
  rw [headerOf_move env.read h]
  exact report_echoes _

theorem giveUp_echoes {α : Type} (h : s.Moved shift s') (message : String) :
    Echoes (K := K) (σ := σ) T Eq (giveUp s message : Build K σ (List α)) (giveUp s' message) :=
  (complain_echoes h message).bindEq fun _ => .pure rfl

theorem stockImage_echoes (h : s.Moved shift s') (image : String) :
    Echoes (K := K) (σ := σ) T Eq (stockImage s image) (stockImage s' image) := by
  refine Echoes.read.bindEq fun env => .ite (.pure rfl) ?_
  rw [headerOf_move env.read h]
  exact (report_echoes _).bindEq fun _ => .pure rfl

theorem register_echoes (path : Path) (params : TextureParams) :
    Echoes (K := K) (σ := σ) T Eq (register path params) (register path params) := by
  intro env b b' hb
  dsimp only [register]
  rw [hb.textures, hb.registrations]
  exact ⟨rfl, rfl, rfl, hb.diagnostics⟩

section

variable [Arith K]

theorem subject_echoes (h : s.Moved shift s') (name : String) (line? : Option Nat) :
    Echoes (K := K) (σ := σ) T Eq (subject s name line?)
      (subject s' name (line?.map shift)) := by
  refine Echoes.read.bindEq fun env => take_echoes (Noted.Moves.echoes T ?_)
  have hline : (line?.map shift).getD s'.line = shift (line?.getD s.line) := by
    cases line? with
    | none => exact h.line
    | some line => rfl
  rw [headerOf_move env.read h, hline]
  exact Subject.expression_moves _ _ _

theorem texture_echoes (h : s.Moved shift s') (path : Path) (params : TextureParams) :
    Echoes (K := K) (σ := σ) T Eq (texture s path params) (texture s' path params) := by
  have found (x : Option (TextureId × Point K)) :
      Echoes (K := K) (σ := σ) T Eq
        (do
          if x.isNone then complain s ("Texture " ++ path.text ++ " could not be loaded")
          pure x)
        (do
          if x.isNone then complain s' ("Texture " ++ path.text ++ " could not be loaded")
          pure x) :=
    .when (complain_echoes h _) (.pure rfl)
  refine (register_echoes path params).bindEq fun id? => ?_
  cases id? with
  | none => exact found none
  | some id =>
    refine Echoes.read.bindEq fun env => .get fun b b' hb => ?_
    rw [hb]
    exact found _

theorem optionalTexture_echoes (h : s.Moved shift s') (path? : Option Path)
    (params : TextureParams) :
    Echoes (K := K) (σ := σ) T Eq (optionalTexture s path? params)
      (optionalTexture s' path? params) := by
  cases path? with
  | none => exact .pure rfl
  | some path => exact (texture_echoes h path params).bindEq fun _ => .pure rfl

theorem imageSize_echoes (h : s.Moved shift s') (path : Path) :
    Echoes (K := K) (σ := σ) T Eq (imageSize s path) (imageSize s' path) := by
  refine Echoes.read.bindEq fun env => .get fun b b' hb => ?_
  rw [hb]
  exact .when (complain_echoes h _) (.pure rfl)

theorem quadState_echoes (h : s.Moved shift s') (space : Space K) (rect : Rect K) (pivot : Point K)
    (depth : K) (m : Material) :
    Echoes (K := K) (σ := σ) T Eq (quadState s space rect pivot depth m)
      (quadState s' space rect pivot depth m) := by
  unfold quadState
  exact .when (warn_echoes h _) (.pure rfl)

end

theorem strip_echoes {frame frame' : Nat → Build K σ (Option (ElementState K))}
    {first : ElementState K → Element K} (h : ∀ i, Echoes T Eq (frame i) (frame' i))
    (count index : Nat) :
    Echoes T Eq (strip frame first count index) (strip frame' first count index) := by
  induction count generalizing index with
  | zero => exact .pure rfl
  | succ count ih =>
    refine (h index).bindOption (.pure rfl) fun state => ?_
    exact (ih (index + 1)).bindEq fun _ => .pure rfl

end Build

end DriverDesk
