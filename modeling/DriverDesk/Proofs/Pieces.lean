import Mathlib.Data.List.Forall2
import Mathlib.Data.List.ReduceOption
import DriverDesk.Proofs.Places
import DriverDesk.Proofs.Sound
import DriverDesk.Proofs.Strips

/-!
# Pieces of instruments

An instrument is asked for in pieces, of which each comes to one element. A piece that does not
is one that was not asked for, or its section has a fault: an error that stands on the bench.
`x.Notices env m seen P` says of work that its value has `P`, where `seen` may be taken to hold
as soon as the bench shows the mark `m`, now or later. `x.Leaves env s fault P` says it of the
mark that a fault of the section leaves.
-/

namespace DriverDesk

variable {K σ : Type}

/-- An error of the section is on the bench. -/
def Bench.Faulted (file : String) (s : Section) (b : Bench σ) : Prop :=
  ∃ d ∈ b.diagnostics, d.severity = .error ∧ d.Within file s

theorem Bench.Extends.faulted {b b' : Bench σ} {file : String} {s : Section} (h : b'.Extends b)
    (hb : b.Faulted file s) : b'.Faulted file s := by
  obtain ⟨d, hd, hfault⟩ := hb
  exact ⟨d, h.diagnostics.subset hd, hfault⟩

/-- A value with `P`, or none for a fault. -/
def OrFault {α : Type} (fault : Prop) (P : α → Prop) : Option α → Prop
  | none => fault
  | some a => P a

/-! ## Work that leaves a mark -/

/-- What a bench may show, and goes on to show once it does. -/
structure Bench.Mark (σ : Type) where
  Shown : Bench σ → Prop
  extends_shown : ∀ {b b' : Bench σ}, b'.Extends b → Shown b → Shown b'

namespace Build

/-- The bench keeps what it held, and the value has `P` if the mark on it is `seen`. -/
def Notices {α : Type} (env : BuildEnv K σ) (m : Bench.Mark σ) (seen : Prop) (x : Build K σ α)
    (P : α → Prop) : Prop :=
  ∀ b, (x env b).2.Extends b ∧ ((m.Shown (x env b).2 → seen) → P (x env b).1)

variable {env : BuildEnv K σ} {m : Bench.Mark σ} {seen : Prop}

theorem Gives.notices {α : Type} {x : Build K σ α} {P : α → Prop} (h : Gives x P) :
    Notices env m seen x P :=
  fun b => ⟨(h env b).2, fun _ => (h env b).1⟩

namespace Notices

variable {α β : Type} {x : Build K σ α} {f : α → Build K σ β} {P P' : α → Prop} {Q : β → Prop}

theorem mono (hx : Notices env m seen x P) (h : ∀ a, P a → P' a) : Notices env m seen x P' :=
  fun b => ⟨(hx b).1, fun hseen => h _ ((hx b).2 hseen)⟩

theorem pure {a : α} (h : P a) : Notices env m seen (Pure.pure a) P := (Gives.pure h).notices

/-- What is known of the value may depend on a mark that comes later, so it is not there
before what follows is gone through. -/
theorem bind (hx : Notices env m seen x P)
    (hf : ∀ a, Notices env m seen (f a) fun c => P a → Q c) :
    Notices env m seen (x >>= f) Q := by
  intro b
  obtain ⟨hb, ha⟩ := hx b
  obtain ⟨hb', hc⟩ := hf (x env b).1 (x env b).2
  exact ⟨hb'.trans hb, fun hseen => hc hseen (ha fun h => hseen (m.extends_shown hb' h))⟩

/-- What follows work whose value has `P` whatever is seen. -/
theorem bindKnown (hx : Notices env m True x P) (hf : ∀ a, P a → Notices env m seen (f a) Q) :
    Notices env m seen (x >>= f) Q := by
  intro b
  obtain ⟨hb, ha⟩ := hx b
  obtain ⟨hb', hc⟩ := hf _ (ha fun _ => trivial) (x env b).2
  exact ⟨hb'.trans hb, hc⟩

/-- What follows work that always has a value with `P`. -/
theorem bindGives (hx : Gives x P) (hf : ∀ a, P a → Notices env m seen (f a) Q) :
    Notices env m seen (x >>= f) Q := bindKnown hx.notices hf

/-- What a value is mapped to. -/
theorem map {g : α → β} (hx : Notices env m seen x P) (h : ∀ a, P a → Q (g a)) :
    Notices env m seen (g <$> x) Q :=
  fun b => ⟨(hx b).1, fun hseen => h _ ((hx b).2 hseen)⟩

/-- What follows a look at the environment. -/
theorem read {f : BuildEnv K σ → Build K σ β} (h : Notices env m seen (f env) Q) :
    Notices env m seen (MonadReader.read >>= f) Q := fun b => h b

theorem ite {c : Prop} [Decidable c] {y : Build K σ α} (hx : c → Notices env m seen x P)
    (hy : ¬ c → Notices env m seen y P) : Notices env m seen (if c then x else y) P := by
  split
  next h => exact hx h
  next h => exact hy h

/-- Something done or left out before the rest. -/
theorem when {c : Prop} [Decidable c] {y : Build K σ Unit} {rest : Unit → Build K σ α}
    (hy : Gives y fun _ => True) (h : Notices env m seen (rest ()) P) :
    Notices env m seen (if c then y >>= rest else rest ()) P :=
  ite (fun _ => bindGives hy fun _ _ => h) fun _ => h

end Notices

end Build

/-! ## Work for a section -/

/-- The mark that a fault of a section leaves. -/
def Bench.Mark.faultOf (file : String) (s : Section) : Bench.Mark σ :=
  ⟨(·.Faulted file s), Bench.Extends.faulted⟩

namespace Build

/-- The bench keeps what it held, and the value has `P` if a fault of the section is `fault`. -/
def Leaves {α : Type} (env : BuildEnv K σ) (s : Section) (fault : Prop) (x : Build K σ α)
    (P : α → Prop) : Prop :=
  ∀ b, (x env b).2.Extends b ∧
    (((x env b).2.Faulted env.read.fileName s → fault) → P (x env b).1)

variable {env : BuildEnv K σ} {s : Section} {fault : Prop}

/-- Work for a section is work that leaves the mark of its faults. -/
theorem notices_fault {α : Type} {x : Build K σ α} {P : α → Prop} :
    Notices env (.faultOf env.read.fileName s) fault x P ↔ Leaves env s fault x P := .rfl

theorem Gives.leaves {α : Type} {x : Build K σ α} {P : α → Prop} (h : Gives x P) :
    Leaves env s fault x P := notices_fault.mp h.notices

namespace Leaves

variable {α β : Type} {x : Build K σ α} {f : α → Build K σ β} {P P' : α → Prop} {Q : β → Prop}

theorem mono (hx : Leaves env s fault x P) (h : ∀ a, P a → P' a) : Leaves env s fault x P' :=
  Notices.mono (m := .faultOf env.read.fileName s) hx h

theorem pure {a : α} (h : P a) : Leaves env s fault (Pure.pure a) P := (Gives.pure h).leaves

theorem bind (hx : Leaves env s fault x P)
    (hf : ∀ a, Leaves env s fault (f a) fun c => P a → Q c) :
    Leaves env s fault (x >>= f) Q :=
  Notices.bind (m := .faultOf env.read.fileName s) hx hf

/-- What follows work that always has a value with `P`. -/
theorem bindGives (hx : Gives x P) (hf : ∀ a, P a → Leaves env s fault (f a) Q) :
    Leaves env s fault (x >>= f) Q :=
  Notices.bindGives (m := .faultOf env.read.fileName s) hx hf

/-- What follows work that has no value for a fault. -/
theorem bindOption {x : Build K σ (Option α)} {f : Option α → Build K σ β}
    (hx : Leaves env s fault x (OrFault fault P))
    (hnone : Leaves env s fault (f none) fun c => fault → Q c)
    (hsome : ∀ a, Leaves env s fault (f (some a)) fun c => P a → Q c) :
    Leaves env s fault (x >>= f) Q := by
  refine hx.bind fun a? => ?_
  cases a? with
  | none => exact hnone
  | some a => exact hsome a

/-- What follows work that has no value for a fault, if it is the same whatever the value. -/
theorem bindFound {x : Build K σ (Option α)} {f : Option α → Build K σ β}
    (hx : Leaves env s fault x (OrFault fault P))
    (hnone : Leaves env s fault (f none) fun c => fault → Q c)
    (hsome : ∀ a, Leaves env s fault (f (some a)) Q) : Leaves env s fault (x >>= f) Q :=
  hx.bindOption hnone fun a => (hsome a).mono fun _ hc _ => hc

/-- What a value is mapped to. -/
theorem map {g : α → β} (hx : Leaves env s fault x P) (h : ∀ a, P a → Q (g a)) :
    Leaves env s fault (g <$> x) Q :=
  Notices.map (m := .faultOf env.read.fileName s) hx h

/-- What follows a look at the environment. -/
theorem read {f : BuildEnv K σ → Build K σ β} (h : Leaves env s fault (f env) Q) :
    Leaves env s fault (MonadReader.read >>= f) Q :=
  Notices.read (m := .faultOf env.read.fileName s) h

theorem ite {c : Prop} [Decidable c] {y : Build K σ α} (hx : c → Leaves env s fault x P)
    (hy : ¬ c → Leaves env s fault y P) : Leaves env s fault (if c then x else y) P :=
  Notices.ite (m := .faultOf env.read.fileName s) hx hy

/-- Something done or left out before the rest. -/
theorem when {c : Prop} [Decidable c] {y : Build K σ Unit} {rest : Unit → Build K σ α}
    (hy : Gives y fun _ => True) (h : Leaves env s fault (rest ()) P) :
    Leaves env s fault (if c then y >>= rest else rest ()) P :=
  Notices.when (m := .faultOf env.read.fileName s) hy h

end Leaves

/-! ## The ways of working on a bench -/

theorem report_leaves {d : Diagnostic} (hseverity : d.severity = .error)
    (hd : d.Within env.read.fileName s) :
    Leaves env s fault (report d : Build K σ Unit) fun _ => fault := by
  refine fun b => ⟨(report_gives d env b).2, fun hfault => hfault ⟨d, ?_, hseverity, hd⟩⟩
  exact List.mem_append_right _ (List.mem_singleton_self d)

theorem complain_leaves (message : String) :
    Leaves env s fault (complain s message : Build K σ Unit) fun _ => fault :=
  .read (report_leaves rfl ⟨rfl, rfl, .inl ⟨rfl, rfl⟩, nofun, rfl, nofun⟩)

theorem giveUp_leaves {α : Type} {P : List α → Prop} (message : String) (h : fault → P []) :
    Leaves env s fault (giveUp s message : Build K σ (List α)) P :=
  (complain_leaves message).bind fun _ => .pure h

theorem stockImage_leaves (image : String) :
    Leaves env s fault (stockImage s image : Build K σ _) (OrFault fault fun _ => True) := by
  refine .read (.ite (fun _ => .pure trivial) fun _ => ?_)
  refine (report_leaves rfl ?_).bind fun _ => .pure fun hfault => hfault
  exact ⟨rfl, rfl, .inl ⟨rfl, rfl⟩, nofun, rfl, nofun⟩

/-- The settings of a section, and a fault if anything is noted while they are read. -/
theorem settings_leaves {α : Type} [Readable α] (h : Readable.Blames α) :
    Leaves env s fault (settings α s : Build K σ α) fun a =>
      a = (s.read env.read).value ∧ ∀ d ∈ (s.read env.read : Noted α).notes, fault := by
  refine fun b => ⟨(settings_gives α s env b).2, fun hfault => ⟨rfl, fun d hd => hfault ?_⟩⟩
  obtain ⟨r, hr, hblamed⟩ := s.read_blames h env.read d hd
  exact ⟨d, List.mem_append_right _ hd, hblamed.severity, hblamed.within hr⟩

end Build

namespace TextureStore

/-- The texture is one that the store gave for the image. -/
def Issues (store : TextureStore σ) (path : Path) (id : TextureId) : Prop :=
  ∃ t params, (store.register t path params).1 = some id

/-- The image has been found to have the size. -/
def Shows [Arith K] (store : TextureStore σ) (path : Path) (size : Point K) : Prop :=
  ∃ t, (store.imageSize? t path).map Build.lengths = some size

end TextureStore

namespace Build

variable [Arith K] {env : BuildEnv K σ} {s : Section} {fault : Prop}

omit [Arith K] in
theorem register_leaves (path : Path) (params : TextureParams) :
    Leaves env s fault (register path params : Build K σ (Option TextureId))
      fun id? => ∀ id, id? = some id → env.store.Issues path id :=
  fun b => ⟨(register_gives path params env b).2, fun _ _ hid => ⟨b.textures, params, hid⟩⟩

theorem texture_leaves (path : Path) (params : TextureParams) :
    Leaves env s fault (texture s path params : Build K σ _)
      (OrFault fault fun found => env.store.Issues path found.1) := by
  have found (x : Option (TextureId × Point K)) :
      Leaves env s fault (do
        if x.isNone then complain s ("Texture " ++ path.text ++ " could not be loaded")
        Pure.pure x : Build K σ _) (OrFault fault (x = some ·)) := by
    cases x with
    | none => exact (complain_leaves _).bind fun _ => .pure fun hfault => hfault
    | some p => exact .pure rfl
  refine (register_leaves path params).bind fun id? => ?_
  cases id? with
  | none =>
    refine (found none).mono fun found? h _ => ?_
    cases found? with
    | none => exact h
    | some p => cases h
  | some id =>
    refine .read (.bindGives .get fun b _ => ?_)
    refine (found _).mono fun found? h hid => ?_
    cases found? with
    | none => exact h
    | some p =>
      obtain ⟨size, -, rfl⟩ := Option.map_eq_some_iff.mp h
      exact hid id rfl

theorem imageSize_leaves (path : Path) :
    Leaves env s fault (imageSize s path : Build K σ _)
      (OrFault fault (env.store.Shows path)) := by
  refine .read (.bindGives .get fun b _ => ?_)
  cases hsize : env.store.imageSize? b.textures path with
  | none => exact (complain_leaves _).bind fun _ => .pure fun hfault => hfault
  | some size => exact .pure ⟨b.textures, congrArg (Option.map lengths) hsize⟩

theorem quadState_gives_quad (space : Space K) (rect : Rect K) (pivot : Point K) (depth : K)
    (m : Material) :
    Gives (quadState s space rect pivot depth m : Build K σ _)
      (· = ⟨(space.quad rect pivot depth).offset, .ofQuad (space.quad rect pivot depth) m⟩) := by
  unfold quadState
  exact .when (warn_gives s _) (.pure rfl)

/-- A frame that always has a state, which is a quad. -/
theorem frame_leaves (space : Space K) (rect : Rect K) (pivot : Point K) (depth : K)
    (m : Material) :
    Leaves env s fault (some <$> quadState s space rect pivot depth m : Build K σ _)
      (OrFault fault (·.mesh.IsQuad)) := by
  refine (quadState_gives_quad space rect pivot depth m).leaves.map fun state hstate => ?_
  subst hstate
  exact Mesh.isQuad_ofQuad ..

omit [Arith K] in
/-- The frames of a strip have what each of them has, and there is one for each unless one is
missing. -/
theorem strip_notices {m : Bench.Mark σ} {seen missing : Prop} {P : ElementState K → Prop}
    {frame : Nat → Build K σ (Option (ElementState K))} {first : ElementState K → Element K}
    {count index : Nat}
    (hframe : ∀ k, k < count → Notices env m seen (frame (index + k)) (OrFault missing P)) :
    Notices env m seen (strip frame first count index) fun steps =>
      ∃ states : List (ElementState K), steps = stripSteps first index states ∧
        (∀ state ∈ states, P state) ∧ (states.length < count → missing) := by
  induction count generalizing index with
  | zero => exact .pure ⟨[], rfl, nofun, fun h => absurd h (Nat.lt_irrefl 0)⟩
  | succ count ih =>
    have hrest : ∀ k, k < count →
        Notices env m seen (frame (index + 1 + k)) (OrFault missing P) := by
      intro k hk
      rw [show index + 1 + k = index + (k + 1) by omega]
      exact hframe (k + 1) (by omega)
    refine (hframe 0 (Nat.zero_lt_succ _)).bind fun state? => ?_
    cases state? with
    | none => exact .pure fun hmissing => ⟨[], rfl, nofun, fun _ => hmissing⟩
    | some state =>
      refine (ih hrest).bind fun steps => .pure ?_
      rintro ⟨states, rfl, hstates, hcount⟩ hstate
      refine ⟨state :: states, rfl, List.forall_mem_cons.mpr ⟨hstate, hstates⟩,
        fun h => hcount ?_⟩
      rw [List.length_cons] at h
      omega

/-- The frames of a strip are quads, and there is one for each unless one is a fault. -/
theorem strip_leaves {frame : Nat → Build K σ (Option (ElementState K))}
    {first : ElementState K → Element K} {count index : Nat}
    (hframe : ∀ k, k < count →
      Leaves env s fault (frame (index + k)) (OrFault fault (·.mesh.IsQuad))) :
    Leaves env s fault (strip frame first count index) fun steps =>
      ∃ states : List (ElementState K), steps = stripSteps first index states ∧
        (∀ state ∈ states, state.mesh.IsQuad) ∧ (states.length < count → fault) :=
  strip_notices (m := .faultOf env.read.fileName s) hframe

end Build

/-! ## Pieces -/

/-- What stands opposite of a member. -/
theorem exists_mem_of_forall₂ {α β : Type} {R : α → β → Prop} {as : List α} {bs : List β}
    (h : List.Forall₂ R as bs) : ∀ b ∈ bs, ∃ a ∈ as, R a b := by
  induction h with
  | nil => exact List.forall_mem_nil _
  | cons hab _ ih =>
    refine List.forall_mem_cons.mpr ⟨⟨_, List.mem_cons_self, hab⟩, fun b hb => ?_⟩
    obtain ⟨a, ha, hab⟩ := ih b hb
    exact ⟨a, List.mem_cons_of_mem _ ha, hab⟩

/-- A piece of an instrument: whether it is asked for, and how its element is told. -/
structure Piece (K : Type) where
  asked : Prop
  Shape : Element K → Prop

namespace Piece

/-- What a piece comes to: a sound element, or none, which is a fault if it is asked for. -/
def ComesTo [Arith K] (fault : Prop) (p : Piece K) : Option (Element K) → Prop
  | some e => e.Sound ∧ p.Shape e
  | none => p.asked → fault

/-- The only piece of an instrument, which is asked for by its section. -/
def ofKind (kind : ElementKind) : Piece K := ⟨True, (·.kind = kind)⟩

end Piece

namespace Step

variable [Arith K] {fault : Prop} {p : Piece K} {ps qs : List (Piece K)} {l l' : List (Step K)}

/-- Steps that make what the pieces come to, one after the other, and nothing else. -/
def Makes (fault : Prop) (ps : List (Piece K)) (steps : List (Step K)) : Prop :=
  Assembled (fun _ => True) steps ∧
    ∃ es : List (Option (Element K)), List.Forall₂ (Piece.ComesTo fault) ps es ∧
      made steps = es.reduceOption

theorem Makes.empty : Makes fault ([] : List (Piece K)) [] := ⟨.nil, [], .nil, rfl⟩

theorem Makes.nothing (h : ∀ p ∈ ps, p.asked → fault) : Makes fault ps [] := by
  refine ⟨.nil, ps.map fun _ => none, ?_, ?_⟩
  · exact List.forall₂_map_right_iff.mpr (List.forall₂_same.mpr h)
  · induction ps with
    | nil => rfl
    | cons p ps ih => exact ih fun q hq => h q (List.mem_cons_of_mem p hq)

theorem Makes.faulty (h : fault) : Makes fault ps [] := .nothing fun _ _ _ => h

theorem Makes.one {e : Element K} (hsound : e.Sound) (hshape : p.Shape e) :
    Makes fault [p] [.element e] :=
  ⟨.single trivial [], [some e], .cons ⟨hsound, hshape⟩ .nil, rfl⟩

/-- One element with further states. -/
theorem Makes.several (e : Element K) (states : List (ElementState K))
    (hsound : Element.Sound { e with states := e.states ++ states })
    (hshape : p.Shape { e with states := e.states ++ states }) :
    Makes fault [p] (.element e :: states.map .state) :=
  ⟨.single trivial states, [some _], .cons ⟨hsound, hshape⟩ .nil, placeAll_states e states⟩

theorem Makes.append (h : Makes fault ps l) (h' : Makes fault qs l') :
    Makes fault (ps ++ qs) (l ++ l') := by
  obtain ⟨hl, es, hes, hmade⟩ := h
  obtain ⟨hl', es', hes', hmade'⟩ := h'
  refine ⟨hl.append hl', es ++ es', List.rel_append hes hes', ?_⟩
  rw [hl'.made_append, hmade, hmade', List.reduceOption_append]

/-- Pieces of wider shapes, of which no more are asked for unless there is a fault. -/
theorem Makes.imp (h : Makes fault ps l)
    (himp : List.Forall₂ (fun p q => (∀ e, p.Shape e → q.Shape e) ∧
      (q.asked → ¬ p.asked → fault)) ps qs) : Makes fault qs l := by
  obtain ⟨hl, es, hes, hmade⟩ := h
  refine ⟨hl, es, ?_, hmade⟩
  clear hmade
  induction himp generalizing es with
  | nil => exact hes
  | cons hpq _ ih =>
    cases hes with
    | @cons _ e? _ es he hes =>
      refine .cons ?_ (ih es hes)
      cases e? with
      | some e => exact ⟨he.1, hpq.1 e he.2⟩
      | none => exact fun hasked => by_contra fun hfault => hfault (hpq.2 hasked (mt he hfault))

/-- What is made is sound and has the shape of one of the pieces. -/
theorem Makes.shaped (h : Makes fault ps l) :
    ∀ e ∈ made l, e.Sound ∧ ∃ p ∈ ps, p.Shape e := by
  obtain ⟨-, es, hes, hmade⟩ := h
  intro e he
  rw [hmade, List.reduceOption_mem_iff] at he
  obtain ⟨p, hp, hsound, hshape⟩ := exists_mem_of_forall₂ hes _ he
  exact ⟨hsound, p, hp, hshape⟩

theorem Makes.sound (h : Makes fault ps l) : ∀ e ∈ made l, e.Sound :=
  fun e he => (h.shaped e he).1

end Step

/-- The strip of a piece. A piece that is asked for has frames. -/
theorem Build.strip_makesPiece [Arith K] {env : BuildEnv K σ} {s : Section} {fault : Prop}
    {p : Piece K} {frame : Nat → Build K σ (Option (ElementState K))} {kind : ElementKind}
    {function : Expr K} {count : Nat} (hkind : kind.Plain)
    (hframe : ∀ k, k < count → Leaves env s fault (frame k) (OrFault fault (·.mesh.IsQuad)))
    (hcount : p.asked → count ≠ 0)
    (hshape : ∀ e : Element K, e.kind = kind → e.stateFunction? = some function → p.Shape e) :
    Leaves env s fault
      (strip frame (fun state => (Element.single kind state).selectedBy function) count 0)
      (Step.Makes fault [p]) := by
  have hframe₀ : ∀ k, k < count →
      Leaves env s fault (frame (0 + k)) (OrFault fault (·.mesh.IsQuad)) :=
    fun k hk => (Nat.zero_add k).symm ▸ hframe k hk
  refine (strip_leaves hframe₀).mono fun steps h => ?_
  obtain ⟨states, rfl, hquads, hfault⟩ := h
  cases states with
  | nil =>
    exact .nothing (List.forall_mem_singleton.mpr fun hasked =>
      hfault (Nat.pos_of_ne_zero (hcount hasked)))
  | cons state states =>
    rw [stripSteps_cons]
    refine .several _ states ?_ (hshape _ rfl rfl)
    exact Element.sound_frames function hkind (List.cons_ne_nil _ _) hquads

end DriverDesk
