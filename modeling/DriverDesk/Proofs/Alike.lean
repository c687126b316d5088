import DriverDesk.Proofs.Yields

/-!
# Building behind other requests

Where a store answers a request whatever was requested before, a section is built alike
behind any other sections: only the names of its textures tell what came before it.
-/

namespace DriverDesk

variable {K σ : Type}

/-! ## Without the names of textures -/

/-- The material, with one name for all textures. -/
def Material.anonymous (m : Material) : Material :=
  { m with daytime? := m.daytime?.map fun _ => 0, nighttime? := m.nighttime?.map fun _ => 0 }

def Mesh.anonymous (m : Mesh K) : Mesh K := { m with material := m.material.anonymous }

def ElementState.anonymous (s : ElementState K) : ElementState K :=
  { s with mesh := s.mesh.anonymous }

def Element.anonymous (e : Element K) : Element K :=
  { e with states := e.states.map (·.anonymous) }

def Step.anonymous : Step K → Step K
  | .element e => .element e.anonymous
  | .state s => .state s.anonymous

theorem Material.anonymous_keyed {id id' : TextureId} {night? night?' : Option TextureId}
    (h : night?.isSome = night?'.isSome) (tint : Rgba) (key : Rgb) :
    ((Material.plain (some id) night? tint).keyed key).anonymous =
      ((Material.plain (some id') night?' tint).keyed key).anonymous := by
  cases night? <;> cases night?' <;> simp_all [anonymous, keyed, plain]

namespace Element

@[simp] theorem anonymous_single (kind : ElementKind) (s : ElementState K) :
    (single kind s).anonymous = single kind s.anonymous := rfl

@[simp] theorem anonymous_selectedBy (e : Element K) (function : Expr K) :
    (e.selectedBy function).anonymous = e.anonymous.selectedBy function := rfl

@[simp] theorem anonymous_moving (e : Element K) (m : Motion K) :
    (e.moving m).anonymous = e.anonymous.moving m := rfl

end Element

/-- The states are the same but for the names of textures. -/
abbrev SameState (s s' : ElementState K) : Prop := s.anonymous = s'.anonymous

/-- The steps are the same but for the names of textures. -/
abbrev SameSteps (l l' : List (Step K)) : Prop := l.map Step.anonymous = l'.map Step.anonymous

theorem SameSteps.single {e e' : Element K} (h : e.anonymous = e'.anonymous) :
    SameSteps [.element e] [.element e'] := congrArg (fun e => [Step.element e]) h

/-! ## Stores that do not look back -/

namespace TextureStore

/-- Requests lead from one state of the store to another. -/
def Reaches (store : TextureStore σ) (t t' : σ) : Prop :=
  ∃ requests, t' = store.after t requests

/-- What the store says of an image does not depend on the requests before. -/
structure Independent (store : TextureStore σ) (t : σ) : Prop where
  load : ∀ t', store.Reaches t t' → ∀ path params,
    (store.load? t' path params).map (·.2) = (store.load? t path params).map (·.2)
  imageSize : ∀ t', store.Reaches t t' → ∀ path, store.imageSize? t' path = store.imageSize? t path

theorem reaches_refl (store : TextureStore σ) (t : σ) : store.Reaches t t := ⟨[], rfl⟩

end TextureStore

namespace Build

theorem Asks.reaches {α : Type} {env : BuildEnv K σ} {t t' : σ} {x : Build K σ α}
    {P : α → List Registration → Prop} (h : Asks env t' x P) (ht : env.store.Reaches t t')
    {b : Bench σ} (hb : b.textures = t') : env.store.Reaches t (x env b).2.textures := by
  obtain ⟨before, rfl⟩ := ht
  obtain ⟨requests, hrs, -⟩ := h b hb
  exact ⟨before ++ requests, by rw [hrs.textures, hb, env.store.after_append]⟩

/-- On benches that requests lead to from `t`, both ways to build give related values, and
requests lead to the benches they leave. -/
def Alike {α β : Type} (env : BuildEnv K σ) (t : σ) (R : α → β → Prop) (x : Build K σ α)
    (y : Build K σ β) : Prop :=
  ∀ b b', env.store.Reaches t b.textures → env.store.Reaches t b'.textures →
    R (x env b).1 (y env b').1 ∧ env.store.Reaches t (x env b).2.textures ∧
      env.store.Reaches t (y env b').2.textures

variable {env : BuildEnv K σ} {t : σ}

namespace Alike

variable {α α' β β' : Type} {R : α → α' → Prop} {S : β → β' → Prop}

theorem pure {a : α} {a' : α'} (h : R a a') : Alike env t R (Pure.pure a) (Pure.pure a') :=
  fun _ _ hb hb' => ⟨h, hb, hb'⟩

theorem bind {x : Build K σ α} {x' : Build K σ α'} {f : α → Build K σ β}
    {f' : α' → Build K σ β'} (hx : Alike env t R x x')
    (hf : ∀ a a', R a a' → Alike env t S (f a) (f' a')) : Alike env t S (x >>= f) (x' >>= f') := by
  intro b b' hb hb'
  obtain ⟨ha, hx, hx'⟩ := hx b b' hb hb'
  exact hf _ _ ha _ _ hx hx'

/-- What follows a value that is the same. -/
theorem bindEq {x x' : Build K σ α} {f : α → Build K σ β} {f' : α → Build K σ β'}
    (hx : Alike env t Eq x x') (hf : ∀ a, Alike env t S (f a) (f' a)) :
    Alike env t S (x >>= f) (x' >>= f') :=
  hx.bind fun a _ h => h ▸ hf a

/-- What follows work that may have no value. -/
theorem bindOption {x x' : Build K σ (Option α)} {f : Option α → Build K σ β}
    {f' : Option α → Build K σ β'} (hx : Alike env t Eq x x')
    (hnone : Alike env t S (f none) (f' none))
    (hsome : ∀ a, Alike env t S (f (some a)) (f' (some a))) :
    Alike env t S (x >>= f) (x' >>= f') := by
  refine hx.bindEq fun a? => ?_
  cases a? with
  | none => exact hnone
  | some a => exact hsome a

theorem map {x : Build K σ α} {x' : Build K σ α'} {g : α → β} {g' : α' → β'}
    (hx : Alike env t R x x') (h : ∀ a a', R a a' → S (g a) (g' a')) :
    Alike env t S (g <$> x) (g' <$> x') := fun b b' hb hb' => by
  obtain ⟨ha, hx, hx'⟩ := hx b b' hb hb'
  exact ⟨h _ _ ha, hx, hx'⟩

theorem ite {c : Prop} [Decidable c] {x y : Build K σ α} {x' y' : Build K σ α'}
    (hx : Alike env t R x x') (hy : Alike env t R y y') :
    Alike env t R (if c then x else y) (if c then x' else y') := by
  split
  · exact hx
  · exact hy

/-- Something done or left out before the rest. -/
theorem when {c : Prop} [Decidable c] {y y' : Build K σ Unit} {rest : Unit → Build K σ α}
    {rest' : Unit → Build K σ α'} (hy : Alike env t Eq y y')
    (h : Alike env t R (rest ()) (rest' ())) :
    Alike env t R (if c then y >>= rest else rest ()) (if c then y' >>= rest' else rest' ()) :=
  ite (hy.bindEq fun _ => h) h

theorem read {f : BuildEnv K σ → Build K σ α} {f' : BuildEnv K σ → Build K σ α'}
    (h : Alike env t R (f env) (f' env)) :
    Alike env t R (MonadReader.read >>= f) (MonadReader.read >>= f') :=
  fun b b' hb hb' => h b b' hb hb'

end Alike

theorem take_alike {α : Type} (x : Noted α) :
    Alike env t Eq (take x : Build K σ α) (take x) := fun _ _ hb hb' => ⟨rfl, hb, hb'⟩

theorem settings_alike (α : Type) [Readable α] (s : Section) :
    Alike env t Eq (settings α s : Build K σ α) (settings α s) := .read (take_alike _)

theorem complain_alike (s : Section) (message : String) :
    Alike env t Eq (complain s message : Build K σ Unit) (complain s message) :=
  .read (take_alike _)

theorem warn_alike (s : Section) (message : String) :
    Alike env t Eq (warn s message : Build K σ Unit) (warn s message) := .read (take_alike _)

theorem giveUp_alike (s : Section) (message : String) :
    Alike env t SameSteps (giveUp s message : Build K σ (List (Step K))) (giveUp s message) :=
  (complain_alike s message).bindEq fun _ => .pure rfl

theorem buildWith_alike (α : Type) [Readable α]
    {build : α → Section → Build K σ (List (Step K))} {s : Section}
    (h : ∀ a, Alike env t SameSteps (build a s) (build a s)) :
    Alike env t SameSteps (buildWith α build s) (buildWith α build s) :=
  (settings_alike α s).bindEq h

/-- The frames of a strip are the same if each of them is. -/
theorem strip_alike {frame : Nat → Build K σ (Option (ElementState K))}
    {first : ElementState K → Element K}
    (hframe : ∀ i, Alike env t (Option.Rel SameState) (frame i) (frame i))
    (hfirst : ∀ s s', SameState s s' → (first s).anonymous = (first s').anonymous)
    (count index : Nat) :
    Alike env t SameSteps (strip frame first count index) (strip frame first count index) := by
  induction count generalizing index with
  | zero => exact .pure rfl
  | succ count ih =>
    refine (hframe index).bind fun state? state?' hstates => ?_
    cases hstates with
    | none => exact .pure rfl
    | @some s s' hs =>
      refine (ih (index + 1)).bind fun steps steps' hsteps => .pure ?_
      rw [SameSteps, List.map_cons, List.map_cons, hsteps]
      split
      · rw [Step.anonymous, Step.anonymous, hfirst s s' hs]
      · rw [Step.anonymous, Step.anonymous, hs]

variable [Arith K]

theorem subject_alike (s : Section) (name : String) (line? : Option Nat) :
    Alike env t Eq (subject s name line? : Build K σ (Expr K)) (subject s name line?) :=
  .read (take_alike _)

theorem quadState_alike (s : Section) (space : Space K) (rect : Rect K) (pivot : Point K)
    (depth : K) {m m' : Material} (hm : m.anonymous = m'.anonymous) :
    Alike env t SameState (quadState s space rect pivot depth m)
      (quadState s space rect pivot depth m') := by
  unfold quadState
  refine .when (warn_alike s _) (.pure ?_)
  simp [SameState, ElementState.anonymous, Mesh.anonymous, Mesh.ofQuad, hm]

section

variable (h : env.store.Independent t)
include h

/-- A texture is had or not whatever was requested before, and its size is the same. -/
theorem texture_alike (s : Section) (path : Path) (params : TextureParams) :
    Alike env t (fun a? a?' => a?.map (·.2) = a?'.map (·.2))
      (texture s path params : Build K σ (Option (TextureId × Point K)))
      (texture s path params) := by
  -- the size is what the store says before any request, on either bench
  have hsize {b : Bench σ} (hb : env.store.Reaches t b.textures) :
      ((texture s path params : Build K σ _) env b).1.map (·.2) =
        ((env.store.load? t path params).map (·.2)).map (lengths (K := K)) := by
    rw [texture_yields s path params b rfl, ← h.load _ hb, Option.map_map, Option.map_map]
    rfl
  intro b b' hb hb'
  refine ⟨(hsize hb).trans (hsize hb').symm, ?_, ?_⟩
  · exact (texture_asks s path params).reaches hb rfl
  · exact (texture_asks s path params).reaches hb' rfl

/-- What follows a texture that is had in both or in neither. -/
theorem Alike.bindTexture {α α' : Type} {R : α → α' → Prop} {s : Section} {path : Path}
    {params : TextureParams} {f : Option (TextureId × Point K) → Build K σ α}
    {f' : Option (TextureId × Point K) → Build K σ α'} (hnone : Alike env t R (f none) (f' none))
    (hsome : ∀ id id' size, Alike env t R (f (some (id, size))) (f' (some (id', size)))) :
    Alike env t R (texture s path params >>= f) (texture s path params >>= f') := by
  refine (texture_alike h s path params).bind fun a? a?' ha => ?_
  rcases a? with _ | ⟨id, size⟩ <;> rcases a?' with _ | ⟨id', size'⟩
  · exact hnone
  · cases ha
  · cases ha
  · cases ha
    exact hsome id id' size

theorem optionalTexture_alike (s : Section) (path? : Option Path) (params : TextureParams) :
    Alike env t (fun a? a?' => a?.isSome = a?'.isSome)
      (optionalTexture s path? params : Build K σ (Option TextureId))
      (optionalTexture s path? params) := by
  cases path? with
  | none => exact .pure rfl
  | some path => exact .bindTexture h (.pure rfl) fun _ _ _ => .pure rfl

theorem imageSize_alike (s : Section) (path : Path) :
    Alike env t Eq (imageSize s path : Build K σ (Option (Point K))) (imageSize s path) := by
  have hvalue {b : Bench σ} (hb : env.store.Reaches t b.textures) :
      ((imageSize s path : Build K σ (Option (Point K))) env b).1 =
        (env.store.imageSize? t path).map lengths := by
    have hasks : Asks env b.textures (imageSize s path : Build K σ (Option (Point K)))
        (Quietly (· = (env.store.imageSize? b.textures path).map lengths)) := imageSize_asks s path
    obtain ⟨_, -, -, hsize⟩ := hasks b rfl
    rw [hsize, h.imageSize _ hb]
  intro b b' hb hb'
  refine ⟨(hvalue hb).trans (hvalue hb').symm, ?_, ?_⟩
  · exact (imageSize_asks s path).reaches hb rfl
  · exact (imageSize_asks s path).reaches hb' rfl

end

end Build

/-! ## Calibrated panels -/

namespace Calibrated

open Build

variable [Arith K] {env : BuildEnv K σ} {t : σ} (h : env.store.Independent t)

include h

theorem Header.build_alike (header : Header K) (s : Section) (space : Space K) (key : Rgb) :
    Alike env t SameSteps (header.build s space key) (header.build s space key) := by
  unfold build
  rcases header.daytime? with _ | day
  · exact .pure rfl
  refine .bindTexture h (.pure rfl) fun id id' size => ?_
  refine (optionalTexture_alike h s _ _).bind fun night night' hnight => ?_
  refine (quadState_alike s _ _ _ _ (Material.anonymous_keyed hnight _ _)).bind
    fun state state' hstate => .pure (.single ?_)
  simp [hstate]

theorem PilotLamp.build_alike (l : PilotLamp K) (s : Section) (space : Space K) :
    Alike env t SameSteps (l.build s space) (l.build s space) := by
  unfold build
  rcases l.daytime? with _ | day
  · exact giveUp_alike s _
  refine .bindTexture h (.pure rfl) fun id id' size => ?_
  refine (optionalTexture_alike h s _ _).bind fun night night' hnight => ?_
  refine (subject_alike s _ _).bindEq fun subject => ?_
  refine (quadState_alike s _ _ _ _ (Material.anonymous_keyed hnight _ _)).bind
    fun state state' hstate => .pure (.single ?_)
  simp [hstate]

theorem Needle.build_alike (n : Needle K) (s : Section) (space : Space K) :
    Alike env t SameSteps (n.build s space) (n.build s space) := by
  unfold build
  rcases n.daytime? with _ | day
  · exact giveUp_alike s _
  refine .ite (giveUp_alike s _) ?_
  refine .bindTexture h (.pure rfl) fun id id' size => ?_
  refine (optionalTexture_alike h s _ _).bind fun night night' hnight => ?_
  refine (quadState_alike s _ _ _ _ (Material.anonymous_keyed hnight _ _)).bind
    fun state state' hstate => ?_
  refine (subject_alike s _ _).bindEq fun subject => .pure (.single ?_)
  simp [hstate]

theorem LinearGauge.build_alike (g : LinearGauge K) (s : Section) (space : Space K) :
    Alike env t SameSteps (g.build s space) (g.build s space) := by
  unfold build
  rcases g.daytime? with _ | day
  · exact giveUp_alike s _
  refine .ite (giveUp_alike s _) (.ite (giveUp_alike s _) ?_)
  refine .bindTexture h (.pure rfl) fun id id' size => ?_
  refine (optionalTexture_alike h s _ _).bind fun night night' hnight => ?_
  refine (quadState_alike s _ _ _ _ (Material.anonymous_keyed hnight _ _)).bind
    fun state state' hstate => ?_
  refine (subject_alike s _ _).bindEq fun subject => .pure (.single ?_)
  simp [hstate]

theorem DigitalNumber.nightFrames_alike (d : DigitalNumber K) (s : Section) :
    Alike env t Eq (d.nightFrames s : Build K σ Nat) (d.nightFrames s) := by
  unfold nightFrames
  rcases d.nighttime? with _ | night
  · exact .pure rfl
  exact (imageSize_alike h s _).bindOption (.pure rfl) fun size => .pure rfl

theorem DigitalNumber.frame_alike (d : DigitalNumber K) (s : Section) (space : Space K)
    (day : Path) (sheet : Point K) (nightFrames index : Nat) :
    Alike env t (Option.Rel SameState) (d.frame s space day sheet nightFrames index)
      (d.frame s space day sheet nightFrames index) := by
  have hstate {id id' : TextureId} {night? night?' : Option TextureId}
      (hnight : night?.isSome = night?'.isSome) (rect : Rect K) :
      Alike env t (Option.Rel SameState)
        (some <$> Build.quadState s space rect (.both 0.5) (Build.depthOf d.layer)
          ((Material.plain (some id) night? Rgba.white).keyed d.key))
        (some <$> Build.quadState s space rect (.both 0.5) (Build.depthOf d.layer)
          ((Material.plain (some id') night?' Rgba.white).keyed d.key)) :=
    (quadState_alike s _ _ _ _ (Material.anonymous_keyed hnight _ _)).map fun _ _ => .some
  unfold frame
  refine .bindTexture h (.pure .none) fun id id' size => .ite ?_ (hstate rfl _)
  exact (optionalTexture_alike h s _ _).bind fun night night' hnight => hstate hnight _

theorem DigitalNumber.build_alike (d : DigitalNumber K) (s : Section) (space : Space K) :
    Alike env t SameSteps (d.build s space) (d.build s space) := by
  unfold build
  rcases d.daytime? with _ | day
  · exact giveUp_alike s _
  refine .ite (giveUp_alike s _) ?_
  refine (imageSize_alike h s _).bindOption (.pure rfl) fun sheet => ?_
  refine .ite (giveUp_alike s _) ((d.nightFrames_alike h s).bindEq fun nightFrames => ?_)
  refine (subject_alike s _ _).bindEq fun subject => ?_
  refine strip_alike (d.frame_alike h s space day sheet nightFrames) (fun state state' hstate => ?_)
    _ _
  simp [hstate]

omit h in
theorem DigitalGauge.build_alike (g : DigitalGauge K) (s : Section) (space : Space K) :
    Alike env t SameSteps (g.build s space) (g.build s space) := by
  unfold build
  refine .ite (giveUp_alike s _) (.ite (giveUp_alike s _) (.when (warn_alike s _) ?_))
  exact (subject_alike s _ _).bindEq fun subject => .pure rfl

omit h in
theorem Timetable.build_alike (b : Timetable K) (s : Section) (space : Space K) :
    Alike env t SameSteps (b.build s space) (b.build s space) := by
  unfold build
  refine .when (complain_alike s _) (.when (complain_alike s _) (.ite (.pure rfl) ?_))
  refine (quadState_alike s _ _ _ _ rfl).bind fun state state' hstate => .pure (.single ?_)
  simp [Element.anonymous, Element.single, Element.selectedBy, hstate]

theorem instrument_alike (space : Space K) (s : Section) :
    Alike env t SameSteps (instrument space s) (instrument space s) := by
  unfold instrument
  split
  · exact buildWith_alike _ fun l => l.build_alike h s space
  · exact buildWith_alike _ fun n => n.build_alike h s space
  · exact buildWith_alike _ fun g => g.build_alike h s space
  · exact buildWith_alike _ fun d => d.build_alike h s space
  · exact buildWith_alike _ fun g => g.build_alike s space
  · exact buildWith_alike _ fun b => b.build_alike s space
  · exact .pure rfl

theorem part_alike (space : Space K) (key : Rgb) (s : Section) (header? : Option (Header K)) :
    Alike env t SameSteps (part space key s header?) (part space key s header?) := by
  cases header? with
  | none => exact instrument_alike h space s
  | some header => exact header.build_alike h s space key

end Calibrated

end DriverDesk
