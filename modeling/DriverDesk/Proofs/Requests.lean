import DriverDesk.Build.Basic

/-!
# Requests to the texture store

Builders change the textures of a bench by requests alone, and the bench keeps a log of
them. `x.Asks env t P` says of work that starts from the state `t` of the store that the
log and the store keep in step, and that `P` relates its value to its requests. It goes
through binds: the requests of what follows stand behind those of what came before.
-/

namespace DriverDesk

variable {K σ : Type}

namespace TextureStore

variable (store : TextureStore σ)

/-- The state of the store after some requests. -/
def after (t : σ) (requests : List Registration) : σ :=
  requests.foldl (fun t r => (store.register t r.path r.params).2) t

/-- Each request is logged with the answer that the store gives to it. -/
def Answers : σ → List Registration → Prop
  | _, [] => True
  | t, r :: rs =>
    r.id? = (store.register t r.path r.params).1 ∧
      Answers (store.register t r.path r.params).2 rs

/-- A request is answered with a texture whose size the store then knows. -/
def Loads (t : σ) (r : Registration) : Prop :=
  ∃ id, r.id? = some id ∧ (store.size? (store.after t [r]) id).isSome = true

theorem after_append (t : σ) (l₁ l₂ : List Registration) :
    store.after t (l₁ ++ l₂) = store.after (store.after t l₁) l₂ := List.foldl_append

theorem answers_append {t : σ} {l₁ l₂ : List Registration} :
    store.Answers t (l₁ ++ l₂) ↔ store.Answers t l₁ ∧ store.Answers (store.after t l₁) l₂ := by
  induction l₁ generalizing t with
  | nil => exact ⟨fun h => ⟨trivial, h⟩, fun h => h.2⟩
  | cons r l₁ ih =>
    rw [List.cons_append, Answers, Answers, ih, and_assoc]
    rfl

end TextureStore

/-- Between two benches, requests were made of the store, and each was logged. -/
structure Bench.Requested (store : TextureStore σ) (before after : Bench σ)
    (requests : List Registration) : Prop where
  log : after.registrations = before.registrations ++ requests
  textures : after.textures = store.after before.textures requests
  answers : store.Answers before.textures requests

namespace Bench.Requested

variable {store : TextureStore σ} {b₁ b₂ b₃ : Bench σ} {l₁ l₂ : List Registration}

theorem refl (store : TextureStore σ) (b : Bench σ) : Requested store b b [] :=
  ⟨(List.append_nil _).symm, rfl, trivial⟩

theorem trans (h₁ : Requested store b₁ b₂ l₁) (h₂ : Requested store b₂ b₃ l₂) :
    Requested store b₁ b₃ (l₁ ++ l₂) := by
  refine ⟨?_, ?_, store.answers_append.mpr ⟨h₁.answers, ?_⟩⟩
  · rw [h₂.log, h₁.log, List.append_assoc]
  · rw [h₂.textures, h₁.textures, store.after_append]
  · rw [← h₁.textures]; exact h₂.answers

end Bench.Requested

namespace Build

/-- From the state `t` of the store on, `x` logs the requests it makes, and its value and
its requests have `P`. -/
def Asks {α : Type} (env : BuildEnv K σ) (t : σ) (x : Build K σ α)
    (P : α → List Registration → Prop) : Prop :=
  ∀ b, b.textures = t →
    ∃ requests, Bench.Requested env.store b (x env b).2 requests ∧ P (x env b).1 requests

/-- No requests are made, and the value has `P`. -/
def Quietly {α : Type} (P : α → Prop) : α → List Registration → Prop :=
  fun a requests => requests = [] ∧ P a

namespace Asks

variable {α β : Type} {env : BuildEnv K σ} {t : σ} {x : Build K σ α} {f : α → Build K σ β}
  {P : α → List Registration → Prop} {Q : β → List Registration → Prop}

theorem mono {P' : α → List Registration → Prop} (hx : Asks env t x P)
    (h : ∀ a rs, P a rs → P' a rs) : Asks env t x P' := by
  intro b hb
  obtain ⟨rs, hrs, ha⟩ := hx b hb
  exact ⟨rs, hrs, h _ _ ha⟩

/-- The requests are logged with the answers of the store. -/
theorem answered (hx : Asks env t x P) :
    Asks env t x fun a rs => P a rs ∧ env.store.Answers t rs := by
  intro b hb
  obtain ⟨rs, hrs, ha⟩ := hx b hb
  exact ⟨rs, hrs, ha, hb ▸ hrs.answers⟩

theorem pure {a : α} (h : P a []) : Asks env t (Pure.pure a) P :=
  fun b _ => ⟨[], .refl env.store b, h⟩

theorem bind (hx : Asks env t x P)
    (hf : ∀ a rs, P a rs →
      Asks env (env.store.after t rs) (f a) fun c rs' => Q c (rs ++ rs')) :
    Asks env t (x >>= f) Q := by
  intro b hb
  obtain ⟨rs, hrs, ha⟩ := hx b hb
  obtain ⟨rs', hrs', hc⟩ := hf _ rs ha (x env b).2 (by rw [hrs.textures, hb])
  exact ⟨rs ++ rs', hrs.trans hrs', hc⟩

/-- What follows work without requests. -/
theorem bindQuiet {P : α → Prop} (hx : Asks env t x (Quietly P))
    (hf : ∀ a, P a → Asks env t (f a) Q) : Asks env t (x >>= f) Q := by
  refine hx.bind fun a rs ⟨hrs, ha⟩ => ?_
  subst hrs
  exact hf a ha

/-- What a value is mapped to. -/
theorem map {g : α → β} (hx : Asks env t x P) (h : ∀ a rs, P a rs → Q (g a) rs) :
    Asks env t (g <$> x) Q := by
  intro b hb
  obtain ⟨rs, hrs, ha⟩ := hx b hb
  exact ⟨rs, hrs, h _ _ ha⟩

theorem ite {c : Prop} [Decidable c] {y : Build K σ α} (hx : c → Asks env t x P)
    (hy : ¬ c → Asks env t y P) : Asks env t (if c then x else y) P := by
  split
  next h => exact hx h
  next h => exact hy h

/-- Something done without requests, or left out, before the rest. -/
theorem whenQuiet {c : Prop} [Decidable c] {y : Build K σ Unit} {rest : Unit → Build K σ α}
    (hy : Asks env t y (Quietly fun _ => True)) (h : Asks env t (rest ()) P) :
    Asks env t (if c then y >>= rest else rest ()) P :=
  ite (fun _ => bindQuiet hy fun _ _ => h) fun _ => h

theorem read : Asks env t (MonadReader.read : Build K σ (BuildEnv K σ)) (Quietly (· = env)) :=
  fun b _ => ⟨[], .refl env.store b, rfl, rfl⟩

theorem get : Asks env t (MonadState.get : Build K σ (Bench σ))
    (Quietly fun b => b.textures = t) :=
  fun b hb => ⟨[], .refl env.store b, rfl, hb⟩

end Asks

variable {env : BuildEnv K σ} {t : σ}

/-! ## The ways of working on a bench -/

theorem take_asks {α : Type} (x : Noted α) :
    Asks env t (take x : Build K σ α) (Quietly (· = x.value)) :=
  fun _ _ => ⟨[], ⟨(List.append_nil _).symm, rfl, trivial⟩, rfl, rfl⟩

theorem report_asks (d : Diagnostic) :
    Asks env t (report d : Build K σ Unit) (Quietly fun _ => True) :=
  (take_asks _).mono fun _ _ h => ⟨h.1, trivial⟩

theorem settings_asks (α : Type) [Readable α] (s : Section) :
    Asks env t (settings α s : Build K σ α) (Quietly (· = (s.read env.read).value)) :=
  Asks.read.bindQuiet fun env' henv => by
    subst henv
    exact take_asks _

theorem complain_asks (s : Section) (message : String) :
    Asks env t (complain s message : Build K σ Unit) (Quietly fun _ => True) :=
  Asks.read.bindQuiet fun _ _ => report_asks _

theorem warn_asks (s : Section) (message : String) :
    Asks env t (warn s message : Build K σ Unit) (Quietly fun _ => True) :=
  Asks.read.bindQuiet fun _ _ => report_asks _

theorem giveUp_asks {α : Type} {P : List α → List Registration → Prop} (s : Section)
    (message : String) (h : P [] []) :
    Asks env t (giveUp s message : Build K σ (List α)) P :=
  (complain_asks s message).bindQuiet fun _ _ => .pure h

theorem stockImage_asks (s : Section) (image : String) :
    Asks env t (stockImage s image : Build K σ _) (Quietly fun _ => True) := by
  refine Asks.read.bindQuiet fun env _ => ?_
  refine .ite (fun _ => .pure ⟨rfl, trivial⟩) fun _ => ?_
  exact (report_asks _).bindQuiet fun _ _ => .pure ⟨rfl, trivial⟩

theorem register_asks (path : Path) (params : TextureParams) :
    Asks env t (register path params : Build K σ (Option TextureId)) fun id? rs =>
      rs = [⟨path, params, id?⟩] := by
  intro b hb
  subst hb
  exact ⟨_, ⟨rfl, rfl, rfl, trivial⟩, rfl⟩

section

variable [Arith K]

theorem subject_asks (s : Section) (name : String) (line? : Option Nat) :
    Asks env t (subject s name line? : Build K σ (Expr K)) (Quietly fun _ => True) :=
  Asks.read.bindQuiet fun _ _ => (take_asks _).mono fun _ _ h => ⟨h.1, trivial⟩

theorem imageSize_asks (s : Section) (path : Path) :
    Asks env t (imageSize s path : Build K σ _)
      (Quietly (· = (env.store.imageSize? t path).map lengths)) := by
  refine Asks.read.bindQuiet fun env' henv => Asks.get.bindQuiet fun b hb => ?_
  subst henv hb
  exact .whenQuiet (complain_asks s _) (.pure ⟨rfl, rfl⟩)

theorem quadState_asks (s : Section) (space : Space K) (rect : Rect K) (pivot : Point K)
    (depth : K) (m : Material) :
    Asks env t (quadState s space rect pivot depth m : Build K σ _)
      (Quietly (· = ⟨(space.quad rect pivot depth).offset,
        .ofQuad (space.quad rect pivot depth) m⟩)) := by
  unfold quadState
  exact .whenQuiet (warn_asks s _) (.pure ⟨rfl, rfl⟩)

/-- A texture is one request, and it is had if the request loads it. -/
theorem texture_asks (s : Section) (path : Path) (params : TextureParams) :
    Asks env t (texture s path params : Build K σ _) fun found? rs =>
      ∃ r : Registration, rs = [r] ∧ r.path = path ∧ r.params = params ∧
        (∀ id size, found? = some (id, size) → r.id? = some id ∧ env.store.Loads t r) ∧
        (found? = none → ¬ env.store.Loads t r) := by
  have found {t' : σ} (x : Option (TextureId × Point K)) :
      Asks env t' (do
        if x.isNone then complain s ("Texture " ++ path.text ++ " could not be loaded")
        Pure.pure x : Build K σ _) (Quietly (· = x)) :=
    .whenQuiet (complain_asks s _) (.pure ⟨rfl, rfl⟩)
  refine (register_asks path params).bind fun id? rs hrs => ?_
  subst hrs
  cases id? with
  | none =>
    refine (found none).mono fun found? rs' ⟨hrs', hfound⟩ => ?_
    subst hrs' hfound
    exact ⟨_, rfl, rfl, rfl, nofun, fun _ ⟨_, hid, _⟩ => nomatch hid⟩
  | some id =>
    refine Asks.read.bindQuiet fun env' henv => Asks.get.bindQuiet fun b hb => ?_
    subst henv
    refine (found _).mono fun found? rs' ⟨hrs', hfound⟩ => ?_
    subst hrs' hfound
    refine ⟨_, rfl, rfl, rfl, fun id' size h => ?_, fun h hloads => ?_⟩
    · obtain ⟨size', hsize, h⟩ := Option.map_eq_some_iff.mp h
      cases h
      exact ⟨rfl, id, rfl, by rw [← hb, hsize]; rfl⟩
    · obtain ⟨id', hid, hsize⟩ := hloads
      cases hid
      rw [← hb, Option.map_eq_none_iff.mp h] at hsize
      cases hsize

/-- A texture that need not be there is at most one request. -/
theorem optionalTexture_asks (s : Section) (path? : Option Path) (params : TextureParams) :
    Asks env t (optionalTexture s path? params : Build K σ _) fun id? rs =>
      ∃ r? : Option Registration, rs = r?.toList ∧ r?.isSome = path?.isSome ∧
        (∀ r, r? = some r → path? = some r.path ∧ r.params = params) ∧
        (∀ id, id? = some id → ∃ r, r? = some r ∧ r.id? = some id ∧ env.store.Loads t r) ∧
        (id? = none → ∀ r, r? = some r → ¬ env.store.Loads t r) := by
  cases path? with
  | none => exact .pure ⟨none, rfl, rfl, nofun, nofun, nofun⟩
  | some path =>
    refine (texture_asks s path params).bind fun found? rs h => .pure ?_
    obtain ⟨r, rfl, rfl, rfl, hsome, hnone⟩ := h
    refine ⟨some r, rfl, rfl, ?_, fun id hid => ?_, fun hid => ?_⟩
    · rintro _ ⟨⟩; exact ⟨rfl, rfl⟩
    · obtain ⟨found, rfl, rfl⟩ := Option.map_eq_some_iff.mp hid
      exact ⟨r, rfl, hsome found.1 found.2 rfl⟩
    · rintro _ ⟨⟩; exact hnone (Option.map_eq_none_iff.mp hid)

/-- What follows a texture: its request loads, or it does not. -/
theorem Asks.bindTexture {α : Type} {s : Section} {path : Path} {params : TextureParams}
    {f : Option (TextureId × Point K) → Build K σ α} {Q : α → List Registration → Prop}
    (hnone : ∀ r : Registration, r.path = path → r.params = params → ¬ env.store.Loads t r →
      Asks env (env.store.after t [r]) (f none) fun a rs => Q a (r :: rs))
    (hsome : ∀ (r : Registration) (id : TextureId) (size : Point K), r.path = path →
      r.params = params → r.id? = some id → env.store.Loads t r →
      Asks env (env.store.after t [r]) (f (some (id, size))) fun a rs => Q a (r :: rs)) :
    Asks env t (texture s path params >>= f) Q := by
  refine (texture_asks s path params).bind fun found? rs h => ?_
  obtain ⟨r, rfl, hpath, hparams, hsome', hnone'⟩ := h
  cases found? with
  | none => exact hnone r hpath hparams (hnone' rfl)
  | some found =>
    obtain ⟨hid, hloads⟩ := hsome' found.1 found.2 rfl
    exact hsome r found.1 found.2 hpath hparams hid hloads

end

end Build

end DriverDesk
