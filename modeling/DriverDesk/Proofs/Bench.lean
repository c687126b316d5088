import DriverDesk.Build.Basic
import DriverDesk.Proofs.Placement

/-!
# What builders leave behind

`x.Gives P` says of work on a bench that its value has `P` whatever the environment
and the bench are, and that the bench keeps what it held: registrations and
diagnostics are only added behind the earlier ones. It goes through binds, so a
builder is gone through once, and there is one lemma for each way of working on a
bench.
-/

namespace DriverDesk

variable {K σ : Type}

/-- The later bench holds what the earlier one does, and possibly more behind it. -/
structure Bench.Extends (later earlier : Bench σ) : Prop where
  registrations : earlier.registrations <+: later.registrations
  diagnostics : earlier.diagnostics <+: later.diagnostics

namespace Bench.Extends

theorem refl (b : Bench σ) : b.Extends b := ⟨List.prefix_refl _, List.prefix_refl _⟩

theorem trans {b₁ b₂ b₃ : Bench σ} (h₂ : b₃.Extends b₂) (h₁ : b₂.Extends b₁) : b₃.Extends b₁ :=
  ⟨h₁.registrations.trans h₂.registrations, h₁.diagnostics.trans h₂.diagnostics⟩

end Bench.Extends

namespace Build

/-- The value of `x` has `P`, and the bench keeps what it held. -/
def Gives {α : Type} (x : Build K σ α) (P : α → Prop) : Prop :=
  ∀ env b, P (x env b).1 ∧ (x env b).2.Extends b

namespace Gives

variable {α β : Type} {x : Build K σ α} {f : α → Build K σ β} {P : α → Prop} {Q : β → Prop}

theorem pure {a : α} (h : P a) : Gives (Pure.pure a : Build K σ α) P :=
  fun _ b => ⟨h, .refl b⟩

theorem bind (hx : Gives x P) (hf : ∀ a, P a → Gives (f a) Q) : Gives (x >>= f) Q := by
  intro env b
  obtain ⟨ha, hb⟩ := hx env b
  obtain ⟨hc, hb'⟩ := hf _ ha env (x env b).2
  exact ⟨hc, hb'.trans hb⟩

/-- What follows work that may have no value. -/
theorem bindOption {x : Build K σ (Option α)} {f : Option α → Build K σ β}
    (hx : Gives x fun _ => True) (hnone : Gives (f none) Q) (hsome : ∀ a, Gives (f (some a)) Q) :
    Gives (x >>= f) Q := by
  refine hx.bind fun a? _ => ?_
  cases a? with
  | none => exact hnone
  | some a => exact hsome a

theorem mono {P' : α → Prop} (hx : Gives x P) (h : ∀ a, P a → P' a) : Gives x P' :=
  fun env b => ⟨h _ (hx env b).1, (hx env b).2⟩

/-- What a value is mapped to. -/
theorem map {g : α → β} (hx : Gives x P) (h : ∀ a, P a → Q (g a)) : Gives (g <$> x) Q :=
  fun env b => ⟨h _ (hx env b).1, (hx env b).2⟩

theorem read : Gives (read : Build K σ (BuildEnv K σ)) fun _ => True :=
  fun _ b => ⟨trivial, .refl b⟩

theorem get : Gives (get : Build K σ (Bench σ)) fun _ => True := fun _ b => ⟨trivial, .refl b⟩

theorem ite {c : Prop} [Decidable c] {y : Build K σ α} (hx : Gives x P) (hy : Gives y P) :
    Gives (if c then x else y) P := by
  split
  · exact hx
  · exact hy

/-- Something done or left out before the rest. -/
theorem when {c : Prop} [Decidable c] {y : Build K σ Unit} {rest : Unit → Build K σ α}
    (hy : Gives y fun _ => True) (h : Gives (rest ()) P) :
    Gives (if c then y >>= rest else rest ()) P :=
  ite (bind hy fun _ _ => h) h

end Gives

theorem take_gives {α : Type} {x : Noted α} {P : α → Prop} (h : P x.value) :
    Gives (take x : Build K σ α) P :=
  fun _ b => ⟨h, List.prefix_refl _, List.prefix_append b.diagnostics x.notes⟩

theorem report_gives (d : Diagnostic) : Gives (report d : Build K σ Unit) fun _ => True :=
  take_gives trivial

theorem register_gives (path : Path) (params : TextureParams) :
    Gives (register path params : Build K σ (Option TextureId)) fun _ => True :=
  fun _ b => ⟨trivial, List.prefix_append b.registrations _, List.prefix_refl _⟩

theorem settings_gives (α : Type) [Readable α] (s : Section) :
    Gives (settings α s : Build K σ α) fun _ => True :=
  Gives.read.bind fun _ _ => take_gives trivial

theorem complain_gives (s : Section) (message : String) :
    Gives (complain s message : Build K σ Unit) fun _ => True :=
  Gives.read.bind fun _ _ => report_gives _

theorem warn_gives (s : Section) (message : String) :
    Gives (warn s message : Build K σ Unit) fun _ => True :=
  Gives.read.bind fun _ _ => report_gives _

theorem giveUp_gives {α : Type} {P : List α → Prop} (s : Section) (message : String) (h : P []) :
    Gives (giveUp s message : Build K σ (List α)) P :=
  (complain_gives s message).bind fun _ _ => .pure h

theorem stockImage_gives (s : Section) (image : String) :
    Gives (stockImage s image : Build K σ _) fun _ => True := by
  refine Gives.read.bind fun env _ => ?_
  exact .ite (.pure trivial) ((report_gives _).bind fun _ _ => .pure trivial)

/-- The frames of a strip make one element, if the first of them can be built. -/
theorem strip_gives {frame : Nat → Build K σ (Option (ElementState K))}
    {first : ElementState K → Element K} {P : Element K → Prop}
    (hframe : ∀ i, Gives (frame i) fun _ => True) (hfirst : ∀ state, P (first state))
    (count : Nat) : Gives (strip frame first count 0) (Step.Assembled P) := by
  have behind : ∀ count i, 0 < i →
      Gives (strip frame first count i) fun steps =>
        ∃ states : List (ElementState K), steps = states.map Step.state := by
    intro count
    induction count with
    | zero => intro i _; exact .pure ⟨[], rfl⟩
    | succ count ih =>
      intro i hi
      refine (hframe i).bind fun state? _ => ?_
      cases state? with
      | none => exact .pure ⟨[], rfl⟩
      | some state =>
        refine (ih (i + 1) (by omega)).bind fun steps hsteps => .pure ?_
        obtain ⟨states, rfl⟩ := hsteps
        exact ⟨state :: states, by simp [show i ≠ 0 by omega]⟩
  cases count with
  | zero => exact .pure .nil
  | succ count =>
    refine (hframe 0).bind fun state? _ => ?_
    cases state? with
    | none => exact .pure .nil
    | some state =>
      refine (behind count 1 (by omega)).bind fun steps hsteps => .pure ?_
      obtain ⟨states, rfl⟩ := hsteps
      exact .single (hfirst state) states

section

variable [Arith K]

/-- A texture comes with the size that the store knows for it. -/
theorem texture_gives_lengths (s : Section) (path : Path) (params : TextureParams) :
    Gives (texture s path params : Build K σ _) fun found? =>
      ∀ found, found? = some found → ∃ size, found.2 = lengths size := by
  have found (x : Option (TextureId × Point K))
      (hx : ∀ found, x = some found → ∃ size, found.2 = lengths size) :
      Gives (do
        if x.isNone then complain s ("Texture " ++ path.text ++ " could not be loaded")
        Pure.pure x : Build K σ _) fun found? =>
          ∀ found, found? = some found → ∃ size, found.2 = lengths size :=
    .when (complain_gives s _) (.pure hx)
  refine (register_gives path params).bind fun id? _ => ?_
  cases id? with
  | none => exact found none fun _ h => nomatch h
  | some id =>
    refine Gives.read.bind fun env _ => Gives.get.bind fun b _ => found _ fun _ h => ?_
    obtain ⟨size, -, rfl⟩ := Option.map_eq_some_iff.mp h
    exact ⟨size, rfl⟩

theorem texture_gives (s : Section) (path : Path) (params : TextureParams) :
    Gives (texture s path params : Build K σ _) fun _ => True :=
  (texture_gives_lengths s path params).mono fun _ _ => trivial

theorem optionalTexture_gives (s : Section) (path? : Option Path) (params : TextureParams) :
    Gives (optionalTexture s path? params : Build K σ _) fun _ => True := by
  cases path? with
  | none => exact .pure trivial
  | some path => exact (texture_gives s path params).bind fun _ _ => .pure trivial

theorem imageSize_gives (s : Section) (path : Path) :
    Gives (imageSize s path : Build K σ _) fun _ => True :=
  Gives.read.bind fun _ _ => Gives.get.bind fun _ _ =>
    .when (complain_gives s _) (.pure trivial)

theorem quadState_gives (s : Section) (space : Space K) (rect : Rect K) (pivot : Point K)
    (depth : K) (m : Material) :
    Gives (quadState s space rect pivot depth m : Build K σ _) fun _ => True := by
  unfold quadState
  exact .when (warn_gives s _) (.pure trivial)

end

end Build

end DriverDesk
