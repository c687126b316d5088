import DriverDesk.Compile.Plan
import DriverDesk.Proofs.Postfix
import DriverDesk.Proofs.Requests

/-!
# What builders yield

`x.Yields env t P` says of work in one environment that its value has `P` on every bench with
the state `t` of the store. What a section reads to and what the store says of a texture are
known there, which work in any environment does not tell.
-/

namespace DriverDesk

variable {K σ : Type}

/-- A texture that can be had, and its size. -/
def TextureStore.load? (store : TextureStore σ) (t : σ) (path : Path) (params : TextureParams) :
    Option (TextureId × PixelSize) :=
  (store.register t path params).1.bind fun id =>
    (store.size? (store.register t path params).2 id).map fun size => (id, size)

namespace Build

/-- In the environment, the value of `x` has `P` on every bench with the textures `t`. -/
def Yields {α : Type} (env : BuildEnv K σ) (t : σ) (x : Build K σ α) (P : α → Prop) : Prop :=
  ∀ b, b.textures = t → P (x env b).1

variable {env : BuildEnv K σ} {t : σ}

namespace Yields

variable {α β : Type} {x : Build K σ α} {f : α → Build K σ β} {P : α → Prop} {Q : β → Prop}

theorem mono {P' : α → Prop} (hx : Yields env t x P) (h : ∀ a, P a → P' a) : Yields env t x P' :=
  fun b hb => h _ (hx b hb)

theorem pure {a : α} (h : P a) : Yields env t (Pure.pure a) P := fun _ _ => h

theorem bind (hx : Yields env t x P) (hf : ∀ a t', P a → Yields env t' (f a) Q) :
    Yields env t (x >>= f) Q :=
  fun b hb => hf _ _ (hx b hb) _ rfl

/-- What follows work that may have no value. -/
theorem bindOption {x : Build K σ (Option α)} {f : Option α → Build K σ β}
    {P : Option α → Prop} (hx : Yields env t x P)
    (hnone : ∀ t', Yields env t' (f none) Q)
    (hsome : ∀ a t', P (some a) → Yields env t' (f (some a)) Q) : Yields env t (x >>= f) Q := by
  refine hx.bind fun a? t' ha => ?_
  cases a? with
  | none => exact hnone t'
  | some a => exact hsome a t' ha

/-- What follows a look at the environment. -/
theorem read {f : BuildEnv K σ → Build K σ β} (h : Yields env t (f env) Q) :
    Yields env t (MonadReader.read >>= f) Q := fun b hb => h b hb

theorem ite {c : Prop} [Decidable c] {y : Build K σ α} (hx : c → Yields env t x P)
    (hy : ¬ c → Yields env t y P) : Yields env t (if c then x else y) P := by
  split
  next h => exact hx h
  next h => exact hy h

end Yields

theorem Gives.yields {α : Type} {x : Build K σ α} {P : α → Prop} (h : Gives x P) :
    Yields env t x P := fun b _ => (h env b).1

theorem Asks.yields {α : Type} {x : Build K σ α} {P : α → List Registration → Prop}
    (h : Asks env t x P) : Yields env t x fun a => ∃ rs, P a rs := fun b hb => by
  obtain ⟨rs, -, ha⟩ := h b hb
  exact ⟨rs, ha⟩

theorem take_yields {α : Type} (x : Noted α) :
    Yields env t (take x : Build K σ α) (· = x.value) := fun _ _ => rfl

/-- What a section is read with is reported before it is built. -/
theorem buildWith_run {α : Type} [Readable α] (build : α → Section → Build K σ (List (Step K)))
    (s : Section) (b : Bench σ) : buildWith α build s env b = build (s.read env.read).value s env
      { b with diagnostics := b.diagnostics ++ (s.read env.read : Noted α).notes } := rfl

/-- What a section is built to, once it is read. -/
theorem buildWith_yields {α : Type} [Readable α] {build : α → Section → Build K σ (List (Step K))}
    {s : Section} {P : List (Step K) → Prop}
    (h : Yields env t (build (s.read env.read).value s) P) :
    Yields env t (buildWith α build s) P := by
  intro b hb
  rw [buildWith_run]
  exact h _ hb

variable [Arith K]

theorem subject_yields (s : Section) (name : String) (line? : Option Nat) :
    Yields env t (subject s name line?) (· = Subject.meaning env.options.cars name) := by
  refine Yields.bind (x := read) (P := (· = env)) (fun _ _ => rfl) fun env' t' henv => ?_
  subst henv
  rw [← Subject.value_expression_eq]
  exact take_yields _

/-- A texture is what the store loads. -/
theorem texture_yields (s : Section) (path : Path) (params : TextureParams) :
    Yields env t (texture s path params : Build K σ _)
      (· = (env.store.load? t path params).map fun p => (p.1, lengths p.2)) := by
  have found (x : Option (TextureId × Point K)) (t' : σ) :
      Asks env t' (do
        if x.isNone then complain s ("Texture " ++ path.text ++ " could not be loaded")
        pure x : Build K σ _) fun x' _ => x' = x :=
    .whenQuiet (complain_asks s _) (.pure rfl)
  have h : Asks env t (texture s path params : Build K σ _) fun found? _ =>
      found? = (env.store.load? t path params).map fun p => (p.1, lengths p.2) := by
    refine (register_asks path params).answered.bind fun id? rs h => ?_
    obtain ⟨rfl, hid, -⟩ := h
    change id? = (env.store.register t path params).1 at hid
    rw [TextureStore.load?, ← hid]
    cases id? with
    | none => exact found none _
    | some id =>
      refine Asks.read.bindQuiet fun env' henv => Asks.get.bindQuiet fun b hb => ?_
      subst henv
      refine (found _ _).mono fun found? _ hfound => ?_
      rw [hfound, hb, Option.bind_some, Option.map_map]
      rfl
  intro b hb
  obtain ⟨_, h⟩ := h.yields b hb
  exact h

end Build

/-! ## Instruments by name -/

section

variable [Arith K] {space : Space K} {s : Section}

namespace Calibrated

theorem instrument_needle (hname : s.lowerName = "needle") :
    instrument (σ := σ) space s = buildWith (Needle K) (fun n s => n.build s space) s := by
  simp [instrument, hname]

theorem instrument_linearGauge (hname : s.lowerName = "lineargauge") :
    instrument (σ := σ) space s = buildWith (LinearGauge K) (fun g s => g.build s space) s := by
  simp [instrument, hname]

theorem instrument_digitalNumber (hname : s.lowerName = "digitalnumber") :
    instrument (σ := σ) space s = buildWith (DigitalNumber K) (fun d s => d.build s space) s := by
  simp [instrument, hname]

theorem instrument_digitalGauge (hname : s.lowerName = "digitalgauge") :
    instrument (σ := σ) space s = buildWith (DigitalGauge K) (fun g s => g.build s space) s := by
  simp [instrument, hname]

end Calibrated

namespace Framed

theorem instrument_pressureGauge
    (hname : s.lowerName ∈ ["pressuregauge", "pressuremeter", "pressureindicator", "圧力計"]) :
    instrument (σ := σ) space s = buildWith (PressureGauge K) (fun g s => g.build s space) s := by
  simp only [List.mem_cons, List.not_mem_nil, or_false] at hname
  rcases hname with h | h | h | h <;> simp [instrument, h]

theorem instrument_speedometer
    (hname : s.lowerName ∈ ["speedometer", "speedindicator", "速度計"]) :
    instrument (σ := σ) space s = buildWith (Speedometer K) (fun m s => m.build s space) s := by
  simp only [List.mem_cons, List.not_mem_nil, or_false] at hname
  rcases hname with h | h | h <;> simp [instrument, h]

theorem instrument_digitalIndicator (hname : s.lowerName ∈ ["digitalindicator", "デジタル速度計"]) :
    instrument (σ := σ) space s =
      buildWith (DigitalIndicator K) (fun d s => d.build s space) s := by
  simp only [List.mem_cons, List.not_mem_nil, or_false] at hname
  rcases hname with h | h <;> simp [instrument, h]

theorem instrument_watch (hname : s.lowerName ∈ ["watch", "時計"]) :
    instrument (σ := σ) space s = buildWith (Watch K) (fun w s => w.build s space) s := by
  simp only [List.mem_cons, List.not_mem_nil, or_false] at hname
  rcases hname with h | h <;> simp [instrument, h]

theorem instrument_brakeIndicator (hname : s.lowerName ∈ ["brakeindicator", "ブレーキ表示灯"]) :
    instrument (σ := σ) space s = buildWith (BrakeIndicator K) (fun b s => b.build s space) s := by
  simp only [List.mem_cons, List.not_mem_nil, or_false] at hname
  rcases hname with h | h <;> simp [instrument, h]

end Framed

end

end DriverDesk
