import Mathlib
import DriverDesk.Host.Memory
import DriverDesk.Proofs.Commit
import DriverDesk.Proofs.Pivots

/-!
# Backstops

The stops of a needle are the angles of its dial, that of the minimum in front. Over its range a
needle stays between the two, since an angle map has one rate; so on a dial that turns clockwise
the stops move no needle that is within it. They are written in the same order for a dial that
turns the other way, where no angle lies between them.
-/

namespace DriverDesk

open Build Step DriverDesk.Expr

/-- Between the ends of the range, an angle map stays between its angles. -/
theorem AngleMap.Carries.mem_uIcc {m : AngleMap ℝ} {f : ℝ → ℝ} (h : m.Carries f) {v : ℝ}
    (hv : v ∈ Set.uIcc m.minimum m.maximum) : f v ∈ Set.uIcc m.initial m.last := by
  obtain ⟨a, b, haffine⟩ := h.affine
  have hf : f = fun v => a * v + b := funext haffine
  have hbetween : f v ∈ Set.uIcc (f m.minimum) (f m.maximum) := by
    rcases le_total 0 a with ha | ha
    · have hmono : Monotone f := hf ▸ (monotone_mul_left_of_nonneg ha).add_const b
      exact hmono.mapsTo_uIcc hv
    · have hanti : Antitone f := hf ▸ (antitone_mul_left ha).add_const b
      exact hanti.mapsTo_uIcc hv
  rwa [h.minimum, h.maximum] at hbetween

namespace Calibrated

/-- The stops of a needle that points to `f v` for the value `v`. On a clockwise dial they are in
order, and every angle of its range lies between them; on another one they are exchanged. -/
structure Needle.Stops (n : Needle ℝ) (f : ℝ → ℝ) (lo hi : ℝ) : Prop where
  clockwise : n.initialAngle ≤ n.lastAngle →
    lo ≤ hi ∧ ∀ v ∈ Set.uIcc n.minimum n.maximum, f v ∈ Set.Icc lo hi
  anticlockwise : n.lastAngle < n.initialAngle →
    hi < lo ∧ ∀ v ∈ Set.uIcc n.minimum n.maximum, f v ∈ Set.Icc hi lo

theorem Needle.stops (n : Needle ℝ) (hrange : n.minimum ≠ n.maximum) :
    n.Stops n.angles.angle n.initialAngle n.lastAngle := by
  have hcarries : n.angles.Carries n.angles.angle := AngleMap.carries_angle hrange
  have hbetween (v : ℝ) (hv : v ∈ Set.uIcc n.minimum n.maximum) :
      n.angles.angle v ∈ Set.uIcc n.initialAngle n.lastAngle := hcarries.mem_uIcc hv
  refine ⟨fun h => ⟨h, fun v hv => ?_⟩, fun h => ⟨h, fun v hv => ?_⟩⟩
  · rw [← Set.uIcc_of_le h]
    exact hbetween v hv
  · rw [← Set.uIcc_of_ge h.le]
    exact hbetween v hv

/-- A rotation that follows the subject; with a backstop, and only then, it has stops. -/
def Needle.StopsAt (n : Needle ℝ) (subject : Expr ℝ) (r : Rotation ℝ) : Prop :=
  ∃ f, r.function.Follows subject f ∧ (n.backstop = false → r.clamp? = none) ∧
    (n.backstop = true → ∃ lo hi, r.clamp? = some (lo, hi) ∧ n.Stops f lo hi)

theorem Needle.rotation_stops (n : Needle ℝ) (hrange : n.minimum ≠ n.maximum) {subject : Expr ℝ}
    (hsubject : subject.Computes) : n.StopsAt subject (n.rotation subject) := by
  refine ⟨n.angles.angle, n.angles.follows_expression (.refl hsubject), fun h => ?_, fun h => ?_⟩
  · simp only [rotation, h, Bool.false_eq_true, if_false]
  · exact ⟨n.initialAngle, n.lastAngle, if_pos h, n.stops hrange⟩

/-- A needle turns within its stops. -/
def Needle.Stopping (n : Needle ℝ) (cars : Nat) : List (Step ℝ) → Prop :=
  Each fun e => ∃ r, e.motion = .turning r ∧
    n.StopsAt (Subject.meaning cars n.subject.name) r

variable {σ : Type} {env : BuildEnv ℝ σ} {t : σ}

theorem Needle.build_stops (n : Needle ℝ) (s : Section) (space : Space ℝ) :
    Yields env t (n.build s space) (n.Stopping env.options.cars) := by
  unfold build
  rcases n.daytime? with _ | day
  · exact (giveUp_gives s _ each_nil).yields
  refine .ite (fun _ => (giveUp_gives s _ each_nil).yields) fun hequal => ?_
  have hrange : n.minimum ≠ n.maximum := mt Arith.beq_iff_eq.mpr hequal
  refine (texture_yields s _ _).bindOption (fun _ => .pure each_nil) fun ⟨texture, size⟩ _ _ => ?_
  refine (optionalTexture_gives s _ _).yields.bind fun night _ _ => ?_
  refine (quadState_gives s _ _ _ _ _).yields.bind fun state _ _ => ?_
  refine (subject_yields s _ _).bind fun subject _ hsubject => .pure (each_single ?_)
  rw [hsubject]
  exact ⟨_, rfl, n.rotation_stops hrange (Subject.computes_meaning _ _)⟩

/-- What stops the elements of a section, if it is that of a needle. -/
def Stopping (env : BuildEnv ℝ σ) (s : Section) (steps : List (Step ℝ)) : Prop :=
  s.lowerName = "needle" → ((s.read env.read).value : Needle ℝ).Stopping env.options.cars steps

end Calibrated

/-- A backstop never moves a needle that is within a clockwise dial. -/
theorem backstops_spare_dials {σ : Type} (env : BuildEnv ℝ σ) (b : Bench σ) (space : Space ℝ)
    (s : Section) : Calibrated.Stopping env s (Calibrated.instrument space s env b).1 := by
  intro hname
  rw [Calibrated.instrument_needle hname]
  exact buildWith_yields (Calibrated.Needle.build_stops _ s space) b rfl

/-- A needle that turns anticlockwise has its stops exchanged: no angle lies between them. -/
theorem Compilation.backstop_exchanged :
    let files : List MemoryFile := [⟨⟨"Train/image.png"⟩, some ⟨16, 64⟩, none⟩]
    let text := "[Needle]\nDaytimeImage = image.png\nInitialAngle = 120\nLastAngle = -120\n" ++
      "Backstop = 1\n"
    let c := compileAs .calibrated (.ofText ⟨"Train/panel2.cfg"⟩ ⟨"Train"⟩ text)
      (Options.standard (K := Float)) (Memory.view files ⟨"Stock"⟩) (Memory.store files) .never []
    c.added.map (fun e => match e.motion with
      | .turning r => r.clamp?.map fun (lo, hi) => (decide (lo ≤ hi), decide (hi < lo))
      | _ => none) = [some (false, true)] := by
  decide +kernel

end DriverDesk
