import Mathlib
import DriverDesk.Calibrated.LinearGauge
import DriverDesk.Proofs.Evaluation

/-!
# Dials

What the expressions of gauges make of the value they follow. An angle map carries its range
onto its angles at one rate; a value that moves in steps is lowered to a multiple of the
step before that.
-/

namespace DriverDesk

open DriverDesk.Expr

/-! ## Angles -/

namespace AngleMap

/-- The range of the map is carried onto its angles at one rate. -/
structure Carries (m : AngleMap ℝ) (f : ℝ → ℝ) : Prop where
  affine : ∃ a b, ∀ v, f v = a * v + b
  minimum : f m.minimum = m.initial
  maximum : f m.maximum = m.last
  strict : m.initial ≠ m.last → StrictMono f ∨ StrictAnti f

/-- The angle of a value. -/
noncomputable def angle (m : AngleMap ℝ) (v : ℝ) : ℝ := m.coefficients.1 * v + m.coefficients.2

/-- A range that is not empty has a rate, which is not zero between different angles. -/
theorem carries_angle {m : AngleMap ℝ} (h : m.minimum ≠ m.maximum) : m.Carries m.angle where
  affine := ⟨_, _, fun _ => rfl⟩
  minimum := by
    have hrange : m.maximum - m.minimum ≠ 0 := sub_ne_zero.mpr h.symm
    simp only [angle, coefficients]
    field_simp
    ring
  maximum := by
    have hrange : m.maximum - m.minimum ≠ 0 := sub_ne_zero.mpr h.symm
    simp only [angle, coefficients]
    field_simp
    ring
  strict hangles := by
    have hrate : m.coefficients.1 ≠ 0 :=
      div_ne_zero (sub_ne_zero.mpr hangles.symm) (sub_ne_zero.mpr h.symm)
    rcases lt_or_gt_of_ne hrate with hneg | hpos
    · exact .inr fun v w hvw => add_lt_add_left (mul_lt_mul_of_neg_left hvw hneg) _
    · exact .inl fun v w hvw => add_lt_add_left (mul_lt_mul_of_pos_left hvw hpos) _

theorem follows_expression (m : AngleMap ℝ) {value subject : Expr ℝ} {f : ℝ → ℝ}
    (h : value.Follows subject f) : (m.expression value).Follows subject (m.angle ∘ f) :=
  h.append fun _ v => by
    simp only [run?, Operator.run?, angle, mul_comm m.coefficients.1 v, Option.bind_some]

end AngleMap

/-! ## Steps -/

/-- A value that moves in steps; a step of zero is none. -/
noncomputable def lowered (step v : ℝ) : ℝ := if step = 0 then v else step * ⌊v / step⌋

theorem lowered_zero : lowered 0 = id := by
  funext v
  simp [lowered]

theorem follows_quantize {value subject : Expr ℝ} {f : ℝ → ℝ} (step : ℝ)
    (h : value.Follows subject f) :
    (value ++ quantize step).Follows subject (lowered step ∘ f) :=
  h.append fun _ v => by
    unfold quantize lowered
    simp only [Arith.beq_iff_eq]
    by_cases hone : step = 1.0
    · norm_num [hone, run?, Operator.run?]
    by_cases hzero : step = 0
    · norm_num [hzero, run?]
    · rw [if_neg hone, if_neg (by norm_num; exact hzero), if_neg hzero]
      simp only [run?, Operator.run?, Option.bind_some, mul_comm step,
        div_eq_mul_one_div v]
      norm_num

/-! ## Shifts -/

namespace Calibrated.LinearGauge

/-- The shift of a value, in widths of the texture. -/
noncomputable def shiftOf (g : LinearGauge ℝ) (textureWidth v : ℝ) : ℝ :=
  (v - g.minimum) * (g.width / textureWidth / (g.maximum - g.minimum))

theorem follows_shift (g : LinearGauge ℝ) (textureWidth : ℝ) {value subject : Expr ℝ} {f : ℝ → ℝ}
    (h : value.Follows subject f) :
    (g.shift textureWidth value).Follows subject (g.shiftOf textureWidth ∘ f) :=
  h.append fun _ v => by simp only [run?, Operator.run?, shiftOf, Option.bind_some]

end Calibrated.LinearGauge

end DriverDesk
