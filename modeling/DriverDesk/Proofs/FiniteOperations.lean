import Mathlib
import DriverDesk.Proofs.DoubleLengths
import DriverDesk.Proofs.Doubles

/-!
# Finite results

What settings work out from a finite number stays finite: its negation and its absolute value,
its product with a factor of at most one, its quotient by a divisor of at least one. Degrees in
radians and kilometres per hour in metres per second are such results.
-/

namespace DriverDesk

open Float.Model.UnpackedFloat Decimal

variable {x y : Float} {v : ℚ}

theorem isFinite_of_rounded {negative : Bool} (h : Rounded negative v x) (hv : v < overflow) :
    IsFinite x := by
  unfold Rounded at h
  unfold IsFinite
  cases hx : Binary.ofFloat? x with
  | none =>
    rw [hx] at h
    exact absurd hv (not_lt.mpr h)
  | some b => rfl

theorem Binary.IsDouble.lt_overflow {b : Binary} (h : b.IsDouble) :
    (b.mantissa : ℚ) * 2 ^ b.exponent < overflow :=
  Attracts.self.lt_overflow h.1 h.2

/-- A finite double is a zero or a number with digits. -/
theorem IsFinite.unpack (h : IsFinite x) :
    (∃ s, x.toModel.unpack = .zero s) ∨
      ∃ s m e, ∃ hm : 0 < m, x.toModel.unpack = .finite s m e hm ∧
        (m : ℚ) * 2 ^ e < overflow := by
  obtain ⟨b, hb⟩ := Option.isSome_iff_exists.mp h
  have hdouble := (Binary.isDouble_of_ofFloat? hb).lt_overflow
  rw [Binary.ofFloat?_eq] at hb
  cases hx : x.toModel.unpack with
  | zero s => exact .inl ⟨s, rfl⟩
  | finite s m e hm =>
    rw [hx] at hb
    obtain rfl := Option.some.inj hb
    exact .inr ⟨s, m, e, hm, rfl, hdouble⟩
  | infinity s => rw [hx] at hb; cases hb
  | notANumber => rw [hx] at hb; cases hb

theorem isFinite_pack_zero (s : Sign) : IsFinite (.ofModel (Float.Model.pack (.zero s))) := by
  cases s <;> rfl

theorem Measures.isFinite (h : Measures x v) : IsFinite x := by
  obtain ⟨m, e, hx, -⟩ := h
  exact Option.isSome_iff_exists.mpr ⟨_, hx⟩

/-! ## Signs -/

theorem float_beq_iff (x y : Float) :
    (x == y) = true ↔ x.toModel.unpack.compare y.toModel.unpack = some .eq := by
  show (x.toModel.unpack.compare y.toModel.unpack == some Ordering.eq) = true ↔ _
  exact beq_iff_eq

theorem float_le_of_lt (h : x < y) : x ≤ y := by
  rw [float_le_iff, (float_lt_iff x y).mp h]
  rfl

theorem isFinite_neg (h : IsFinite x) : IsFinite (-x) := by
  unfold IsFinite
  rw [Binary.ofFloat?_neg, Option.isSome_map]
  exact h

theorem isFinite_abs (h : IsFinite x) : IsFinite (Arith.abs x) := by
  unfold Arith.abs
  split
  · exact isFinite_neg h
  · exact h

theorem ne_zero_of_pos (h : 0.0 < x) : ¬ (x == 0.0) = true := by
  rw [float_lt_iff, measures_zero.unpack_zero] at h
  rw [float_beq_iff, measures_zero.unpack_zero]
  cases hx : x.toModel.unpack with
  | zero s => rw [hx] at h; cases h
  | finite s m e hm => cases s <;> exact nofun
  | infinity s => cases s <;> exact nofun
  | notANumber => exact nofun

/-- A finite number that is not below zero is not negative. -/
theorem nonneg_of_not_lt (h : IsFinite x) (hx : ¬ x < 0.0) : 0.0 ≤ x := by
  rw [float_lt_iff, measures_zero.unpack_zero] at hx
  rw [float_le_iff, measures_zero.unpack_zero]
  rcases h.unpack with ⟨s, hs⟩ | ⟨s, m, e, hm, hs, -⟩
  · rw [hs]
    rfl
  · rw [hs] at hx ⊢
    cases s with
    | positive => rfl
    | negative => exact absurd rfl hx

theorem measures_neg (h : IsFinite x) (hx : x < 0.0) : ∃ v, Measures (-x) v := by
  rw [float_lt_iff, measures_zero.unpack_zero] at hx
  rcases h.unpack with ⟨s, hs⟩ | ⟨s, m, e, hm, hs, -⟩
  · rw [hs] at hx
    cases hx
  · rw [hs] at hx
    cases s with
    | positive => cases hx
    | negative =>
      refine ⟨m * 2 ^ e, m, e, ?_, rfl⟩
      rw [Binary.ofFloat?_neg, Binary.ofFloat?_eq, hs]
      rfl

theorem nonneg_abs (h : IsFinite x) : 0.0 ≤ Arith.abs x := by
  unfold Arith.abs
  split
  next hx =>
    obtain ⟨v, hv⟩ := measures_neg h hx
    exact (measures_zero.le_iff hv).mpr hv.nonneg
  next hx => exact nonneg_of_not_lt h hx

/-! ## Products and quotients -/

theorem isFinite_mul (hx : IsFinite x) (hy : IsExactly y v) (hv : v ≤ 1) : IsFinite (x * y) := by
  obtain ⟨m', e', hy, hdigits, rfl⟩ := hy
  have hproduct : x * y =
      .ofModel (Float.Model.pack (mul .binary64 x.toModel.unpack y.toModel.unpack)) := rfl
  have hm' : 0 < m' := by omega
  rw [hproduct, Binary.unpack_of_ofFloat? hy hm']
  rcases hx.unpack with ⟨s, hx⟩ | ⟨s, m, e, hm, hx, hsmall⟩
  · rw [hx]
    exact isFinite_pack_zero _
  · rw [hx]
    have hexact : Truncates (.ofMantissaAndAccuracy (m * m') .exact) ((m * m' : ℕ) : ℚ) := rfl
    have hrounded := rounded_roundWithAccuracy (e := e + e') (s * .positive) hexact
      (.inl (hdigits.trans (Nat.le_mul_of_pos_left m' hm)))
    refine isFinite_of_rounded hrounded ?_
    calc ((m * m' : ℕ) : ℚ) * 2 ^ (e + e')
        = m * 2 ^ e * (m' * 2 ^ e') := by
          rw [zpow_add₀ two_ne_zero]
          push_cast
          ring
      _ ≤ m * 2 ^ e * 1 := mul_le_mul_of_nonneg_left hv (by positivity)
      _ < overflow := by rwa [mul_one]

/-- Half a turn has fewer radians than degrees. -/
theorem isFinite_radians (h : IsFinite x) : IsFinite (Arith.radians x) := by
  have hparts : Binary.ofFloat? (Arith.pi / 180.0 : Float) =
      some ⟨false, 5030569068109113, -58⟩ := rfl
  have hexact : IsExactly (Arith.pi / 180.0 : Float) (5030569068109113 * 2 ^ (-58 : ℤ)) :=
    ⟨_, _, hparts, by norm_num, by norm_num⟩
  exact isFinite_mul h hexact (by norm_num)

theorem isFinite_div (hx : IsFinite x) (hpos : 0.0 < x) (hy : IsExactly y v) (hv : 1 ≤ v) :
    IsFinite (x / y) := by
  obtain ⟨m', e', hy, hdigits, rfl⟩ := hy
  have hquotient : x / y =
      .ofModel (Float.Model.pack (div .binary64 x.toModel.unpack y.toModel.unpack)) := rfl
  have hm' : 0 < m' := by omega
  rw [float_lt_iff, measures_zero.unpack_zero] at hpos
  rw [hquotient, Binary.unpack_of_ofFloat? hy hm']
  rcases hx.unpack with ⟨s, hx⟩ | ⟨s, m, e, hm, hx, hsmall⟩
  · rw [hx]
    exact isFinite_pack_zero _
  · rw [hx] at hpos ⊢
    cases s with
    | negative => cases hpos
    | positive =>
      refine isFinite_of_rounded (pack_div_rounded hm hm') ?_
      exact (div_le_self (by positivity) hv).trans_lt hsmall

/-- A speed in metres per second. -/
theorem isFinite_div_speed (hx : IsFinite x) (hpos : 0.0 < x) : IsFinite (x / 3.6) := by
  have hparts : Binary.ofFloat? (3.6 : Float) = some ⟨false, 8106479329266893, -51⟩ := rfl
  have hexact : IsExactly (3.6 : Float) (8106479329266893 * 2 ^ (-51 : ℤ)) :=
    ⟨_, _, hparts, by norm_num, by norm_num⟩
  exact isFinite_div hx hpos hexact (by norm_num)

end DriverDesk
