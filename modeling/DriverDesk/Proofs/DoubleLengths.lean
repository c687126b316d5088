import Mathlib
import DriverDesk.Arith
import DriverDesk.Proofs.NearestDoubles

/-!
# Lengths as doubles

Pixel counts are doubles exactly; what is worked out from them is rounded. Rounding keeps the order
of a number and a double, and whole numbers are doubles with room below them: a number that is
rounded up to a whole number is still at most half a gap away when another one is added to both.
-/

namespace DriverDesk

open Float.Model Float.Model.UnpackedFloat

/-! ## Doubles without sign -/

/-- `x` is a finite double without sign, and exactly `v`. -/
def Measures (x : Float) (v : ℚ) : Prop :=
  ∃ m e, Binary.ofFloat? x = some ⟨false, m, e⟩ ∧ v = m * 2 ^ e

namespace Measures

variable {x y : Float} {v w : ℚ}

theorem nonneg (h : Measures x v) : 0 ≤ v := by
  obtain ⟨m, e, -, rfl⟩ := h
  positivity

/-- What the library computes with: zero, or a positive number in canonical form. -/
theorem unpack (h : Measures x v) :
    (v = 0 ∧ x.toModel.unpack = .zero .positive) ∨
      ∃ m e, ∃ hm : 0 < m, IsCanonical m e ∧ v = m * 2 ^ e ∧
        x.toModel.unpack = .finite .positive m e hm := by
  obtain ⟨m, e, hx, rfl⟩ := h
  rcases Nat.eq_zero_or_pos m with rfl | hm
  · left
    refine ⟨by rw [Nat.cast_zero, zero_mul], ?_⟩
    rw [Binary.ofFloat?_eq] at hx
    cases hu : x.toModel.unpack with
    | zero s =>
      rw [hu] at hx
      obtain ⟨hs, -, -⟩ := (Binary.mk.injEq ..).mp (Option.some.inj hx)
      cases s with
      | positive => rfl
      | negative => cases hs
    | finite s m e hm =>
      rw [hu] at hx
      obtain ⟨-, hzero, -⟩ := (Binary.mk.injEq ..).mp (Option.some.inj hx)
      exact absurd hm (hzero ▸ Nat.lt_irrefl 0)
    | infinity s => rw [hu] at hx; cases hx
    | notANumber => rw [hu] at hx; cases hx
  · exact .inr ⟨m, e, hm, (Binary.isDouble_of_ofFloat? hx).1, rfl,
      Binary.unpack_of_ofFloat? hx hm⟩

theorem unpack_zero (h : Measures x 0) : x.toModel.unpack = .zero .positive := by
  rcases h.unpack with ⟨-, hx⟩ | ⟨m, e, hm, -, hvalue, -⟩
  · exact hx
  · have hpos : (0 : ℚ) < m * 2 ^ e := by positivity
    exact absurd hvalue hpos.ne

theorem unpack_of_pos (h : Measures x v) (hv : 0 < v) :
    ∃ m e, ∃ hm : 0 < m, IsCanonical m e ∧ v = m * 2 ^ e ∧
      x.toModel.unpack = .finite .positive m e hm :=
  h.unpack.resolve_left fun hzero => hv.ne hzero.1.symm

end Measures

section

variable {m m' : ℕ} {e e' : ℤ}

theorem IsCanonical.lt_of_exponent_lt (h : IsCanonical m e) (h' : IsCanonical m' e')
    (hlt : e < e') :
    (m : ℚ) * 2 ^ e < m' * 2 ^ e' := by
  have hleast := h.least
  have hfull : (2 : ℚ) ^ 52 ≤ m' := by exact_mod_cast h'.full.resolve_left (by omega)
  have hfits : (m : ℚ) < 2 ^ 53 := by exact_mod_cast h.fits
  have hunit : (2 : ℚ) ^ (e + 1) ≤ 2 ^ e' := zpow_le_zpow_right₀ (by norm_num) (by omega)
  calc (m : ℚ) * 2 ^ e < 2 ^ 53 * 2 ^ e := mul_lt_mul_of_pos_right hfits (two_zpow_pos e)
    _ = 2 ^ 52 * 2 ^ (e + 1) := by rw [zpow_add_one₀ two_ne_zero]; ring
    _ ≤ m' * 2 ^ e' := mul_le_mul hfull hunit (two_zpow_pos _).le (Nat.cast_nonneg _)

/-- The order of canonical numbers is that of their exponents, and then of their mantissas. -/
theorem IsCanonical.compare_eq (h : IsCanonical m e) (h' : IsCanonical m' e') :
    (compare e e').then (compare m m') = compare ((m : ℚ) * 2 ^ e) (m' * 2 ^ e') := by
  rcases lt_trichotomy e e' with hlt | rfl | hgt
  · rw [compare_lt_iff_lt.mpr hlt, compare_lt_iff_lt.mpr (h.lt_of_exponent_lt h' hlt)]
    rfl
  · rw [compare_eq_iff_eq.mpr rfl]
    have hunit := two_zpow_pos e
    rcases lt_trichotomy m m' with hlt | rfl | hgt
    · have hcast : (m : ℚ) < m' := by exact_mod_cast hlt
      rw [compare_lt_iff_lt.mpr hlt, compare_lt_iff_lt.mpr (mul_lt_mul_of_pos_right hcast hunit)]
      rfl
    · rw [compare_eq_iff_eq.mpr rfl, compare_eq_iff_eq.mpr rfl]
      rfl
    · have hcast : (m' : ℚ) < m := by exact_mod_cast hgt
      rw [compare_gt_iff_gt.mpr hgt, compare_gt_iff_gt.mpr (mul_lt_mul_of_pos_right hcast hunit)]
      rfl
  · rw [compare_gt_iff_gt.mpr hgt, compare_gt_iff_gt.mpr (h'.lt_of_exponent_lt h hgt)]
    rfl

/-- From one on, all digits are there. -/
theorem IsCanonical.full_of_one_le (h : IsCanonical m e) (hone : 1 ≤ (m : ℚ) * 2 ^ e) :
    2 ^ 52 ≤ m := by
  refine h.full.resolve_left ?_
  rintro rfl
  have hfits : (m : ℚ) < 2 ^ 53 := by exact_mod_cast h.fits
  have hunit : (2 : ℚ) ^ (-1074 : ℤ) ≤ 2 ^ (-53 : ℤ) :=
    zpow_le_zpow_right₀ (by norm_num) (by norm_num)
  have hsmall : (m : ℚ) * 2 ^ (-1074 : ℤ) < 2 ^ 53 * 2 ^ (-53 : ℤ) :=
    mul_lt_mul hfits hunit (two_zpow_pos _) (by norm_num)
  have hlimit : (2 : ℚ) ^ 53 * 2 ^ (-53 : ℤ) = 1 := by norm_num
  linarith

theorem half_le_gapBelow (m : ℕ) (e : ℤ) : 1 / 2 ≤ gapBelow m e := by
  unfold gapBelow
  split <;> norm_num

/-- Of two doubles the greater has no smaller gap below it. -/
theorem IsCanonical.gapBelow_mul_le (h : IsCanonical m e) (h' : IsCanonical m' e')
    (hle : (m : ℚ) * 2 ^ e ≤ m' * 2 ^ e') : gapBelow m e * 2 ^ e ≤ gapBelow m' e' * 2 ^ e' := by
  rcases lt_trichotomy e e' with hlt | rfl | hgt
  · have hunit : (2 : ℚ) ^ (e + 1) ≤ 2 ^ e' := zpow_le_zpow_right₀ (by norm_num) (by omega)
    rw [zpow_add_one₀ two_ne_zero] at hunit
    have hgap := mul_le_mul_of_nonneg_right (gapBelow_le_one m e) (two_zpow_pos e).le
    have hgap' := mul_le_mul_of_nonneg_right (half_le_gapBelow m' e') (two_zpow_pos e').le
    linarith
  · refine mul_le_mul_of_nonneg_right ?_ (two_zpow_pos e).le
    by_cases hpower : m' = 2 ^ 52 ∧ -1074 < e
    · have hle : m ≤ m' := by exact_mod_cast le_of_mul_le_mul_right hle (two_zpow_pos e)
      have hfull : 2 ^ 52 ≤ m := h.full.resolve_left (by omega)
      obtain rfl : m = m' := by omega
      exact le_rfl
    · have hgap : gapBelow m' e = 1 := if_neg hpower
      exact hgap ▸ gapBelow_le_one m e
  · exact absurd (h'.lt_of_exponent_lt h hgt) (not_lt.mpr hle)

end

theorem float_lt_iff (x y : Float) :
    x < y ↔ x.toModel.unpack.compare y.toModel.unpack = some .lt :=
  decide_eq_true_iff.trans beq_iff_eq

theorem float_le_iff (x y : Float) :
    x ≤ y ↔ (x.toModel.unpack.compare y.toModel.unpack).any (·.isLE) = true :=
  decide_eq_true_iff

namespace Measures

variable {x y : Float} {v w : ℚ}

/-- Doubles are ordered as their numbers are. -/
theorem compare_eq (hx : Measures x v) (hy : Measures y w) :
    x.toModel.unpack.compare y.toModel.unpack = some (compare v w) := by
  rcases hx.unpack with ⟨rfl, hux⟩ | ⟨m, e, hm, hcanonical, rfl, hux⟩ <;>
    rcases hy.unpack with ⟨rfl, huy⟩ | ⟨m', e', hm', hcanonical', rfl, huy⟩ <;> rw [hux, huy]
  · rw [compare_eq_iff_eq.mpr rfl]
    rfl
  · rw [compare_lt_iff_lt.mpr (by positivity)]
    rfl
  · rw [compare_gt_iff_gt.mpr (by positivity)]
    rfl
  · exact congrArg some (hcanonical.compare_eq hcanonical')

theorem lt_iff (hx : Measures x v) (hy : Measures y w) : x < y ↔ v < w := by
  rw [float_lt_iff, hx.compare_eq hy, Option.some.injEq, compare_lt_iff_lt]

theorem le_iff (hx : Measures x v) (hy : Measures y w) : x ≤ y ↔ v ≤ w := by
  rw [float_le_iff, hx.compare_eq hy, Option.any_some, Ordering.isLE_iff_ne_gt, compare_gt_iff_gt,
    not_lt]

/-- From a positive number on, a double is a number or infinite. -/
theorem of_le (hx : Measures x v) (hpos : 0 < v) (hle : x ≤ y) :
    (∃ w, Measures y w) ∨ y.toModel.unpack = .infinity .positive := by
  obtain ⟨m, e, hm, -, -, hux⟩ := hx.unpack_of_pos hpos
  rw [float_le_iff, hux] at hle
  cases huy : y.toModel.unpack with
  | notANumber => rw [huy] at hle; cases hle
  | infinity s =>
    cases s with
    | positive => exact .inr rfl
    | negative => rw [huy] at hle; cases hle
  | zero s => rw [huy] at hle; cases hle
  | finite s m' e' hm' =>
    cases s with
    | positive => exact .inl ⟨_, m', e', by rw [Binary.ofFloat?_eq, huy]; rfl, rfl⟩
    | negative => rw [huy] at hle; cases hle

theorem lt_infinity (hx : Measures x v) (hy : y.toModel.unpack = .infinity .positive) : x < y := by
  rw [float_lt_iff, hy]
  rcases hx.unpack with ⟨-, hux⟩ | ⟨m, e, hm, -, -, hux⟩
  · rw [hux]
    rfl
  · rw [hux]
    rfl

end Measures

/-! ## Whole parts -/

theorem toNat_clamp (n : ℕ) : (UInt64.ofNatClamp n).toNat = min n (2 ^ 64 - 1) := by
  rcases Nat.lt_or_ge n UInt64.size with hlt | hge
  · rw [UInt64.toNat_ofNatClamp_of_lt hlt]
    exact (Nat.min_eq_left (Nat.le_sub_one_of_lt hlt)).symm
  · rw [UInt64.toNat_ofNatClamp_of_le hge]
    exact (Nat.min_eq_right ((Nat.sub_le _ 1).trans hge)).symm

/-- What stands in front of the point. -/
theorem roundToInt_eq (m : ℕ) (e : ℤ) :
    roundToInt .positive m e = (⌊(m : ℚ) * 2 ^ e⌋₊ : ℤ) := by
  have hsteps : roundToInt .positive m e =
      ((ExtendedMantissa.ofMantissaAndAccuracy (m <<< (e - 0).toNat) .exact >>>
        (0 - (e - (e - 0).toNat)).toNat).mantissa : ℤ) := rfl
  have hexact : Truncates (.ofMantissaAndAccuracy (m * 2 ^ e.toNat) .exact)
      ((m * 2 ^ e.toNat : ℕ) : ℚ) := rfl
  obtain ⟨hlower, hupper⟩ := (hexact.shiftRight (-e).toNat).bounds
  have hvalue : (m : ℚ) * 2 ^ e = (m * 2 ^ e.toNat : ℕ) / 2 ^ (-e).toNat := by
    rw [zpow_eq_div two_ne_zero]
    push_cast
    ring
  rw [hsteps, sub_zero, show (0 - (e - (e.toNat : ℤ))).toNat = (-e).toNat by omega,
    Nat.shiftLeft_eq, hvalue, Nat.cast_inj, eq_comm]
  exact (Nat.floor_eq_iff (by positivity)).mpr ⟨hlower, hupper⟩

theorem whole_eq_clamp (x : Float) :
    Arith.whole x = min (x.toModel.unpack.toInt 0 (2 ^ 64 - 1)).toNat (2 ^ 64 - 1) :=
  toNat_clamp _

theorem Measures.whole_eq {x : Float} {v : ℚ} (h : Measures x v) :
    Arith.whole x = min ⌊v⌋₊ (2 ^ 64 - 1) := by
  rw [whole_eq_clamp]
  rcases h.unpack with ⟨rfl, hx⟩ | ⟨m, e, hm, -, rfl, hx⟩ <;> rw [hx]
  · rw [Nat.floor_zero]
    rfl
  · rw [UnpackedFloat.toInt, roundToInt_eq, Int.toNat_natCast]

/-- A double below a positive number is smaller than that, or it has no whole part. -/
theorem whole_of_lt {x y : Float} {w : ℚ} (hy : Measures y w) (hlt : x < y) :
    (∃ v, Measures x v ∧ v < w) ∨ Arith.whole x = 0 := by
  have hcompare := (float_lt_iff x y).mp hlt
  cases hux : x.toModel.unpack with
  | notANumber => rw [hux] at hcompare; cases hcompare
  | infinity s =>
    cases s with
    | positive =>
      rcases hy.unpack with ⟨-, huy⟩ | ⟨m, e, hm, -, -, huy⟩ <;> rw [hux, huy] at hcompare <;>
        cases hcompare
    | negative => exact .inr (by rw [whole_eq_clamp, hux]; rfl)
  | zero s => exact .inr (by rw [whole_eq_clamp, hux]; rfl)
  | finite s m e hm =>
    cases s with
    | positive =>
      have hx : Measures x (m * 2 ^ e) := ⟨m, e, by rw [Binary.ofFloat?_eq, hux]; rfl, rfl⟩
      exact .inl ⟨_, hx, (hx.lt_iff hy).mp hlt⟩
    | negative =>
      right
      rw [whole_eq_clamp, hux]
      have hsign : (roundToInt .negative m e).toNat = 0 := by
        show (-(_ : ℤ)).toNat = 0
        omega
      rw [UnpackedFloat.toInt, hsign]
      rfl

/-! ## Rounding and order -/

/-- `v` is rounded to the number `r` of a double. -/
def RoundsAs (v r : ℚ) : Prop := ∃ m e, IsCanonical m e ∧ Attracts m e v ∧ r = m * 2 ^ e

namespace RoundsAs

variable {v r : ℚ} {m : ℕ} {e : ℤ}

theorem nonneg (h : RoundsAs v r) : 0 ≤ r := by
  obtain ⟨m, e, -, -, rfl⟩ := h
  positivity

theorem zero : RoundsAs 0 0 := by
  refine ⟨0, -1074, ⟨by norm_num, le_rfl, .inl rfl⟩, ?_, by rw [Nat.cast_zero, zero_mul]⟩
  simpa using Attracts.self (m := 0) (e := -1074)

/-- A double below a number is below what that rounds to. -/
theorem le_of_le (h : RoundsAs v r) (hform : IsCanonical m e)
    (hle : (m : ℚ) * 2 ^ e ≤ v) : (m : ℚ) * 2 ^ e ≤ r := by
  obtain ⟨m', e', hform', hattracts, rfl⟩ := h
  by_contra hlt
  have hnear := (hattracts.nearest hform' hform).1
  rw [abs_of_nonneg (by linarith), abs_of_nonneg (by linarith)] at hnear
  linarith

/-- A double above a number is above what that rounds to. -/
theorem ge_of_ge (h : RoundsAs v r) (hform : IsCanonical m e)
    (hle : v ≤ (m : ℚ) * 2 ^ e) : r ≤ (m : ℚ) * 2 ^ e := by
  obtain ⟨m', e', hform', hattracts, rfl⟩ := h
  by_contra hlt
  have hnear := (hattracts.nearest hform' hform).1
  rw [abs_of_nonpos (by linarith), abs_of_nonpos (by linarith)] at hnear
  linarith

/-- A number is rounded to an even double or beyond if it is at most half a gap below that. -/
theorem le_iff_of_even (h : RoundsAs v r) (hform : IsCanonical m e) (heven : m % 2 = 0) :
    (m : ℚ) * 2 ^ e ≤ r ↔ (m - gapBelow m e / 2) * 2 ^ e ≤ v := by
  have hgap := mul_pos (gapBelow_pos m e) (two_zpow_pos e)
  constructor
  · intro hle
    obtain ⟨m', e', hform', hattracts, rfl⟩ := h
    have hlower := hattracts.lower
    have hgap' := hform.gapBelow_mul_le hform' hle
    rcases hform'.apart hform with hbelow | heq | habove
    · rw [sub_mul] at hbelow hlower ⊢
      linarith [mul_pos (gapBelow_pos m' e') (two_zpow_pos e')]
    · obtain ⟨rfl, rfl⟩ := hform.eq_of_value_eq hform' heq
      exact hlower
    · rw [add_mul] at habove
      linarith [two_zpow_pos e']
  · intro hle
    rcases le_total ((m : ℚ) * 2 ^ e) v with habove | hbelow
    · exact h.le_of_le hform habove
    · have hattracts : Attracts m e v := by
        refine ⟨hle, ?_, fun hodd => by omega⟩
        rw [add_mul]
        linarith [two_zpow_pos e]
      obtain ⟨m', e', hform', hattracts', rfl⟩ := h
      exact (hattracts.value_eq hattracts' hform hform').le

/-- A number that is not tiny is rounded up by a small part of the result at most. -/
theorem relative (h : RoundsAs v r) (hr : 1 ≤ r) : r * (1 - 1 / 2 ^ 53) ≤ v := by
  obtain ⟨m, e, hform, hattracts, rfl⟩ := h
  have hfull : (2 : ℚ) ^ 52 ≤ m := by exact_mod_cast hform.full_of_one_le hr
  have hunits : (m : ℚ) * (1 - 1 / 2 ^ 53) ≤ m - gapBelow m e / 2 := by
    have := gapBelow_le_one m e
    linarith
  calc (m : ℚ) * 2 ^ e * (1 - 1 / 2 ^ 53) = m * (1 - 1 / 2 ^ 53) * 2 ^ e := by ring
    _ ≤ (m - gapBelow m e / 2) * 2 ^ e := mul_le_mul_of_nonneg_right hunits (two_zpow_pos e).le
    _ ≤ v := hattracts.lower

/-! ### Whole numbers -/

theorem exists_natCast_form {n : ℕ} (hn : n < 2 ^ 52) :
    ∃ m e, IsCanonical m e ∧ m % 2 = 0 ∧ (n : ℚ) = m * 2 ^ e := by
  rcases Nat.eq_zero_or_pos n with rfl | hpos
  · exact ⟨0, -1074, ⟨by norm_num, le_rfl, .inl rfl⟩, rfl, by rw [Nat.cast_zero, zero_mul]⟩
  · have hlog : n.log2 < 52 := (Nat.log2_lt hpos.ne').mpr hn
    obtain ⟨k, hk⟩ : ∃ k, n.log2 + (k + 1) = 52 := ⟨51 - n.log2, by omega⟩
    refine ⟨_, _, isCanonical_natCast hpos hk, ?_, natCast_eq_mul_zpow n (k + 1)⟩
    rw [pow_succ, ← mul_assoc, Nat.mul_mod_left]

theorem natCast_le (h : RoundsAs v r) {n : ℕ} (hn : n < 2 ^ 52) (hle : (n : ℚ) ≤ v) :
    (n : ℚ) ≤ r := by
  obtain ⟨m, e, hform, -, hvalue⟩ := exists_natCast_form hn
  rw [hvalue] at hle ⊢
  exact h.le_of_le hform hle

theorem le_natCast (h : RoundsAs v r) {n : ℕ} (hn : n < 2 ^ 52) (hle : v ≤ n) : r ≤ n := by
  obtain ⟨m, e, hform, -, hvalue⟩ := exists_natCast_form hn
  rw [hvalue] at hle ⊢
  exact h.ge_of_ge hform hle

theorem eq_natCast {n : ℕ} (h : RoundsAs n r) (hn : n < 2 ^ 52) : r = n :=
  le_antisymm (h.le_natCast hn le_rfl) (h.natCast_le hn le_rfl)

/-- Whole numbers below two rounded terms are together below their rounded sum. -/
theorem add_le {a b r r' : ℚ} {n j : ℕ} (ha : RoundsAs a r) (hsum : RoundsAs (a + b) r')
    (hn : (n : ℚ) ≤ r) (hj : (j : ℚ) ≤ b) (hsmall : n + j < 2 ^ 52) :
    ((n + j : ℕ) : ℚ) ≤ r' := by
  obtain ⟨m, e, hform, heven, hvalue⟩ := exists_natCast_form (by omega : n < 2 ^ 52)
  obtain ⟨m', e', hform', heven', hvalue'⟩ := exists_natCast_form hsmall
  have hgap : gapBelow m e * 2 ^ e ≤ gapBelow m' e' * 2 ^ e' := by
    refine hform.gapBelow_mul_le hform' ?_
    rw [← hvalue, ← hvalue']
    exact_mod_cast Nat.le_add_right n j
  rw [hvalue, ha.le_iff_of_even hform heven, sub_mul, ← hvalue] at hn
  rw [hvalue', hsum.le_iff_of_even hform' heven', sub_mul, ← hvalue']
  push_cast
  linarith

end RoundsAs

/-! ## Operations -/

theorem lt_overflow {v : ℚ} (hv : v < 2 ^ 64) : v < overflow := by
  have hscale : (2 : ℚ) ^ (12 : ℤ) ≤ 2 ^ (971 : ℤ) :=
    zpow_le_zpow_right₀ (by norm_num) (by norm_num)
  calc v < (2 ^ 53 - 1 / 2) * 2 ^ (12 : ℤ) := hv.trans (by norm_num)
    _ ≤ overflow := mul_le_mul_of_nonneg_left hscale (by norm_num)

theorem Rounded.exists_measures {x : Float} {v : ℚ} (h : Rounded false v x) (hv : v < 2 ^ 64) :
    ∃ r, Measures x r ∧ RoundsAs v r := by
  unfold Rounded at h
  cases hx : Binary.ofFloat? x with
  | none =>
    rw [hx] at h
    exact absurd h (not_le.mpr (lt_overflow hv))
  | some b =>
    rw [hx] at h
    obtain ⟨negative, m, e⟩ := b
    obtain ⟨rfl, hattracts⟩ := h
    exact ⟨m * 2 ^ e, ⟨m, e, hx, rfl⟩, m, e, (Binary.isDouble_of_ofFloat? hx).1, hattracts, rfl⟩

namespace Measures

variable {x y : Float} {v w : ℚ}

theorem isExactly (h : Measures x v) (hone : 1 ≤ v) : IsExactly x v := by
  obtain ⟨m, e, hx, rfl⟩ := h
  exact ⟨m, e, hx, (Binary.isDouble_of_ofFloat? hx).1.full_of_one_le hone, rfl⟩

end Measures

theorem measures_zero : Measures 0.0 0 := by
  have hread : Binary.ofFloat? 0.0 = some ⟨false, 0, -1074⟩ := rfl
  exact ⟨0, -1074, hread, by rw [Nat.cast_zero, zero_mul]⟩

theorem measures_one : Measures 1.0 1 := by
  have hread : Binary.ofFloat? 1.0 = some ⟨false, 2 ^ 52, -52⟩ := rfl
  exact ⟨2 ^ 52, -52, hread, by norm_num⟩

/-- Pixel counts are doubles. -/
theorem measures_ofInt {n : ℕ} (hn : n < 2 ^ 52) : Measures (Arith.ofInt n) n := by
  rcases Nat.eq_zero_or_pos n with rfl | hpos
  · have hread : Binary.ofFloat? (Arith.ofInt (0 : ℕ)) = some ⟨false, 0, -1074⟩ := rfl
    exact ⟨0, -1074, hread, by rw [Nat.cast_zero, zero_mul]⟩
  have hread : (Arith.ofInt n : Float) =
      n.toUInt64.toFloat * Float.exactlyRepresentablePowersOfTen[0] := by
    show Float.ofScientific n false 0 = _
    rw [Float.ofScientific, dif_pos ⟨by omega, by norm_num⟩, if_neg Bool.false_ne_true]
  have hten := isExactly_power (k := 0) (by decide)
  have hrounded := Decimal.IsExactly.mul_rounded (isExactly_natCast hpos (by omega)) hten
  rw [pow_zero, mul_one, ← hread] at hrounded
  have hlimit : (n : ℚ) < 2 ^ 52 := by exact_mod_cast hn
  obtain ⟨r, hr, hround⟩ := hrounded.exists_measures (by linarith)
  exact hround.eq_natCast hn ▸ hr

namespace Measures

variable {x : Float} {v : ℚ}

/-- A quotient of lengths is rounded once. -/
theorem div {y : Float} {w : ℚ} (hy : Measures y w) (hx : Measures x v) (hw : 1 ≤ w) (hv : 1 ≤ v)
    (hsmall : w / v < 2 ^ 64) : ∃ r, Measures (y / x) r ∧ RoundsAs (w / v) r :=
  (Decimal.IsExactly.div_rounded (hy.isExactly hw) (hx.isExactly hv)).exists_measures hsmall

theorem zero_mul_of_pos {y : Float} (hx : Measures x 0) (hy : Measures y v) (hv : 0 < v) :
    Measures (x * y) 0 := by
  obtain ⟨m, e, hm, -, -, huy⟩ := hy.unpack_of_pos hv
  have hproduct : x * y = .ofModel (Float.Model.pack (.zero .positive)) := by
    show Float.ofModel (Float.Model.pack
      (UnpackedFloat.mul .binary64 x.toModel.unpack y.toModel.unpack)) = _
    rw [hx.unpack_zero, huy]
    rfl
  refine ⟨0, -1074, ?_, by rw [Nat.cast_zero, zero_mul]⟩
  rw [hproduct]
  exact Binary.ofFloat?_components (s := .positive) (e := 0) (m := 0) rfl

/-- A multiple of a length is rounded once. -/
theorem natCast_mul (h : Measures x v) (hone : 1 ≤ v) {k : ℕ} (hk : k < 2 ^ 52)
    (hsmall : k * v < 2 ^ 64) : ∃ r, Measures (Arith.ofInt k * x) r ∧ RoundsAs (k * v) r := by
  have hcount := measures_ofInt hk
  rcases Nat.eq_zero_or_pos k with rfl | hpos
  · have hproduct := hcount.zero_mul_of_pos h (by linarith)
    rw [Nat.cast_zero] at hproduct ⊢
    exact ⟨0, hproduct, (zero_mul v).symm ▸ .zero⟩
  · have hleast : (1 : ℚ) ≤ k := by exact_mod_cast hpos
    exact (Decimal.IsExactly.mul_rounded (hcount.isExactly hleast)
      (h.isExactly hone)).exists_measures hsmall

end Measures

end DriverDesk
