import Mathlib
import DriverDesk.Proofs.RoundedOperations

/-!
# The nearest double of a decimal number

`Decimal.toFloat` is correctly rounded: whatever the digits and the power of ten, it is the double
that attracts the exact number, and infinite exactly if that is beyond the doubles. Numbers of
moderate size are one product or quotient of exact doubles, all others one of exact integers.
-/

namespace DriverDesk

open Float.Model Float.Model.UnpackedFloat

/-- The number without its sign. -/
def Decimal.absolute (d : Decimal) : ℚ := d.coefficient * 10 ^ d.exponent

theorem Attracts.self {m : ℕ} {e : ℤ} : Attracts m e (m * 2 ^ e) := by
  have hgap := gapBelow_pos m e
  exact .of_units (by linarith) (by linarith) fun _ => ⟨by linarith, by linarith⟩

/-! ## Exact doubles -/

/-- `x` is a positive double with all its digits, and exactly `v`. -/
def IsExactly (x : Float) (v : ℚ) : Prop :=
  ∃ m e, Binary.ofFloat? x = some ⟨false, m, e⟩ ∧ 2 ^ 52 ≤ m ∧ v = m * 2 ^ e

/-- An integer of up to 53 binary digits, with zeros behind them for the rest. -/
theorem isCanonical_natCast {n k : ℕ} (hpos : 0 < n) (hk : n.log2 + k = 52) :
    IsCanonical (n * 2 ^ k) (-(k : ℤ)) := by
  have hfull : 2 ^ 52 ≤ n * 2 ^ k := by
    rw [← hk, pow_add]
    exact Nat.mul_le_mul_right _ (Nat.log2_self_le hpos.ne')
  have hfits : n * 2 ^ k < 2 ^ 53 := by
    have : 2 ^ 53 = 2 ^ (n.log2 + 1) * 2 ^ k := by
      rw [← pow_add]
      congr 1
      omega
    rw [this]
    exact Nat.mul_lt_mul_of_pos_right Nat.lt_log2_self (by positivity)
  exact ⟨hfits, by omega, .inr hfull⟩

theorem natCast_eq_mul_zpow (n k : ℕ) : (n : ℚ) = (n * 2 ^ k : ℕ) * 2 ^ (-(k : ℤ)) := by
  rw [zpow_neg, zpow_natCast]
  push_cast
  field_simp

/-- Integers of up to 53 binary digits are doubles. -/
theorem isExactly_natCast {n : ℕ} (hpos : 0 < n) (hn : n < 2 ^ 53) :
    IsExactly n.toUInt64.toFloat n := by
  have hlog : n.log2 < 53 := (Nat.log2_lt hpos.ne').mpr hn
  obtain ⟨k, hk⟩ : ∃ k, n.log2 + k = 52 := ⟨52 - n.log2, by omega⟩
  have hcanonical := isCanonical_natCast hpos hk
  have hfull : 2 ^ 52 ≤ n * 2 ^ k := hcanonical.full.resolve_left (by omega)
  have hword : n.toUInt64.toNat = n := UInt64.toNat_ofNat_of_lt' (hn.trans (by norm_num))
  have hshift : decreaseExponent n 0 (Format.binary64.targetExponent (totalExponent n 0)) =
      (n * 2 ^ k, -(k : ℤ)) := by
    rw [targetExponent_binary64]
    unfold decreaseExponent
    dsimp only
    rw [show (0 - max ((n.log2 : ℤ) + 0 - 52) (-1074)).toNat = k by omega, Nat.shiftLeft_eq,
      zero_sub]
  have hround : UnpackedFloat.ofUInt64 .binary64 n.toUInt64 =
      roundWithAccuracy .binary64 .positive (n * 2 ^ k) (-(k : ℤ)) .exact := by
    show UnpackedFloat.normalize .binary64 (n.toUInt64.toNat : ℤ) 0 .positive = _
    have hcompare : compare (n : ℤ) 0 = .gt := Int.compare_eq_gt.mpr (by omega)
    unfold UnpackedFloat.normalize
    rw [hword, hcompare]
    show (fun r => roundWithAccuracy .binary64 .positive r.1 r.2 .exact)
      (decreaseExponent n 0 (Format.binary64.targetExponent (totalExponent n 0))) = _
    rw [hshift]
  have hexact : Truncates (.ofMantissaAndAccuracy (n * 2 ^ k) .exact) ((n * 2 ^ k : ℕ) : ℚ) := rfl
  obtain ⟨m, t, hm, hattracts, hresult⟩ :=
    exists_roundWithAccuracy (e := -(k : ℤ)) .positive hexact (.inl hfull)
  obtain ⟨rfl, rfl⟩ := hattracts.unique .self hm hcanonical
  rw [dif_neg (by omega)] at hresult
  refine ⟨n * 2 ^ k, -(k : ℤ), ?_, hfull, natCast_eq_mul_zpow n k⟩
  show Binary.ofFloat? (.ofModel (Float.Model.pack
    (UnpackedFloat.ofUInt64 .binary64 n.toUInt64))) = _
  rw [hround, hresult]
  exact Binary.ofFloat?_pack_finite _ hcanonical (by omega)

/-- Powers of ten up to the 22nd are doubles. -/
theorem isExactly_power {k : ℕ} (hk : k < Float.exactlyRepresentablePowersOfTen.size) :
    IsExactly Float.exactlyRepresentablePowersOfTen[k] (10 ^ k) := by
  have hall : ∀ k : Fin 23, (Binary.ofFloat? Float.exactlyRepresentablePowersOfTen[k]).any
      (fun b => !b.negative && 2 ^ 52 ≤ b.mantissa &&
        b.mantissa * 2 ^ b.exponent.toNat == 10 ^ k.val * 2 ^ (-b.exponent).toNat) = true := by
    decide +kernel
  have hk' := hall ⟨k, hk⟩
  rw [Option.any_eq_true] at hk'
  obtain ⟨⟨negative, m, e⟩, hread, hb⟩ := hk'
  simp only [Bool.and_eq_true, Bool.not_eq_true', decide_eq_true_eq, beq_iff_eq] at hb
  obtain ⟨⟨rfl, hfull⟩, hvalue⟩ := hb
  refine ⟨m, e, hread, hfull, ?_⟩
  rw [zpow_eq_div two_ne_zero e, ← mul_div_assoc, eq_div_iff (by positivity)]
  exact_mod_cast hvalue.symm

/-! ## Sizes -/

namespace Decimal

theorem ten_zpow_bounds (e : ℤ) :
    (2 : ℚ) ^ (min (3 * e) (4 * e)) ≤ 10 ^ e ∧ (10 : ℚ) ^ e ≤ 2 ^ (max (3 * e) (4 * e)) := by
  have height (e : ℤ) : (2 : ℚ) ^ (3 * e) = 8 ^ e := by rw [zpow_mul]; norm_num
  have hsixteen (e : ℤ) : (2 : ℚ) ^ (4 * e) = 16 ^ e := by rw [zpow_mul]; norm_num
  rcases le_total 0 e with h | h
  · rw [min_eq_left (by omega), max_eq_right (by omega), height, hsixteen]
    exact ⟨zpow_le_zpow_left₀ h (by norm_num) (by norm_num),
      zpow_le_zpow_left₀ h (by norm_num) (by norm_num)⟩
  · obtain ⟨k, rfl⟩ : ∃ k : ℕ, e = -k := ⟨e.natAbs, by omega⟩
    rw [min_eq_right (by omega), max_eq_left (by omega), height, hsixteen]
    simp only [zpow_neg, zpow_natCast]
    exact ⟨inv_anti₀ (by positivity) (pow_le_pow_left₀ (by norm_num) (by norm_num) k),
      inv_anti₀ (by positivity) (pow_le_pow_left₀ (by norm_num) (by norm_num) k)⟩

/-- The number lies between the powers of two that are known without computing it. -/
theorem binaryBounds_absolute {d : Decimal} (h : d.coefficient ≠ 0) :
    2 ^ d.binaryBounds.1 ≤ d.absolute ∧ d.absolute < 2 ^ d.binaryBounds.2 := by
  obtain ⟨hlower, hupper⟩ := ten_zpow_bounds d.exponent
  have hleast : (2 : ℚ) ^ (Nat.log2 d.coefficient : ℤ) ≤ d.coefficient := by
    rw [zpow_natCast]
    exact_mod_cast Nat.log2_self_le h
  have hmost : (d.coefficient : ℚ) < 2 ^ ((Nat.log2 d.coefficient : ℤ) + 1) := by
    have := Nat.lt_log2_self (n := d.coefficient)
    exact_mod_cast this
  have hbounds : d.binaryBounds =
      ((Nat.log2 d.coefficient : ℤ) + min (3 * d.exponent) (4 * d.exponent),
        (Nat.log2 d.coefficient : ℤ) + 1 + max (3 * d.exponent) (4 * d.exponent)) := by
    unfold binaryBounds
    dsimp only
    split
    · rw [min_eq_left (by omega), max_eq_right (by omega)]
    · rw [min_eq_right (by omega), max_eq_left (by omega)]
  rw [hbounds, zpow_add₀ two_ne_zero, zpow_add₀ two_ne_zero]
  have hpos : (0 : ℚ) < d.coefficient := by exact_mod_cast Nat.pos_of_ne_zero h
  constructor
  · exact mul_le_mul hleast hlower (two_zpow_pos _).le hpos.le
  · exact mul_lt_mul hmost hupper (by positivity) (two_zpow_pos _).le

/-! ## Rounding -/

theorem attracts_zero {v : ℚ} (h0 : 0 ≤ v) (h : v < 2 ^ (-1075 : ℤ)) : Attracts 0 (-1074) v := by
  have hgap : gapBelow 0 (-1074) = 1 := if_neg (by norm_num)
  have hunit : (2 : ℚ) ^ (-1074 : ℤ) = 2 ^ (-1075 : ℤ) * 2 := zpow_add_one₀ two_ne_zero (-1075)
  have hpos := two_zpow_pos (-1075)
  generalize (2 : ℚ) ^ (-1075 : ℤ) = half at *
  refine ⟨?_, ?_, by norm_num⟩
  · rw [hgap, hunit, Nat.cast_zero]
    linarith
  · rw [hunit, Nat.cast_zero]
    linarith

theorem overflow_lt_two_zpow {k : ℤ} (hk : 1024 ≤ k) : overflow < 2 ^ k := by
  have hlimit : (2 : ℚ) ^ (1024 : ℤ) = 2 ^ 53 * 2 ^ (971 : ℤ) := by
    rw [← zpow_natCast, ← zpow_add₀ two_ne_zero]
    rfl
  calc overflow < 2 ^ 53 * 2 ^ (971 : ℤ) := mul_lt_mul_of_pos_right (by norm_num) (two_zpow_pos _)
    _ ≤ 2 ^ k := hlimit ▸ zpow_le_zpow_right₀ (by norm_num) hk

section

variable {x y : Float} {v w : ℚ}

theorem IsExactly.mul_rounded (hx : IsExactly x v) (hy : IsExactly y w) :
    Rounded false (v * w) (x * y) := by
  obtain ⟨m, e, hx, hm, rfl⟩ := hx
  obtain ⟨m', e', hy, hm', rfl⟩ := hy
  have hproduct : x * y =
      .ofModel (Float.Model.pack (UnpackedFloat.mul .binary64 x.toModel.unpack y.toModel.unpack)) :=
    rfl
  rw [hproduct, Binary.unpack_of_ofFloat? hx (by omega), Binary.unpack_of_ofFloat? hy (by omega)]
  exact pack_mul_rounded _ _ (hm.trans (Nat.le_mul_of_pos_right m (by omega)))

theorem IsExactly.div_rounded (hx : IsExactly x v) (hy : IsExactly y w) :
    Rounded false (v / w) (x / y) := by
  obtain ⟨m, e, hx, hm, rfl⟩ := hx
  obtain ⟨m', e', hy, hm', rfl⟩ := hy
  have hquotient : x / y =
      .ofModel (Float.Model.pack (UnpackedFloat.div .binary64 x.toModel.unpack y.toModel.unpack)) :=
    rfl
  rw [hquotient, Binary.unpack_of_ofFloat? hx (by omega), Binary.unpack_of_ofFloat? hy (by omega)]
  exact pack_div_rounded _ _

end

/-- The library's reading of `c · 10 ^ e`, where it does not cut the exponent short. -/
theorem rounded_modelScientific {c : ℕ} {e : ℤ} (hc : c ≠ 0) (hmost : e ≤ 2 ^ 11)
    (hleast : -(2 ^ 11 + (c.log2 : ℤ)) ≤ e) :
    Rounded false (c * 10 ^ e) (.ofModel (Float.Model.ofScientific c e)) := by
  rw [Float.Model.ofScientific, UnpackedFloat.ofScientific, dif_neg hc,
    if_neg (by show ¬ (2 ^ 11 < e); omega),
    if_neg (by show ¬ (e < -(2 ^ 11 + (c.log2 : ℤ))); omega)]
  have hpos : 0 < c := Nat.pos_of_ne_zero hc
  split
  next h =>
    have hvalue : (c : ℚ) * (10 : ℚ) ^ e =
        (c <<< 53 : ℕ) * 2 ^ (-53 : ℤ) * ((10 ^ e.toNat : ℕ) * 2 ^ (0 : ℤ)) := by
      rw [Nat.shiftLeft_eq, zpow_zero, zpow_neg]
      push_cast
      rw [← zpow_natCast (10 : ℚ), Int.toNat_of_nonneg h]
      field_simp
    rw [hvalue]
    refine pack_mul_rounded _ _ ?_
    rw [Nat.shiftLeft_eq]
    calc 2 ^ 52 ≤ c * 2 ^ 53 := by omega
      _ ≤ c * 2 ^ 53 * 10 ^ e.toNat := Nat.le_mul_of_pos_right _ (by positivity)
  next h =>
    have hvalue : (c : ℚ) * (10 : ℚ) ^ e =
        c * 2 ^ (0 : ℤ) / ((10 ^ (-e).toNat : ℕ) * 2 ^ (0 : ℤ)) := by
      rw [zpow_zero]
      push_cast
      rw [← zpow_natCast (10 : ℚ), Int.toNat_of_nonneg (by omega), zpow_neg]
      field_simp
    rw [hvalue]
    exact pack_div_rounded _ _

theorem rounded_ofScientific {d : Decimal} (hc : d.coefficient ≠ 0) (hlow : d.binaryBounds.1 < 1024)
    (hhigh : -1075 < d.binaryBounds.2) :
    Rounded false d.absolute
      (OfScientific.ofScientific d.coefficient (decide (d.exponent < 0)) d.exponent.natAbs) := by
  show Rounded false _ (Float.ofScientific _ _ _)
  rw [Float.ofScientific]
  split
  next h =>
    have hx := isExactly_natCast (Nat.pos_of_ne_zero hc) h.1
    have hy := isExactly_power (k := d.exponent.natAbs) (by show _ < 23; omega)
    dsimp only
    by_cases hsign : d.exponent < 0
    · have hvalue : d.absolute = d.coefficient / 10 ^ d.exponent.natAbs := by
        rw [absolute, div_eq_mul_inv, ← zpow_natCast, ← zpow_neg]
        congr 2
        omega
      rw [if_pos (decide_eq_true hsign), hvalue]
      exact IsExactly.div_rounded hx hy
    · have hvalue : d.absolute = d.coefficient * 10 ^ d.exponent.natAbs := by
        rw [absolute, ← zpow_natCast]
        congr 2
        omega
      rw [if_neg (by simpa using hsign), hvalue]
      exact IsExactly.mul_rounded hx hy
  next h =>
    have hexponent : (if decide (d.exponent < 0) = true then Int.negOfNat d.exponent.natAbs
        else Int.ofNat d.exponent.natAbs) = d.exponent := by
      by_cases hsign : d.exponent < 0
      · rw [if_pos (decide_eq_true hsign), Int.negOfNat_eq]
        simp only [Int.ofNat_eq_natCast]
        omega
      · rw [if_neg (by simpa using hsign)]
        simp only [Int.ofNat_eq_natCast]
        omega
    dsimp only
    rw [hexponent]
    unfold binaryBounds at hlow hhigh
    dsimp only at hlow hhigh
    refine rounded_modelScientific hc ?_ ?_
    · split at hlow <;> simp only at hlow <;> omega
    · split at hhigh <;> simp only at hhigh <;> omega

theorem rounded_magnitude (d : Decimal) : Rounded false d.absolute d.magnitude := by
  unfold magnitude
  split
  next hzero =>
    have hread : Binary.ofFloat? 0.0 = some ⟨false, 0, -1074⟩ := rfl
    refine .of_parts hread (attracts_zero ?_ ?_)
    · rw [absolute, hzero]
      simp
    · rw [absolute, hzero]
      simp
  next hc =>
    obtain ⟨hlower, hupper⟩ := binaryBounds_absolute hc
    split
    next hlarge =>
      have hread : Binary.ofFloat? (1.0 / 0.0) = none := rfl
      unfold Rounded
      rw [hread]
      exact (overflow_lt_two_zpow hlarge).le.trans hlower
    next hlarge =>
      split
      next hsmall =>
        have hread : Binary.ofFloat? 0.0 = some ⟨false, 0, -1074⟩ := rfl
        refine .of_parts hread (attracts_zero ((two_zpow_pos _).le.trans hlower) ?_)
        exact hupper.trans_le (zpow_le_zpow_right₀ (by norm_num) hsmall)
      next hsmall => exact rounded_ofScientific hc (by omega) (by omega)

/-- A decimal number is read as the double nearest to it. -/
theorem rounded_toFloat (d : Decimal) : Rounded d.negative d.absolute d.toFloat := by
  unfold toFloat
  cases hsign : d.negative with
  | false =>
    rw [if_neg Bool.false_ne_true]
    exact rounded_magnitude d
  | true =>
    rw [if_pos rfl]
    exact (rounded_magnitude d).neg

end Decimal

end DriverDesk
