import Mathlib
import DriverDesk.Proofs.Rounding

/-!
# Rounded operations

A product or quotient of doubles is truncated to its leading digits, the digit behind them and
whether anything follows; `Truncates` says that these stand for a number. Shifting digits out
keeps that, and so the rounded result is the double that attracts the exact one, or infinite if
that is beyond the doubles.
-/

namespace DriverDesk

open Float.Model Float.Model.UnpackedFloat

/-! ## Truncated numbers -/

/-- The leading digits of `y`, the half behind them, and whether anything is left. -/
def Truncates : ExtendedMantissa → ℚ → Prop
  | ⟨m, false, false⟩, y => y = m
  | ⟨m, false, true⟩, y => m < y ∧ y < m + 1 / 2
  | ⟨m, true, false⟩, y => y = m + 1 / 2
  | ⟨m, true, true⟩, y => m + 1 / 2 < y ∧ y < m + 1

/-- `n` is the whole number nearest to `y`, and even if another one is as near. -/
structure RoundsTo (y : ℚ) (n : ℕ) : Prop where
  lower : n - 1 / 2 ≤ y
  upper : y ≤ n + 1 / 2
  odd : n % 2 = 1 → n - 1 / 2 < y ∧ y < n + 1 / 2

namespace Truncates

variable {em : ExtendedMantissa} {y : ℚ}

theorem bounds (h : Truncates em y) : (em.mantissa : ℚ) ≤ y ∧ y < em.mantissa + 1 := by
  obtain ⟨m, half, rest⟩ := em
  cases half <;> cases rest <;> simp only [Truncates] at h ⊢ <;> constructor <;> linarith

theorem shiftRightOne (h : Truncates em y) : Truncates em.shiftRightOne (y / 2) := by
  obtain ⟨m, half, rest⟩ := em
  obtain ⟨k, rfl | rfl⟩ : ∃ k, m = 2 * k ∨ m = 2 * k + 1 := ⟨m / 2, by omega⟩
  · have hshift : ExtendedMantissa.shiftRightOne ⟨2 * k, half, rest⟩ =
        ⟨k, false, half || rest⟩ := by
      simp [ExtendedMantissa.shiftRightOne]
    rw [hshift]
    cases half <;> cases rest <;> simp only [Truncates, Bool.or_self, Bool.or_true,
      Bool.true_or] at h ⊢ <;> push_cast at h <;> grind
  · have hshift : ExtendedMantissa.shiftRightOne ⟨2 * k + 1, half, rest⟩ =
        ⟨k, true, half || rest⟩ := by
      simp [ExtendedMantissa.shiftRightOne]
      omega
    rw [hshift]
    cases half <;> cases rest <;> simp only [Truncates, Bool.or_self, Bool.or_true,
      Bool.true_or] at h ⊢ <;> push_cast at h <;> grind

theorem shiftRight (h : Truncates em y) (k : ℕ) : Truncates (em >>> k) (y / 2 ^ k) := by
  induction k with
  | zero =>
    rw [pow_zero, div_one]
    exact h
  | succ k ih =>
    rw [pow_succ, ← div_div]
    exact ih.shiftRightOne

/-- The truncated number is rounded as the exact one is. -/
theorem roundsTo (h : Truncates em y) : RoundsTo y em.roundedMantissa := by
  obtain ⟨m, half, rest⟩ := em
  cases half with
  | false =>
    have hrounded : ExtendedMantissa.roundedMantissa ⟨m, false, rest⟩ = m := by cases rest <;> rfl
    rw [hrounded]
    cases rest <;> simp only [Truncates] at h <;> constructor <;> grind
  | true =>
    cases rest with
    | false =>
      have hrounded : ExtendedMantissa.roundedMantissa ⟨m, true, false⟩ = m + m % 2 := rfl
      rw [hrounded]
      simp only [Truncates] at h
      rcases Nat.mod_two_eq_zero_or_one m with hm | hm
      · rw [hm, h]
        exact ⟨by push_cast; linarith, by push_cast; linarith, by omega⟩
      · rw [hm, h]
        exact ⟨by push_cast; linarith, by push_cast; linarith, by omega⟩
    | true =>
      have hrounded : ExtendedMantissa.roundedMantissa ⟨m, true, true⟩ = m + 1 := rfl
      rw [hrounded]
      simp only [Truncates] at h
      exact ⟨by push_cast; linarith, by push_cast; linarith,
        fun _ => ⟨by push_cast; linarith, by push_cast; linarith⟩⟩

theorem ofMantissaAndAccuracy {m : ℕ} {a : Accuracy} :
    (ExtendedMantissa.ofMantissaAndAccuracy m a).mantissa = m := by
  cases a with
  | exact => rfl
  | inexact o => cases o <;> rfl

/-- A fraction is truncated by a division with remainder. -/
theorem fraction (n : ℕ) {d : ℕ} (hd : 0 < d) :
    Truncates (.ofMantissaAndAccuracy (n / d) (accuracyOfFraction (n % d) d)) (n / d : ℚ) := by
  have hpos : (0 : ℚ) < d := by exact_mod_cast hd
  have hdivision : (n : ℚ) / d = (n / d : ℕ) + (n % d : ℕ) / d := by
    rw [div_eq_iff hpos.ne', add_mul, div_mul_cancel₀ _ hpos.ne']
    exact_mod_cast (Nat.div_add_mod' n d).symm
  have hrest : ((n % d : ℕ) : ℚ) / d < 1 := by
    rw [div_lt_one hpos]
    exact_mod_cast Nat.mod_lt n hd
  rw [hdivision, accuracyOfFraction]
  split
  next h => simp [ExtendedMantissa.ofMantissaAndAccuracy, Truncates, h]
  next h =>
    have hsome : (0 : ℚ) < (n % d : ℕ) / d := by
      have : 0 < n % d := Nat.pos_of_ne_zero h
      positivity
    rcases hcompare : compare (2 * (n % d)) d with _ | _ | _
    · have hlt : (2 : ℚ) * (n % d : ℕ) < d := by exact_mod_cast Nat.compare_eq_lt.mp hcompare
      have hhalf : ((n % d : ℕ) : ℚ) / d < 1 / 2 := by
        rw [div_lt_div_iff₀ hpos two_pos]
        linarith
      exact ⟨by linarith, by linarith⟩
    · have heq : (2 : ℚ) * (n % d : ℕ) = d := by exact_mod_cast Nat.compare_eq_eq.mp hcompare
      have hhalf : ((n % d : ℕ) : ℚ) / d = 1 / 2 := by
        rw [div_eq_div_iff hpos.ne' two_ne_zero]
        linarith
      show _ = _
      rw [hhalf]
    · have hgt : (d : ℚ) < 2 * (n % d : ℕ) := by exact_mod_cast Nat.compare_eq_gt.mp hcompare
      have hhalf : 1 / 2 < ((n % d : ℕ) : ℚ) / d := by
        rw [div_lt_div_iff₀ two_pos hpos]
        linarith
      exact ⟨by linarith, by linarith⟩

end Truncates

/-! ## Rounding to the digits of a double -/

theorem targetExponent_binary64 (m : ℕ) (e : ℤ) :
    Format.binary64.targetExponent (totalExponent m e) = max (m.log2 + e - 52) (-1074) := by
  show max ((m.log2 : ℤ) + 1 + e - 53) (3 - 2 ^ 10 - 53) = _
  congr 1
  omega

/-- The digits of a double are those in front of the one that decides. -/
theorem exists_shift {m : ℕ} {e : ℤ} {a : Accuracy} {y : ℚ}
    (hy : Truncates (.ofMantissaAndAccuracy m a) y) (hdigits : 2 ^ 52 ≤ m ∨ e ≤ -1074) :
    ∃ em t z, shiftToTargetExponent .binary64 m e a = (em, t) ∧ Truncates em z ∧
      z * 2 ^ t = y * 2 ^ e ∧ -1074 ≤ t ∧ z < 2 ^ 53 ∧ (t = -1074 ∨ 2 ^ 52 ≤ z) := by
  obtain ⟨hlower, hupper⟩ := hy.bounds
  rw [Truncates.ofMantissaAndAccuracy] at hlower hupper
  have hlog (h : 2 ^ 52 ≤ m) : 52 ≤ m.log2 := (Nat.le_log2 (by omega)).mpr h
  obtain ⟨t, ht⟩ : ∃ t, t = max ((m.log2 : ℤ) + e - 52) (-1074) := ⟨_, rfl⟩
  obtain ⟨k, hk⟩ : ∃ k : ℕ, t = e + k := ⟨(t - e).toNat, by omega⟩
  refine ⟨ExtendedMantissa.ofMantissaAndAccuracy m a >>> k, t, y / 2 ^ k, ?_, hy.shiftRight k, ?_,
    by omega, ?_, ?_⟩
  · rw [shiftToTargetExponent, targetExponent_binary64, ← ht]
    unfold shiftToExponent
    rw [show (t - e).toNat = k by omega, hk]
  · rw [hk, zpow_add₀ two_ne_zero, zpow_natCast]
    field_simp
  · have hsmall : m < 2 ^ (53 + k) :=
      Nat.lt_log2_self.trans_le (Nat.pow_le_pow_right two_pos (by omega))
    have hsmall : (m : ℚ) + 1 ≤ 2 ^ 53 * 2 ^ k := by
      rw [← pow_add]
      exact_mod_cast hsmall
    rw [div_lt_iff₀ (by positivity)]
    linarith
  · rw [or_iff_not_imp_left]
    intro hleast
    have hbig : 2 ^ (52 + k) ≤ m := by
      have hm : m ≠ 0 := by
        rintro rfl
        have := Nat.log2_zero
        omega
      refine (Nat.pow_le_pow_right two_pos ?_).trans (Nat.log2_self_le hm)
      omega
    have hbig : (2 : ℚ) ^ 52 * 2 ^ k ≤ m := by
      rw [← pow_add]
      exact_mod_cast hbig
    rw [le_div_iff₀ (by positivity)]
    linarith

/-- Digits that are rounded up to a power of two are shifted once more. -/
theorem shift_exact {n : ℕ} {t : ℤ} (ht : -1074 ≤ t) (hn : n ≤ 2 ^ 53) :
    shiftToTargetExponent .binary64 n t .exact =
      if n = 2 ^ 53 then (⟨2 ^ 52, false, false⟩, t + 1) else (⟨n, false, false⟩, t) := by
  rw [shiftToTargetExponent, targetExponent_binary64]
  split
  next h =>
    rw [h, Nat.log2_two_pow]
    unfold shiftToExponent
    rw [show (max (((53 : ℕ) : ℤ) + t - 52) (-1074) - t).toNat = 1 by omega]
    rfl
  next h =>
    have hlog : n.log2 ≤ 52 := by
      by_cases hzero : n = 0
      · rw [hzero, Nat.log2_zero]
        omega
      · have := (Nat.log2_lt hzero).mpr (by omega : n < 2 ^ 53)
        omega
    unfold shiftToExponent
    rw [show (max ((n.log2 : ℤ) + t - 52) (-1074) - t).toNat = 0 by omega]
    simp only [Nat.cast_zero, add_zero]
    rfl

/-- The library rounds to the canonical number that attracts the exact one. -/
theorem exists_roundWithAccuracy {m : ℕ} {e : ℤ} {a : Accuracy} {y : ℚ} (s : Sign)
    (hy : Truncates (.ofMantissaAndAccuracy m a) y) (hdigits : 2 ^ 52 ≤ m ∨ e ≤ -1074) :
    ∃ n t, IsCanonical n t ∧ Attracts n t (y * 2 ^ e) ∧
      roundWithAccuracy .binary64 s m e a =
        if h : n = 0 then .zero s else .finite s n t (Nat.pos_of_ne_zero h) := by
  obtain ⟨em, t, z, hshift, hz, hvalue, ht, hsmall, hfull⟩ := exists_shift hy hdigits
  obtain ⟨hlower, hupper, hodd⟩ := hz.roundsTo
  have hround : roundWithAccuracy .binary64 s m e a =
      let r := shiftToTargetExponent .binary64 em.roundedMantissa t .exact
      if h : r.1.mantissa = 0 then .zero s
      else .finite s r.1.mantissa r.2 (Nat.pos_of_ne_zero h) := by
    rw [roundWithAccuracy, hshift]
  rw [← hvalue]
  generalize em.roundedMantissa = n at *
  have hn : n ≤ 2 ^ 53 := by
    by_contra h
    have : (2 : ℚ) ^ 53 + 1 ≤ n := by exact_mod_cast not_le.mp h
    linarith
  rw [shift_exact ht hn] at hround
  by_cases hcarry : n = 2 ^ 53
  · rw [if_pos hcarry] at hround
    refine ⟨2 ^ 52, t + 1, ⟨by norm_num, by omega, .inr le_rfl⟩, ?_, hround⟩
    have hgap : gapBelow (2 ^ 52) (t + 1) = 1 / 2 := if_pos ⟨rfl, by omega⟩
    have hunit : z * 2 ^ t = z / 2 * 2 ^ (t + 1) := by
      rw [zpow_add_one₀ two_ne_zero]
      ring
    rw [hunit]
    rw [hcarry] at hlower
    push_cast at hlower
    refine .of_units ?_ ?_ fun h => absurd h (by norm_num)
    · rw [hgap]
      push_cast
      linarith
    · push_cast
      linarith
  · rw [if_neg hcarry] at hround
    have hfull' : t = -1074 ∨ 2 ^ 52 ≤ n := by
      refine hfull.imp_right fun h => ?_
      by_contra hlt
      have : (n : ℚ) + 1 ≤ 2 ^ 52 := by exact_mod_cast not_le.mp hlt
      linarith
    refine ⟨n, t, ⟨by omega, ht, hfull'⟩, ?_, hround⟩
    by_cases hpower : n = 2 ^ 52 ∧ -1074 < t
    · -- nothing below the power of two is rounded up to it with this unit
      have hgap : gapBelow n t = 1 / 2 := if_pos hpower
      have hz : (n : ℚ) ≤ z := by
        rw [hpower.1]
        push_cast
        exact hfull.resolve_left (by omega)
      refine .of_units ?_ hupper fun h => absurd h (by rw [hpower.1]; norm_num)
      rw [hgap]
      linarith
    · have hgap : gapBelow n t = 1 := if_neg hpower
      refine .of_units ?_ hupper ?_
      · rwa [hgap]
      · rwa [hgap]

/-! ## Products and quotients -/

/-- `x` is what the magnitude `v` with a sign rounds to: the double that attracts it, or none if
it is beyond the doubles. -/
def Rounded (negative : Bool) (v : ℚ) (x : Float) : Prop :=
  match Binary.ofFloat? x with
  | some b => b.negative = negative ∧ Attracts b.mantissa b.exponent v
  | none => overflow ≤ v

theorem Rounded.of_parts {negative : Bool} {v : ℚ} {x : Float} {m : ℕ} {e : ℤ}
    (hx : Binary.ofFloat? x = some ⟨negative, m, e⟩) (hv : Attracts m e v) :
    Rounded negative v x := by
  unfold Rounded
  rw [hx]
  exact ⟨rfl, hv⟩

theorem Rounded.neg {negative : Bool} {v : ℚ} {x : Float} (h : Rounded negative v x) :
    Rounded (!negative) v (-x) := by
  unfold Rounded at h ⊢
  rw [Binary.ofFloat?_neg]
  cases hx : Binary.ofFloat? x with
  | none =>
    rw [hx] at h
    exact h
  | some b =>
    rw [hx] at h
    exact ⟨congrArg (!·) h.1, h.2⟩

theorem rounded_roundWithAccuracy {m : ℕ} {e : ℤ} {a : Accuracy} {y : ℚ} (s : Sign)
    (hy : Truncates (.ofMantissaAndAccuracy m a) y) (hdigits : 2 ^ 52 ≤ m ∨ e ≤ -1074) :
    Rounded (s == .negative) (y * 2 ^ e)
      (.ofModel (Float.Model.pack (roundWithAccuracy .binary64 s m e a))) := by
  obtain ⟨n, t, hcanonical, hattracts, hround⟩ := exists_roundWithAccuracy s hy hdigits
  rw [hround]
  split
  next hzero =>
    subst hzero
    obtain rfl : t = -1074 := hcanonical.full.resolve_right (by norm_num)
    refine .of_parts (Binary.ofFloat?_pack ?_) hattracts
    rintro b ⟨⟩
    exact ⟨hcanonical, by norm_num⟩
  next hzero =>
    rcases le_or_gt t 971 with hle | hgt
    · exact .of_parts (Binary.ofFloat?_pack_finite _ hcanonical hle) hattracts
    · unfold Rounded
      rw [Binary.ofFloat?_pack_beyond _ (by omega)]
      exact hattracts.overflow_le hcanonical (by omega)

section

variable {m m' : ℕ} {e e' : ℤ} (hm : 0 < m) (hm' : 0 < m')

theorem pack_mul_rounded (hdigits : 2 ^ 52 ≤ m * m') :
    Rounded false (m * 2 ^ e * (m' * 2 ^ e'))
      (.ofModel (Float.Model.pack
        (UnpackedFloat.mul .binary64 (.finite .positive m e hm) (.finite .positive m' e' hm')))) := by
  have hexact : Truncates (.ofMantissaAndAccuracy (m * m') .exact) ((m * m' : ℕ) : ℚ) := rfl
  have hvalue : (m : ℚ) * 2 ^ e * (m' * 2 ^ e') = (m * m' : ℕ) * 2 ^ (e + e') := by
    rw [zpow_add₀ two_ne_zero]
    push_cast
    ring
  rw [hvalue]
  exact rounded_roundWithAccuracy .positive hexact (.inl hdigits)

/-- A quotient is worked out to all digits of a double. -/
theorem pack_div_rounded :
    Rounded false (m * 2 ^ e / (m' * 2 ^ e'))
      (.ofModel (Float.Model.pack
        (UnpackedFloat.div .binary64 (.finite .positive m e hm) (.finite .positive m' e' hm')))) := by
  obtain ⟨t, ht⟩ : ∃ t : ℤ,
      t = min (e - e') (max ((m.log2 : ℤ) + e - (m'.log2 + e') - 53) (-1074)) := ⟨_, rfl⟩
  obtain ⟨k, hk⟩ : ∃ k : ℕ, e - e' = t + k := ⟨(e - e' - t).toNat, by omega⟩
  have htarget : Format.binary64.targetExponent (totalExponent m e - totalExponent m' e') =
      max ((m.log2 : ℤ) + e - (m'.log2 + e') - 53) (-1074) := by
    show max ((m.log2 : ℤ) + 1 + e - (m'.log2 + 1 + e') - 53) (3 - 2 ^ 10 - 53) = _
    congr 1
    omega
  have hcore : divCore .binary64 m e m' e' =
      (m * 2 ^ k / m', t, accuracyOfFraction (m * 2 ^ k % m') m') := by
    unfold divCore
    dsimp only
    rw [htarget, ← ht, show (e - e' - t).toNat = k by omega, Nat.shiftLeft_eq]
  have hdiv : UnpackedFloat.div .binary64 (.finite .positive m e hm) (.finite .positive m' e' hm') =
      roundWithAccuracy .binary64 .positive (m * 2 ^ k / m') t
        (accuracyOfFraction (m * 2 ^ k % m') m') := by
    show (let r := divCore .binary64 m e m' e'
      roundWithAccuracy .binary64 .positive r.1 r.2.1 r.2.2) = _
    rw [hcore]
  have hvalue : (m : ℚ) * 2 ^ e / (m' * 2 ^ e') = (m * 2 ^ k : ℕ) / m' * 2 ^ t := by
    have he : e = e' + t + k := by omega
    rw [he, zpow_add₀ two_ne_zero, zpow_add₀ two_ne_zero, zpow_natCast]
    push_cast
    field_simp
  have hdigits : 2 ^ 52 ≤ m * 2 ^ k / m' ∨ t ≤ -1074 := by
    rw [or_iff_not_imp_right]
    intro hlarge
    have hlog : 52 + (m'.log2 + 1) ≤ m.log2 + k := by omega
    rw [Nat.le_div_iff_mul_le hm']
    calc 2 ^ 52 * m' ≤ 2 ^ 52 * 2 ^ (m'.log2 + 1) := Nat.mul_le_mul_left _ Nat.lt_log2_self.le
      _ ≤ 2 ^ m.log2 * 2 ^ k := by
        rw [← pow_add, ← pow_add]
        exact Nat.pow_le_pow_right two_pos hlog
      _ ≤ m * 2 ^ k := Nat.mul_le_mul_right _ (Nat.log2_self_le hm.ne')
  rw [hdiv, hvalue]
  exact rounded_roundWithAccuracy .positive (.fraction _ hm') hdigits

end

end DriverDesk
