import Mathlib
import DriverDesk.Decimal.Shortest
import DriverDesk.Proofs.NearestDoubles

/-!
# The shortest decimal

The interval that the search for digits works with is that of the numbers that round to the double.
With seventeen digits the decimal numbers lie closer together than it is wide, so that the search
ends with a number of the interval, whatever the double. A grid that has any number in the interval
has a neighbour of the value there, so that no number with fewer digits rounds to the double.
-/

namespace DriverDesk.Decimal

/-! ## The interval -/

namespace Rounding

/-- The order in which the ends of the interval are compared. -/
def Fits (r : Rounding) (v w : ℚ) : Prop := if r.closed then v ≤ w else v < w

/-- The comparison of numerators over one denominator. -/
def compares (r : Rounding) (a b : ℕ) : Bool := if r.closed then a ≤ b else a < b

def lowest (r : Rounding) : ℚ := r.low / r.den

def number (r : Rounding) : ℚ := r.value / r.den

def highest (r : Rounding) : ℚ := r.high / r.den

/-- The numbers of the interval. -/
structure Holds (r : Rounding) (v : ℚ) : Prop where
  lower : r.Fits r.lowest v
  upper : r.Fits v r.highest

/-- An interval around a positive number. -/
structure Proper (r : Rounding) : Prop where
  den_pos : 0 < r.den
  value_pos : 0 < r.value
  low_lt : r.lowest < r.number
  lt_high : r.number < r.highest

variable {r : Rounding} {u v w : ℚ}

theorem Fits.of_lt (h : v < w) : r.Fits v w := by
  unfold Fits
  split
  · exact h.le
  · exact h

theorem Fits.trans_le (h : r.Fits u v) (hle : v ≤ w) : r.Fits u w := by
  unfold Fits at h ⊢
  split
  next hclosed =>
    rw [if_pos hclosed] at h
    exact h.trans hle
  next hopen =>
    rw [if_neg hopen] at h
    exact h.trans_le hle

theorem Fits.of_le (h : r.Fits v w) (hle : u ≤ v) : r.Fits u w := by
  unfold Fits at h ⊢
  split
  next hclosed =>
    rw [if_pos hclosed] at h
    exact hle.trans h
  next hopen =>
    rw [if_neg hopen] at h
    exact hle.trans_lt h

theorem compares_iff {k : ℚ} (hk : 0 < k) {a b : ℕ} (ha : (a : ℚ) = v * k)
    (hb : (b : ℚ) = w * k) : r.compares a b = true ↔ r.Fits v w := by
  unfold compares Fits
  split
  · rw [decide_eq_true_eq, ← mul_le_mul_iff_left₀ hk, ← ha, ← hb, Nat.cast_le]
  · rw [decide_eq_true_eq, ← mul_lt_mul_iff_left₀ hk, ← ha, ← hb, Nat.cast_lt]

theorem le_of_not_fits (h : ¬ r.Fits v w) : w ≤ v :=
  not_lt.mp fun hlt => h (.of_lt hlt)

theorem Proper.holds (hr : r.Proper) : r.Holds r.number := ⟨.of_lt hr.low_lt, .of_lt hr.lt_high⟩

theorem Holds.between (hu : r.Holds u) (hw : r.Holds w) (huv : u ≤ v) (hvw : v ≤ w) : r.Holds v :=
  ⟨hu.lower.trans_le huv, hw.upper.of_le hvw⟩

end Rounding

section

variable {m : ℕ} {e : ℤ}

/-- The numerators count quarters of the last digit. -/
theorem quarters (n : ℕ) (e : ℤ) :
    ((n * 2 ^ (e - 2).toNat : ℕ) : ℚ) / (2 ^ (2 - e).toNat : ℕ) = n / 4 * 2 ^ e := by
  have hsplit := zpow_eq_div two_ne_zero (e - 2)
  rw [neg_sub, zpow_sub₀ two_ne_zero] at hsplit
  push_cast
  rw [mul_div_assoc, ← hsplit]
  norm_num
  ring

theorem rounding_number : (rounding m e).number = m * 2 ^ e := by
  refine (quarters (4 * m) e).trans ?_
  push_cast
  ring

theorem rounding_lowest (hm : 0 < m) :
    (rounding m e).lowest = (m - gapBelow m e / 2) * 2 ^ e := by
  refine (quarters _ e).trans ?_
  unfold gapBelow
  by_cases hpower : m = 2 ^ 52 ∧ -1074 < e
  · rw [if_pos (show m = twoTo 52 ∧ e > -1074 from hpower), if_pos hpower, Nat.cast_sub (by omega)]
    push_cast
    ring
  · rw [if_neg (show ¬ (m = twoTo 52 ∧ e > -1074) from hpower), if_neg hpower,
      Nat.cast_sub (by omega)]
    push_cast
    ring

theorem rounding_highest : (rounding m e).highest = (m + 1 / 2) * 2 ^ e := by
  refine (quarters (4 * m + 2) e).trans ?_
  push_cast
  ring

theorem rounding_proper (hm : 0 < m) : (rounding m e).Proper where
  den_pos := Nat.pow_pos (by norm_num)
  value_pos := Nat.mul_pos (by omega) (Nat.pow_pos (by norm_num))
  low_lt := by
    have hgap := gapBelow_pos m e
    rw [rounding_lowest hm, rounding_number]
    exact mul_lt_mul_of_pos_right (by linarith) (two_zpow_pos e)
  lt_high := by
    rw [rounding_highest, rounding_number]
    exact mul_lt_mul_of_pos_right (by linarith) (two_zpow_pos e)

theorem rounding_holds_iff (hm : 0 < m) {v : ℚ} : (rounding m e).Holds v ↔ Attracts m e v := by
  have hfits {v w : ℚ} : (rounding m e).Fits v w ↔ v ≤ w ∧ (m % 2 = 1 → v < w) := by
    show (if (m % 2 == 0) = true then v ≤ w else v < w) ↔ _
    rcases Nat.mod_two_eq_zero_or_one m with heven | hodd
    · rw [if_pos (by rw [heven]; rfl), heven]
      simp
    · rw [if_neg (by rw [hodd]; decide), hodd]
      exact ⟨fun h => ⟨h.le, fun _ => h⟩, fun h => h.2 rfl⟩
  constructor
  · rintro ⟨hlower, hupper⟩
    rw [hfits, rounding_lowest hm] at hlower
    rw [hfits, rounding_highest] at hupper
    exact ⟨hlower.1, hupper.1, fun hodd => ⟨hlower.2 hodd, hupper.2 hodd⟩⟩
  · rintro ⟨hlower, hupper, hodd⟩
    refine ⟨?_, ?_⟩
    · rw [hfits, rounding_lowest hm]
      exact ⟨hlower, fun h => (hodd h).1⟩
    · rw [hfits, rounding_highest]
      exact ⟨hupper, fun h => (hodd h).2⟩

/-- The interval is wider than the last of seventeen digits. -/
theorem rounding_wide (h : IsCanonical m e) (hm : 0 < m) :
    (rounding m e).number / 10 ^ 16 < (rounding m e).highest - (rounding m e).lowest := by
  have hunit := two_zpow_pos e
  rw [rounding_lowest hm, rounding_highest, rounding_number, ← sub_mul, mul_div_right_comm]
  refine mul_lt_mul_of_pos_right ?_ hunit
  unfold gapBelow
  split
  next hpower =>
    rw [hpower.1]
    norm_num
  next =>
    have hfits : (m : ℚ) < 2 ^ 53 := by exact_mod_cast h.fits
    rw [div_lt_iff₀ (by norm_num)]
    linarith

end

/-! ## The grid -/

section

variable {r : Rounding}

/-- The numbers that are compared, over one denominator. -/
theorem exists_common (hden : 0 < r.den) (p : ℤ) : ∃ k : ℚ, 0 < k ∧
    (∀ a : ℕ, ((a * tenTo (-p).toNat : ℕ) : ℚ) = a / r.den * k) ∧
    ∀ n : ℕ, ((n * (r.den * tenTo p.toNat) : ℕ) : ℚ) = n * 10 ^ p * k := by
  have hden : (0 : ℚ) < r.den := by exact_mod_cast hden
  refine ⟨r.den * 10 ^ (-p).toNat, by positivity, fun a => ?_, fun n => ?_⟩
  · show ((a * 10 ^ (-p).toNat : ℕ) : ℚ) = _
    push_cast
    field_simp
  · show ((n * (r.den * 10 ^ p.toNat) : ℕ) : ℚ) = _
    rw [zpow_eq_div (by norm_num) p]
    push_cast
    field_simp

theorem onGrid?_eq (r : Rounding) (p : ℤ) :
    onGrid? r p =
      let scale := tenTo (-p).toNat
      let unit := r.den * tenTo p.toNat
      let below := r.value * scale / unit
      let belowFits := r.compares (r.low * scale) (below * unit)
      let aboveFits := r.compares ((below + 1) * unit) (r.high * scale)
      if belowFits && aboveFits then
        some (if 2 * (r.value * scale) < (2 * below + 1) * unit then below else below + 1)
      else if belowFits then some below
      else if aboveFits then some (below + 1)
      else none := rfl

/-- The neighbours of the value on a grid, and which of them lie in the interval. -/
theorem onGrid?_cases (hden : 0 < r.den) (p : ℤ) : ∃ below : ℕ,
    below * 10 ^ p ≤ r.number ∧ r.number < (below + 1 : ℕ) * 10 ^ p ∧
    (∀ n, onGrid? r p = some n → (n = below ∧ r.Fits r.lowest (below * 10 ^ p)) ∨
      (n = below + 1 ∧ r.Fits ((below + 1 : ℕ) * 10 ^ p) r.highest)) ∧
    (onGrid? r p = none → ¬ r.Fits r.lowest (below * 10 ^ p) ∧
      ¬ r.Fits ((below + 1 : ℕ) * 10 ^ p) r.highest) := by
  obtain ⟨k, hk, hscale, hunit⟩ := exists_common hden p
  have hpos : 0 < r.den * tenTo p.toNat := Nat.mul_pos hden (Nat.pow_pos (by norm_num))
  refine ⟨r.value * tenTo (-p).toNat / (r.den * tenTo p.toNat), ?_, ?_, ?_⟩
  · rw [Rounding.number, ← mul_le_mul_iff_left₀ hk, ← hscale, ← hunit]
    exact_mod_cast Nat.div_mul_le_self _ _
  · rw [Rounding.number, ← mul_lt_mul_iff_left₀ hk, ← hscale, ← hunit]
    exact_mod_cast Nat.lt_mul_of_div_lt (Nat.lt_succ_self _) hpos
  rw [onGrid?_eq]
  dsimp only
  generalize r.value * tenTo (-p).toNat / (r.den * tenTo p.toNat) = below
  have hbelow := r.compares_iff hk (hscale r.low) (hunit below)
  have habove := r.compares_iff hk (hunit (below + 1)) (hscale r.high)
  refine ⟨fun n h => ?_, fun h => ?_⟩
  · split at h
    next hboth =>
      obtain ⟨hb, ha⟩ := Bool.and_eq_true_iff.mp hboth
      obtain rfl := Option.some.inj h
      split
      · exact .inl ⟨rfl, hbelow.mp hb⟩
      · exact .inr ⟨rfl, habove.mp ha⟩
    split at h
    next hb => exact .inl ⟨(Option.some.inj h).symm, hbelow.mp hb⟩
    split at h
    next ha => exact .inr ⟨(Option.some.inj h).symm, habove.mp ha⟩
    next => cases h
  · split at h
    · cases h
    split at h
    · cases h
    next hb =>
      split at h
      · cases h
      next ha => exact ⟨mt hbelow.mpr hb, mt habove.mpr ha⟩

variable {p : ℤ} {n : ℕ}

/-- What is found lies in the interval, as the value does. -/
theorem holds_of_onGrid? (hr : r.Proper) (h : onGrid? r p = some n) : r.Holds (n * 10 ^ p) := by
  obtain ⟨below, hle, hlt, hfound, -⟩ := onGrid?_cases hr.den_pos p
  rcases hfound n h with ⟨rfl, hfits⟩ | ⟨rfl, hfits⟩
  · exact ⟨hfits, .of_lt (hle.trans_lt hr.lt_high)⟩
  · exact ⟨.of_lt (hr.low_lt.trans hlt), hfits⟩

/-- What is found has no more digits than the value has on the grid, or is a power of ten. -/
theorem le_of_onGrid? (hr : r.Proper) (h : onGrid? r p = some n) {k : ℕ}
    (hnumber : r.number < 10 ^ (p + k)) : n ≤ 10 ^ k := by
  obtain ⟨below, hle, -, hfound, -⟩ := onGrid?_cases hr.den_pos p
  have hbelow : below < 10 ^ k := by
    rw [zpow_add₀ (by norm_num), zpow_natCast, mul_comm] at hnumber
    have hlt : (below : ℚ) < 10 ^ k :=
      lt_of_mul_lt_mul_right (hle.trans_lt hnumber) (by positivity)
    exact_mod_cast hlt
  rcases hfound n h with ⟨rfl, -⟩ | ⟨rfl, -⟩ <;> omega

/-- A grid that is finer than the interval meets it. -/
theorem isSome_onGrid?_of_wide (hr : r.Proper) (hwide : (10 : ℚ) ^ p < r.highest - r.lowest) :
    (onGrid? r p).isSome = true := by
  obtain ⟨below, -, -, -, hmissed⟩ := onGrid?_cases hr.den_pos p
  rw [Option.isSome_iff_ne_none]
  intro h
  have hlow := r.le_of_not_fits (hmissed h).1
  have hhigh := r.le_of_not_fits (hmissed h).2
  push_cast at hhigh
  linarith

/-- A number of the grid and the interval has a neighbour of the value between it and the value. -/
theorem isSome_onGrid?_of_holds (hr : r.Proper) (hn : r.Holds (n * 10 ^ p)) :
    (onGrid? r p).isSome = true := by
  obtain ⟨below, -, -, -, hmissed⟩ := onGrid?_cases hr.den_pos p
  rw [Option.isSome_iff_ne_none]
  intro h
  rcases Nat.lt_or_ge below n with hlt | hge
  · have hle : ((below + 1 : ℕ) : ℚ) * 10 ^ p ≤ n * 10 ^ p :=
      mul_le_mul_of_nonneg_right (by exact_mod_cast hlt) (by positivity)
    exact (hmissed h).2 (hn.upper.of_le hle)
  · have hle : (n : ℚ) * 10 ^ p ≤ below * 10 ^ p :=
      mul_le_mul_of_nonneg_right (by exact_mod_cast hge) (by positivity)
    exact (hmissed h).1 (hn.lower.trans_le hle)

end

/-! ## Leading digits -/

theorem pow_digitCount_le {n : ℕ} (hn : 0 < n) : 10 ^ (digitCount n - 1) ≤ n := by
  rcases Nat.eq_zero_or_pos (digitCount n - 1) with hone | hmany
  · rw [hone, pow_zero]
    exact hn
  · by_contra hlt
    have hle := (Nat.length_toDigits_le_iff (by norm_num) hmany).mpr (not_le.mp hlt)
    unfold digitCount at hle hmany
    omega

theorem digitCount_pos (n : ℕ) : 0 < digitCount n := Nat.length_toDigits_pos

theorem lt_pow_digitCount (n : ℕ) : n < 10 ^ digitCount n :=
  (Nat.length_toDigits_le_iff (by norm_num) (digitCount_pos n)).mp le_rfl

/-- The power that is found is the first that will do. -/
theorem firstPower_spec {num den k fuel : ℕ} (h : den ≤ num * 10 ^ (k + fuel)) :
    k ≤ firstPower num den k fuel ∧ den ≤ num * 10 ^ firstPower num den k fuel ∧
      ∀ j, k ≤ j → j < firstPower num den k fuel → num * 10 ^ j < den := by
  induction fuel generalizing k with
  | zero => exact ⟨le_rfl, h, fun j hj hlt => absurd hlt hj.not_gt⟩
  | succ fuel ih =>
    rw [firstPower]
    split
    next hle => exact ⟨le_rfl, hle, fun j hj hlt => absurd hlt hj.not_gt⟩
    next hgt =>
      obtain ⟨hk, hfound, hleast⟩ := ih (k := k + 1) (by rwa [Nat.add_right_comm])
      refine ⟨by omega, hfound, fun j hj hlt => ?_⟩
      rcases hj.eq_or_lt with rfl | hj
      · exact not_le.mp hgt
      · exact hleast j hj hlt

/-- A number lies between the power of ten of its leading digit and the next. -/
theorem leadingPower_bounds {num den : ℕ} (hnum : 0 < num) (hden : 0 < den) :
    (10 : ℚ) ^ leadingPower num den ≤ num / den ∧
      (num / den : ℚ) < 10 ^ (leadingPower num den + 1) := by
  have hpos : (0 : ℚ) < den := by exact_mod_cast hden
  rw [le_div_iff₀ hpos, div_lt_iff₀ hpos]
  unfold leadingPower
  split
  next hle =>
    have hquotient : 0 < num / den := Nat.div_pos hle hden
    have hcount := digitCount_pos (num / den)
    rw [sub_add_cancel, ← Nat.cast_one, ← Nat.cast_sub hcount, zpow_natCast, zpow_natCast]
    constructor
    · exact_mod_cast (Nat.mul_le_mul_right den (pow_digitCount_le hquotient)).trans
        (Nat.div_mul_le_self num den)
    · exact_mod_cast Nat.lt_mul_of_div_lt (lt_pow_digitCount (num / den)) hden
  next hlt =>
    have hreached : den ≤ num * 10 ^ (1 + digitCount den) :=
      (lt_pow_digitCount den).le.trans ((Nat.pow_le_pow_right (by norm_num) (by omega)).trans
        (Nat.le_mul_of_pos_left _ hnum))
    obtain ⟨hone, hfound, hleast⟩ := firstPower_spec hreached
    generalize firstPower num den 1 (digitCount den) = k at *
    have hbefore : num * 10 ^ (k - 1) < den := by
      rcases hone.eq_or_lt with rfl | hmany
      · simpa using hlt
      · exact hleast (k - 1) (by omega) (by omega)
    constructor
    · rw [zpow_neg, zpow_natCast, inv_mul_le_iff₀ (by positivity), mul_comm]
      exact_mod_cast hfound
    · rw [show -(k : ℤ) + 1 = -((k - 1 : ℕ) : ℤ) by omega, zpow_neg, zpow_natCast,
        lt_inv_mul_iff₀ (by positivity), mul_comm]
      exact_mod_cast hbefore

/-! ## The digits -/

/-- The search ends at the first grid that meets the interval. -/
theorem firstGrid_spec {r : Rounding} {leading : ℤ} (digits fuel : ℕ) {k : ℕ} (hk : digits ≤ k)
    (hfuel : k < digits + fuel) (h : (onGrid? r (leading - (k : ℤ) + 1)).isSome = true) :
    ∃ j n, digits ≤ j ∧ j ≤ k ∧ firstGrid r leading digits fuel = (n, leading - (j : ℤ) + 1) ∧
      onGrid? r (leading - (j : ℤ) + 1) = some n ∧
      ∀ i, digits ≤ i → i < j → onGrid? r (leading - (i : ℤ) + 1) = none := by
  induction fuel generalizing digits with
  | zero => omega
  | succ fuel ih =>
    rw [firstGrid]
    cases hfound : onGrid? r (leading - (digits : ℤ) + 1) with
    | some n => exact ⟨digits, n, le_rfl, hk, rfl, hfound, fun i hi hlt => absurd hlt hi.not_gt⟩
    | none =>
      have hk : digits + 1 ≤ k := by
        rcases hk.eq_or_lt with rfl | hlt
        · rw [hfound] at h
          cases h
        · exact hlt
      obtain ⟨j, n, hj, hjk, hgrid, honGrid, hearlier⟩ := ih (digits + 1) hk (by omega)
      refine ⟨j, n, by omega, hjk, hgrid, honGrid, fun i hi hlt => ?_⟩
      rcases hi.eq_or_lt with rfl | hi
      · exact hfound
      · exact hearlier i hi hlt

theorem stripZeros_value (fuel n : ℕ) (e : ℤ) :
    ((stripZeros fuel (n, e)).1 : ℚ) * 10 ^ (stripZeros fuel (n, e)).2 = n * 10 ^ e := by
  induction fuel generalizing n e with
  | zero => rfl
  | succ fuel ih =>
    rw [stripZeros]
    split
    next h =>
      have hn : (n : ℚ) = (n / 10 : ℕ) * 10 := by
        exact_mod_cast (Nat.div_mul_cancel (Nat.dvd_of_mod_eq_zero h.2)).symm
      rw [ih, zpow_add_one₀ (by norm_num), hn]
      ring
    next => rfl

theorem stripZeros_le {fuel n : ℕ} {e : ℤ} : (stripZeros fuel (n, e)).1 ≤ n := by
  induction fuel generalizing n e with
  | zero => exact le_rfl
  | succ fuel ih =>
    rw [stripZeros]
    split
    next => exact ih.trans (Nat.div_le_self n 10)
    next => exact le_rfl

theorem stripZeros_pow {fuel k : ℕ} (hk : k ≤ fuel) (e : ℤ) :
    (stripZeros fuel (10 ^ k, e)).1 = 1 := by
  induction k generalizing fuel e with
  | zero => cases fuel <;> rfl
  | succ k ih =>
    obtain ⟨fuel, rfl⟩ : ∃ f, fuel = f + 1 := ⟨fuel - 1, by omega⟩
    have hdivided : 10 ^ (k + 1) / 10 = 10 ^ k := by
      rw [pow_succ]
      exact Nat.mul_div_cancel _ (by norm_num)
    rw [stripZeros, if_pos ⟨by positivity, by rw [pow_succ]; exact Nat.mul_mod_left _ _⟩, hdivided]
    exact ih (by omega) (e + 1)

/-- What the search finds for a double that is not zero, and what came before. -/
theorem exists_shortest {b : Binary} (h : IsCanonical b.mantissa b.exponent)
    (hm : b.mantissa ≠ 0) :
    ∃ (leading : ℤ) (k n : ℕ), 0 < k ∧ k ≤ 17 ∧
      (10 : ℚ) ^ leading ≤ (rounding b.mantissa b.exponent).number ∧
      (rounding b.mantissa b.exponent).number < 10 ^ (leading + 1) ∧
      onGrid? (rounding b.mantissa b.exponent) (leading - (k : ℤ) + 1) = some n ∧
      (∀ i, 0 < i → i < k →
        onGrid? (rounding b.mantissa b.exponent) (leading - (i : ℤ) + 1) = none) ∧
      ((shortest b).coefficient, (shortest b).exponent) =
        stripZeros 20 (n, leading - (k : ℤ) + 1) := by
  have hr := rounding_proper (e := b.exponent) (Nat.pos_of_ne_zero hm)
  have hwide := rounding_wide h (Nat.pos_of_ne_zero hm)
  have hshortest : ((shortest b).coefficient, (shortest b).exponent) =
      stripZeros 20 (firstGrid (rounding b.mantissa b.exponent)
        (leadingPower (rounding b.mantissa b.exponent).value
          (rounding b.mantissa b.exponent).den) 1 20) := by
    unfold shortest
    rw [if_neg hm]
  generalize rounding b.mantissa b.exponent = r at *
  obtain ⟨hleast, hmost⟩ := leadingPower_bounds hr.value_pos hr.den_pos
  generalize leadingPower r.value r.den = leading at *
  have hseventeen : (onGrid? r (leading - (17 : ℕ) + 1)).isSome = true := by
    refine isSome_onGrid?_of_wide hr (lt_of_le_of_lt ?_ hwide)
    rw [le_div_iff₀ (by norm_num), ← zpow_natCast, ← zpow_add₀ (by norm_num),
      show leading - (17 : ℕ) + 1 + (16 : ℕ) = leading by omega]
    exact hleast
  obtain ⟨k, n, hk, hk', hgrid, honGrid, hearlier⟩ :=
    firstGrid_spec 1 20 (by norm_num) (by norm_num) hseventeen
  exact ⟨leading, k, n, hk, hk', hleast, hmost, honGrid, hearlier, hgrid ▸ hshortest⟩

/-- The decimal number that is written for a double rounds to it. -/
theorem attracts_shortest {b : Binary} (h : IsCanonical b.mantissa b.exponent)
    (hm : b.mantissa ≠ 0) : Attracts b.mantissa b.exponent (shortest b).absolute := by
  obtain ⟨leading, k, n, -, -, -, -, honGrid, -, hshortest⟩ := exists_shortest h hm
  have hpos : 0 < b.mantissa := Nat.pos_of_ne_zero hm
  have hvalue : (shortest b).absolute = n * 10 ^ (leading - (k : ℤ) + 1) := by
    rw [← stripZeros_value 20, ← hshortest]
    rfl
  rw [← rounding_holds_iff hpos, hvalue]
  exact holds_of_onGrid? (rounding_proper hpos) honGrid

/-- What is written for a double has no more digits than the first grid that meets the interval. -/
theorem coefficient_lt {b : Binary} {n k : ℕ} {e : ℤ} (hk : 0 < k) (hk' : k ≤ 17) (hn : n ≤ 10 ^ k)
    (h : ((shortest b).coefficient, (shortest b).exponent) = stripZeros 20 (n, e)) :
    (shortest b).coefficient < 10 ^ k := by
  have hcoefficient : (shortest b).coefficient = (stripZeros 20 (n, e)).1 := congrArg Prod.fst h
  rw [hcoefficient]
  rcases hn.eq_or_lt with rfl | hlt
  · rw [stripZeros_pow (by omega)]
    exact Nat.one_lt_pow hk.ne' (by norm_num)
  · exact stripZeros_le.trans_lt hlt

/-- A number of the interval gives one on the grid that has as many digits of the value as the
number has digits: the number itself, or the power of ten between it and the value. -/
theorem exists_holds_onGrid {r : Rounding} (hr : r.Proper) {leading : ℤ}
    (hleast : (10 : ℚ) ^ leading ≤ r.number) (hmost : r.number < 10 ^ (leading + 1)) {n : ℕ}
    {e : ℤ} (hn : r.Holds (n * 10 ^ e)) :
    ∃ n' : ℕ, r.Holds (n' * 10 ^ (leading - (digitCount n : ℤ) + 1)) := by
  have hcount := digitCount_pos n
  have hten : (0 : ℚ) < 10 ^ e := by positivity
  have hlarge : (n : ℚ) * 10 ^ e < 10 ^ ((digitCount n : ℤ) + e) := by
    rw [zpow_add₀ (by norm_num), zpow_natCast]
    exact mul_lt_mul_of_pos_right (by exact_mod_cast lt_pow_digitCount n) hten
  have hgrid (a i : ℕ) (p : ℤ) : ((a * 10 ^ i : ℕ) : ℚ) * 10 ^ p = a * 10 ^ (p + i) := by
    rw [zpow_add₀ (by norm_num), zpow_natCast]
    push_cast
    ring
  have hpower (i : ℕ) (p : ℤ) : ((1 * 10 ^ i : ℕ) : ℚ) * 10 ^ p = 10 ^ (p + i) := by
    rw [hgrid, Nat.cast_one, one_mul]
  rcases lt_or_ge ((n : ℚ) * 10 ^ e) (10 ^ leading) with hlt | hge
  · refine ⟨1 * 10 ^ (digitCount n - 1), ?_⟩
    rw [hpower, show leading - (digitCount n : ℤ) + 1 + (digitCount n - 1 : ℕ) = leading by omega]
    exact hn.between hr.holds hlt.le hleast
  rcases lt_or_ge ((n : ℚ) * 10 ^ e) (10 ^ (leading + 1)) with hlt' | hge'
  · -- the last digit of the number is not behind the last place of the grid
    have hexponent : leading < digitCount n + e :=
      (zpow_lt_zpow_iff_right₀ (by norm_num)).mp (hge.trans_lt hlarge)
    obtain ⟨i, hi⟩ := Int.le.dest (show leading - (digitCount n : ℤ) + 1 ≤ e by omega)
    refine ⟨n * 10 ^ i, ?_⟩
    rwa [hgrid, hi]
  · refine ⟨1 * 10 ^ digitCount n, ?_⟩
    rw [hpower, show leading - (digitCount n : ℤ) + 1 + digitCount n = leading + 1 by omega]
    exact hr.holds.between hn hmost.le hge'

/-- No decimal number with fewer digits rounds to the double. -/
theorem digitCount_shortest_le {b : Binary} (h : IsCanonical b.mantissa b.exponent)
    (hm : b.mantissa ≠ 0) {n : ℕ} {e : ℤ}
    (hn : Attracts b.mantissa b.exponent (n * 10 ^ e)) :
    digitCount (shortest b).coefficient ≤ digitCount n := by
  obtain ⟨leading, k, n₀, hk, hk', hleast, hmost, honGrid, hearlier, hshortest⟩ :=
    exists_shortest h hm
  have hmantissa : 0 < b.mantissa := Nat.pos_of_ne_zero hm
  have hr := rounding_proper (e := b.exponent) hmantissa
  obtain ⟨n', hn'⟩ :=
    exists_holds_onGrid hr hleast hmost ((rounding_holds_iff hmantissa).mpr hn)
  have hmet := isSome_onGrid?_of_holds hr hn'
  have hcount : k ≤ digitCount n := by
    by_contra hlt
    rw [hearlier _ (digitCount_pos n) (not_le.mp hlt)] at hmet
    cases hmet
  have hn₀ : n₀ ≤ 10 ^ k := by
    refine le_of_onGrid? hr honGrid ?_
    rwa [show leading - (k : ℤ) + 1 + k = leading + 1 by omega]
  have hfew : digitCount (shortest b).coefficient ≤ k :=
    (Nat.length_toDigits_le_iff (by norm_num) hk).mpr (coefficient_lt hk hk' hn₀ hshortest)
  exact hfew.trans hcount

end DriverDesk.Decimal
