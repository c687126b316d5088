import Mathlib
import DriverDesk.Proofs.DoubleParts

/-!
# Rounding to doubles

`Attracts m e v` says that `v` lies in the interval of the numbers that round to `m · 2 ^ e`: up to
half way to its neighbours, and the halves themselves if `m` is even. A double is nearest to what
it attracts, no two doubles attract the same number, and the numbers that no double attracts are
beyond the greatest. The rounding of the library finds the double that attracts a number from its
leading digits, the digit behind them and whether anything follows.
-/

namespace DriverDesk

/-! ## Neighbours -/

/-- The distance to the next double below, in units of the last digit. Below a power of two the
doubles lie half as far apart. -/
def gapBelow (m : ℕ) (e : ℤ) : ℚ := if m = 2 ^ 52 ∧ -1074 < e then 1 / 2 else 1

theorem gapBelow_pos (m : ℕ) (e : ℤ) : 0 < gapBelow m e := by
  unfold gapBelow
  split <;> norm_num

theorem gapBelow_le_one (m : ℕ) (e : ℤ) : gapBelow m e ≤ 1 := by
  unfold gapBelow
  split <;> norm_num

theorem two_zpow_pos (e : ℤ) : (0 : ℚ) < 2 ^ e := by positivity

/-- Only one of the two powers is not one. -/
theorem zpow_eq_div {x : ℚ} (hx : x ≠ 0) (p : ℤ) : x ^ p = x ^ p.toNat / x ^ (-p).toNat := by
  rw [← zpow_natCast, ← zpow_natCast, ← zpow_sub₀ hx]
  congr 1
  omega

variable {m m' : ℕ} {e e' : ℤ}

/-- A number in a greater unit is counted in a smaller one. -/
theorem natCast_mul_zpow_add (n k : ℕ) (e : ℤ) :
    (n : ℚ) * 2 ^ (e + k) = (n * 2 ^ k : ℕ) * 2 ^ e := by
  rw [zpow_add₀ (by norm_num), zpow_natCast]
  push_cast
  ring

theorem natCast_mul_zpow_inj {n n' : ℕ} (h : (n : ℚ) * 2 ^ e = n' * 2 ^ e) : n = n' := by
  exact_mod_cast mul_right_cancel₀ (two_zpow_pos e).ne' h

namespace IsCanonical

/-- Between a canonical number and its neighbours there is none. -/
theorem apart (h : IsCanonical m e) (h' : IsCanonical m' e') :
    (m' : ℚ) * 2 ^ e' ≤ (m - gapBelow m e) * 2 ^ e ∨ (m' : ℚ) * 2 ^ e' = m * 2 ^ e ∨
      (m + 1 : ℚ) * 2 ^ e ≤ m' * 2 ^ e' := by
  have hgap := gapBelow_le_one m e
  have hunit := two_zpow_pos e
  rcases le_or_gt e e' with hle | hlt
  · -- a whole number of units
    obtain ⟨k, rfl⟩ := Int.le.dest hle
    rw [natCast_mul_zpow_add]
    rcases lt_trichotomy (m' * 2 ^ k) m with hlt | heq | hgt
    · left
      have hlt : ((m' * 2 ^ k : ℕ) : ℚ) + 1 ≤ m := by exact_mod_cast hlt
      exact mul_le_mul_of_nonneg_right (by linarith) hunit.le
    · exact .inr (.inl (by rw [heq]))
    · right; right
      have hgt : (m : ℚ) + 1 ≤ ((m' * 2 ^ k : ℕ) : ℚ) := by exact_mod_cast hgt
      exact mul_le_mul_of_nonneg_right hgt hunit.le
  · -- the mantissa is full, so the other number is smaller
    left
    have hleast := h'.least
    have hfull : 2 ^ 52 ≤ m := h.full.resolve_left (by omega)
    have hfits : (m' : ℚ) ≤ 2 ^ 53 - 1 := by
      have := h'.fits
      rw [le_sub_iff_add_le]
      exact_mod_cast this
    have hhalf : (2 : ℚ) ^ e' ≤ 2 ^ e / 2 := by
      rw [div_eq_mul_inv, ← zpow_sub_one₀ two_ne_zero]
      exact zpow_le_zpow_right₀ (by norm_num) (by omega)
    have hbound : (m' : ℚ) * 2 ^ e' ≤ (2 ^ 52 - 1 / 2) * 2 ^ e :=
      calc (m' : ℚ) * 2 ^ e' ≤ (2 ^ 53 - 1) * (2 ^ e / 2) :=
            mul_le_mul hfits hhalf (two_zpow_pos e').le (by norm_num)
        _ = (2 ^ 52 - 1 / 2) * 2 ^ e := by ring
    refine hbound.trans (mul_le_mul_of_nonneg_right ?_ hunit.le)
    rcases hfull.eq_or_lt with heq | hgt
    · have hgap : gapBelow m e = 1 / 2 := if_pos ⟨heq.symm, by omega⟩
      rw [hgap, ← heq]
      norm_num
    · have hgt : (2 : ℚ) ^ 52 + 1 ≤ m := by exact_mod_cast hgt
      linarith

/-- A number has one canonical form. -/
theorem eq_of_value_eq (h : IsCanonical m e) (h' : IsCanonical m' e')
    (hvalue : (m : ℚ) * 2 ^ e = m' * 2 ^ e') : m = m' ∧ e = e' := by
  wlog hle : e ≤ e' generalizing m m' e e'
  · exact (this h' h hvalue.symm (by omega)).imp Eq.symm Eq.symm
  obtain ⟨k, rfl⟩ := Int.le.dest hle
  rw [natCast_mul_zpow_add] at hvalue
  have hm : m = m' * 2 ^ k := natCast_mul_zpow_inj hvalue
  obtain rfl | hk : k = 0 ∨ 1 ≤ k := by omega
  · exact ⟨by simpa using hm, by simp⟩
  · have hleast := h.least
    have hfull : 2 ^ 52 ≤ m' := h'.full.resolve_left (by omega)
    have htwo : 2 ^ 1 ≤ 2 ^ k := Nat.pow_le_pow_right (by norm_num) hk
    have hbig : 2 ^ 52 * 2 ^ 1 ≤ m := hm ▸ Nat.mul_le_mul hfull htwo
    have hfits := h.fits
    omega

/-- Of two neighbours one is odd. -/
theorem odd_of_next (h : IsCanonical m e) (h' : IsCanonical m' e')
    (hnext : (m + 1 : ℚ) * 2 ^ e = m' * 2 ^ e') (heven : m % 2 = 0) : m' % 2 = 1 := by
  rw [← Nat.cast_succ] at hnext
  rcases le_or_gt e e' with hle | hlt
  · obtain ⟨k, rfl⟩ := Int.le.dest hle
    rw [natCast_mul_zpow_add] at hnext
    have hm : m + 1 = m' * 2 ^ k := natCast_mul_zpow_inj hnext
    rw [← Nat.mod_two_ne_zero]
    intro heven'
    have : m' * 2 ^ k % 2 = 0 := by rw [Nat.mul_mod, heven', Nat.zero_mul, Nat.zero_mod]
    omega
  · -- from a full mantissa there is no way up to a smaller unit
    obtain ⟨k, rfl⟩ := Int.le.dest hlt.le
    rw [natCast_mul_zpow_add] at hnext
    have hm : (m + 1) * 2 ^ k = m' := natCast_mul_zpow_inj hnext
    have hleast := h'.least
    have hfull : 2 ^ 52 ≤ m := h.full.resolve_left (by omega)
    have htwo : 2 ^ 1 ≤ 2 ^ k := Nat.pow_le_pow_right (by norm_num) (by omega)
    have hbig : (2 ^ 52 + 1) * 2 ^ 1 ≤ m' := hm ▸ Nat.mul_le_mul (by omega) htwo
    have hfits := h'.fits
    omega

end IsCanonical

/-! ## The numbers that round to a double -/

/-- `v` rounds to `m · 2 ^ e`. -/
structure Attracts (m : ℕ) (e : ℤ) (v : ℚ) : Prop where
  lower : (m - gapBelow m e / 2) * 2 ^ e ≤ v
  upper : v ≤ (m + 1 / 2) * 2 ^ e
  /-- The half of an odd number belongs to its neighbour. -/
  odd : m % 2 = 1 → (m - gapBelow m e / 2) * 2 ^ e < v ∧ v < (m + 1 / 2) * 2 ^ e

namespace Attracts

variable {v : ℚ}

theorem of_units {y : ℚ} (hlower : m - gapBelow m e / 2 ≤ y) (hupper : y ≤ m + 1 / 2)
    (hodd : m % 2 = 1 → m - gapBelow m e / 2 < y ∧ y < m + 1 / 2) : Attracts m e (y * 2 ^ e) where
  lower := mul_le_mul_of_nonneg_right hlower (two_zpow_pos e).le
  upper := mul_le_mul_of_nonneg_right hupper (two_zpow_pos e).le
  odd h := ⟨mul_lt_mul_of_pos_right (hodd h).1 (two_zpow_pos e),
    mul_lt_mul_of_pos_right (hodd h).2 (two_zpow_pos e)⟩

/-- A double is nearest to what it attracts, and it is even if another one is as near. -/
theorem nearest (hv : Attracts m e v) (h : IsCanonical m e) (h' : IsCanonical m' e') :
    |v - m * 2 ^ e| ≤ |v - m' * 2 ^ e'| ∧
      (|v - m * 2 ^ e| = |v - m' * 2 ^ e'| → (m : ℚ) * 2 ^ e = m' * 2 ^ e' ∨ m % 2 = 0) := by
  obtain ⟨hlower, hupper, hodd⟩ := hv
  have hunit := two_zpow_pos e
  have hgap := mul_pos (gapBelow_pos m e) hunit
  rw [← Nat.mod_two_ne_one]
  rw [sub_mul] at hlower hodd
  rw [add_mul] at hupper hodd
  rcases h.apart h' with hbelow | heq | habove
  · rw [sub_mul] at hbelow
    have hfar : |v - m' * 2 ^ e'| = v - m' * 2 ^ e' := abs_of_nonneg (by linarith)
    rw [hfar]
    refine ⟨abs_le.mpr ⟨by linarith, by linarith⟩, fun htie => .inr fun hm => ?_⟩
    obtain ⟨hlower, -⟩ := hodd hm
    have hnear : |v - m * 2 ^ e| < v - m' * 2 ^ e' := abs_lt.mpr ⟨by linarith, by linarith⟩
    exact hnear.ne htie
  · rw [heq]
    exact ⟨le_rfl, fun _ => .inl rfl⟩
  · rw [add_mul] at habove
    have hfar : |v - m' * 2 ^ e'| = m' * 2 ^ e' - v := by
      rw [abs_sub_comm]
      exact abs_of_nonneg (by linarith)
    rw [hfar]
    have hgap' := mul_le_mul_of_nonneg_right (gapBelow_le_one m e) hunit.le
    refine ⟨abs_le.mpr ⟨by linarith, by linarith⟩, fun htie => .inr fun hm => ?_⟩
    obtain ⟨hlower, hupper⟩ := hodd hm
    have hnear : |v - m * 2 ^ e| < m' * 2 ^ e' - v := abs_lt.mpr ⟨by linarith, by linarith⟩
    exact hnear.ne htie

/-- A number that is attracted by two doubles would lie half way between neighbours, and these are
not both even. -/
theorem value_eq {v : ℚ} (hv : Attracts m e v) (hv' : Attracts m' e' v) (h : IsCanonical m e)
    (h' : IsCanonical m' e') : (m : ℚ) * 2 ^ e = m' * 2 ^ e' := by
  by_contra hne
  wlog hlt : (m : ℚ) * 2 ^ e < m' * 2 ^ e' generalizing m m' e e'
  · exact this hv' hv h' h (Ne.symm hne) (lt_of_le_of_ne (not_lt.mp hlt) (Ne.symm hne))
  have hunit := two_zpow_pos e
  have hgap := mul_pos (gapBelow_pos m e) hunit
  have hgap' := mul_pos (gapBelow_pos m' e') (two_zpow_pos e')
  have habove : (m + 1 : ℚ) * 2 ^ e ≤ m' * 2 ^ e' := by
    rcases h.apart h' with hbelow | heq | habove
    · rw [sub_mul] at hbelow
      linarith
    · exact absurd heq.symm hne
    · exact habove
  have hbelow : (m : ℚ) * 2 ^ e ≤ (m' - gapBelow m' e') * 2 ^ e' := by
    rcases h'.apart h with hbelow | heq | habove
    · exact hbelow
    · exact absurd heq hne
    · rw [add_mul] at habove
      linarith [two_zpow_pos e']
  -- both intervals end at the middle
  obtain ⟨-, hupper, hodd⟩ := hv
  obtain ⟨hlower', -, hodd'⟩ := hv'
  rw [add_mul] at habove hupper hodd
  rw [sub_mul] at hbelow hlower' hodd'
  have hnext : (m + 1 : ℚ) * 2 ^ e = m' * 2 ^ e' := by
    rw [add_mul]
    linarith
  rcases Nat.mod_two_eq_zero_or_one m with heven | hm
  · have hm' := h.odd_of_next h' hnext heven
    linarith [(hodd' hm').1]
  · linarith [(hodd hm).2]

/-- A number rounds to one double. -/
theorem unique {v : ℚ} (hv : Attracts m e v) (hv' : Attracts m' e' v) (h : IsCanonical m e)
    (h' : IsCanonical m' e') : m = m' ∧ e = e' :=
  h.eq_of_value_eq h' (hv.value_eq hv' h h')

end Attracts

/-- The least number that rounds to no double: half way from the greatest double to the next
power of two. -/
def overflow : ℚ := (2 ^ 53 - 1 / 2) * 2 ^ (971 : ℤ)

theorem Attracts.lt_overflow {v : ℚ} (hv : Attracts m e v) (h : IsCanonical m e) (he : e ≤ 971) :
    v < overflow := by
  have hfits : (m : ℚ) + 1 ≤ 2 ^ 53 := by exact_mod_cast h.fits
  have hscale : (2 : ℚ) ^ e ≤ 2 ^ (971 : ℤ) := zpow_le_zpow_right₀ (by norm_num) he
  have hbound : (m + 1 / 2 : ℚ) * 2 ^ e ≤ overflow :=
    mul_le_mul (by linarith) hscale (two_zpow_pos e).le (by norm_num)
  rcases Nat.mod_two_eq_zero_or_one m with heven | hodd
  · -- the greatest mantissa is odd
    have hfits : (m : ℚ) + 2 ≤ 2 ^ 53 := by
      have := h.fits
      have : m + 2 ≤ 2 ^ 53 := by omega
      exact_mod_cast this
    calc v ≤ (m + 1 / 2) * 2 ^ e := hv.upper
      _ ≤ (2 ^ 53 - 3 / 2) * 2 ^ (971 : ℤ) :=
        mul_le_mul (by linarith) hscale (two_zpow_pos e).le (by norm_num)
      _ < overflow := mul_lt_mul_of_pos_right (by norm_num) (two_zpow_pos _)
  · exact (hv.odd hodd).2.trans_le hbound

theorem Attracts.overflow_le {v : ℚ} (hv : Attracts m e v) (h : IsCanonical m e) (he : 972 ≤ e) :
    overflow ≤ v := by
  have hfull : (2 : ℚ) ^ 52 ≤ m := by
    have := h.full.resolve_left (by omega)
    exact_mod_cast this
  have hscale : (2 : ℚ) ^ (972 : ℤ) ≤ 2 ^ e := zpow_le_zpow_right₀ (by norm_num) he
  have hgap : (2 : ℚ) ^ 52 - 1 / 4 ≤ m - gapBelow m e / 2 := by
    rcases hfull.eq_or_lt with heq | hgt
    · have hm : m = 2 ^ 52 := by exact_mod_cast heq.symm
      have : gapBelow m e = 1 / 2 := if_pos ⟨hm, by omega⟩
      rw [this, ← heq]
      norm_num
    · have : (2 : ℚ) ^ 52 + 1 ≤ m := by exact_mod_cast hgt
      linarith [gapBelow_le_one m e]
  have htwo : (2 : ℚ) ^ (972 : ℤ) = 2 ^ (971 : ℤ) * 2 := zpow_add_one₀ two_ne_zero 971
  calc overflow = (2 ^ 52 - 1 / 4) * 2 ^ (972 : ℤ) := by rw [overflow, htwo]; ring
    _ ≤ (m - gapBelow m e / 2) * 2 ^ e :=
      mul_le_mul hgap hscale (two_zpow_pos _).le (by linarith)
    _ ≤ v := hv.lower

end DriverDesk
