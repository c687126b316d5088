import Mathlib
import DriverDesk.Sheet
import DriverDesk.Proofs.DoubleLengths

/-!
# The frames of a sheet

How many frames a sheet has is the whole part of a rounded quotient, and where one begins the whole
part of a rounded product. For frames of whole pixels both are exact. Frames of any length from one
pixel on are cut one behind the other within the sheet: the count is rounded up by less than the
last frame has room for, and adding a frame adds its whole pixels to the beginning of the next.
Frames of less than a pixel have none.
-/

namespace DriverDesk

/-- The spans of the first `n` frames of a sheet of `length` pixels: each has some of them, and
begins behind the one before it. -/
structure Slices (length n : ℕ) (start extent : ℕ → ℕ) : Prop where
  filled : ∀ k < n, 0 < extent k
  inside : ∀ k < n, start k + extent k ≤ length
  behind : ∀ k, k + 1 < n → start k + extent k ≤ start (k + 1)

namespace Slices

variable {length n : ℕ} {start extent : ℕ → ℕ}

theorem zero : Slices length 0 start extent := ⟨nofun, nofun, nofun⟩

/-- Frames lie in order, with no pixel in two of them. -/
theorem end_le (h : Slices length n start extent) {k l : ℕ} (hkl : k < l) (hl : l < n) :
    start k + extent k ≤ start l := by
  induction l, hkl using Nat.le_induction with
  | base => exact h.behind k hl
  | succ l hkl ih =>
    have hbehind := h.behind l hl
    have hrest := ih (by omega)
    omega

theorem pairwiseDisjoint (h : Slices length n start extent) :
    (Set.Iio n).PairwiseDisjoint fun k => Set.Ico (start k) (start k + extent k) := by
  have hbefore {k l : ℕ} (hl : l < n) (hkl : k < l) : Disjoint
      (Set.Ico (start k) (start k + extent k)) (Set.Ico (start l) (start l + extent l)) := by
    refine Set.disjoint_left.mpr fun y hk hl' => ?_
    exact absurd (hk.2.trans_le (h.end_le hkl hl)) (not_lt.mpr hl'.1)
  intro k hk l hl hne
  rcases Nat.lt_or_gt_of_ne hne with hkl | hlk
  · exact hbefore hl hkl
  · exact (hbefore hk hlk).symm

/-- There are no more frames than pixels. -/
theorem count_le (h : Slices length n start extent) : n ≤ length := by
  have hstart (k : ℕ) (hk : k < n) : k ≤ start k := by
    induction k with
    | zero => exact Nat.zero_le _
    | succ k ih =>
      have hbehind := h.behind k hk
      have hfilled := h.filled k (by omega)
      have hrest := ih (by omega)
      omega
  cases n with
  | zero => exact Nat.zero_le _
  | succ n =>
    have hlast := hstart n (Nat.lt_succ_self n)
    have hfilled := h.filled n (Nat.lt_succ_self n)
    have hinside := h.inside n (Nat.lt_succ_self n)
    omega

end Slices

namespace Sheet

variable {x y : Float} {v : ℚ} {w h i k : ℕ}

/-! ## Pixels -/

theorem pixels_of_measures (hx : Measures x v) (hv : v < 2 ^ 32) : pixels x = ⌊v⌋₊ := by
  have hfloor : ⌊v⌋₊ < 2 ^ 32 := (Nat.floor_lt hx.nonneg).mpr (by exact_mod_cast hv)
  rw [pixels, hx.whole_eq]
  omega

theorem pixels_natCast (hw : w < 2 ^ 32) : pixels (Arith.ofInt w : Float) = w := by
  have hv : (w : ℚ) < 2 ^ 32 := by exact_mod_cast hw
  rw [pixels_of_measures (measures_ofInt (by omega)) hv, Nat.floor_natCast]

/-! ## Counts -/

theorem frameCount_of_lt (hlt : y < x) : frameCount y x = 0 := by
  rw [frameCount, if_pos hlt, ite_self]

/-- The count is the whole part of the rounded quotient. -/
theorem frameCount_eq_floor (hx : Measures x v) (hone : 1 ≤ v) (hle : v ≤ w) (hw : w < 2 ^ 32) :
    ∃ r, RoundsAs (w / v) r ∧ frameCount (Arith.ofInt w) x = ⌊r⌋₊ := by
  have hsheet : Measures (Arith.ofInt w) w := measures_ofInt (by omega)
  have hquotient : (w : ℚ) / v ≤ w := div_le_self (Nat.cast_nonneg w) hone
  have hlimit : (w : ℚ) < 2 ^ 32 := by exact_mod_cast hw
  obtain ⟨r, hr, hround⟩ := hsheet.div hx (hone.trans hle) hone (by linarith)
  have hfloor : ⌊r⌋₊ ≤ w := Nat.floor_le_of_le (hround.le_natCast (by omega) hquotient)
  refine ⟨r, hround, ?_⟩
  have hpositive : ¬ x ≤ 0.0 := mt (hx.le_iff measures_zero).mp (by linarith)
  have hfits : ¬ (Arith.ofInt w : Float) < x := mt (hsheet.lt_iff hx).mp (not_lt.mpr hle)
  rw [frameCount, if_neg hpositive, if_neg hfits, hr.whole_eq]
  omega

/-- As many frames as are counted reach beyond the sheet by a small part of it at most. -/
theorem count_mul_le {n : ℕ} {r : ℚ} (hone : 1 ≤ v) (hround : RoundsAs (w / v) r)
    (hn : (n : ℚ) ≤ r) : n * v * (1 - 1 / 2 ^ 53) ≤ w := by
  rcases Nat.eq_zero_or_pos n with rfl | hpos
  · rw [Nat.cast_zero, zero_mul, zero_mul]
    exact Nat.cast_nonneg w
  have hleast : (1 : ℚ) ≤ n := by exact_mod_cast hpos
  have hnear : (n : ℚ) * (1 - 1 / 2 ^ 53) ≤ w / v :=
    (mul_le_mul_of_nonneg_right hn (by norm_num)).trans (hround.relative (hleast.trans hn))
  rw [le_div_iff₀ (by linarith)] at hnear
  linarith

/-! ## Frames of whole pixels -/

/-- A product of pixel counts is exact. -/
theorem pixels_natCast_mul (hi : 0 < i) (hk : k < 2 ^ 32) (hi' : i < 2 ^ 32)
    (hsmall : k * i < 2 ^ 32) : pixels (Arith.ofInt k * Arith.ofInt i : Float) = k * i := by
  have hone : (1 : ℚ) ≤ i := by exact_mod_cast hi
  have hproduct : (k : ℚ) * i = (k * i : ℕ) := (Nat.cast_mul k i).symm
  have hlimit : ((k * i : ℕ) : ℚ) < 2 ^ 32 := by exact_mod_cast hsmall
  obtain ⟨r, hr, hround⟩ := (measures_ofInt (by omega : i < 2 ^ 52)).natCast_mul hone
    (by omega : k < 2 ^ 52) (by linarith)
  rw [hproduct] at hround
  obtain rfl := hround.eq_natCast (by omega)
  rw [pixels_of_measures hr hlimit, Nat.floor_natCast]

/-- The quotient of pixel counts is not rounded up to the next whole number. -/
theorem frameCount_natCast (hh : h < 2 ^ 32) (hi : 0 < i) (hi' : i < 2 ^ 32) :
    frameCount (Arith.ofInt h : Float) (Arith.ofInt i) = h / i := by
  have hinterval : Measures (Arith.ofInt i) i := measures_ofInt (by omega)
  have hone : (1 : ℚ) ≤ i := by exact_mod_cast hi
  rcases lt_or_ge h i with hlt | hle
  · have hsheet : Measures (Arith.ofInt h) h := measures_ofInt (by omega)
    rw [frameCount_of_lt ((hsheet.lt_iff hinterval).mpr (by exact_mod_cast hlt)),
      Nat.div_eq_of_lt hlt]
  obtain ⟨r, hround, hcount⟩ := frameCount_eq_floor hinterval hone (by exact_mod_cast hle) hh
  have hquotient : h / i ≤ h := Nat.div_le_self h i
  rw [hcount, Nat.floor_eq_iff hround.nonneg]
  refine ⟨hround.natCast_le (by omega) Nat.cast_div_le, ?_⟩
  -- one more interval would reach a row beyond the sheet, which is more than rounding adds
  by_contra hup
  rw [not_lt] at hup
  have hnear : ((h / i + 1 : ℕ) : ℚ) * i * (1 - 1 / 2 ^ 53) ≤ h :=
    count_mul_le hone hround (by exact_mod_cast hup)
  have hnext : h + 1 ≤ (h / i + 1) * i := by
    have := Nat.lt_mul_div_succ h hi
    linarith
  have hnext : (h : ℚ) + 1 ≤ (h / i + 1 : ℕ) * i := by exact_mod_cast hnext
  have hsmall : (h / i + 1) * i ≤ 2 ^ 33 := by
    have := Nat.div_mul_le_self h i
    rw [add_mul, one_mul]
    omega
  have hsmall : ((h / i + 1 : ℕ) : ℚ) * i ≤ 2 ^ 33 := by exact_mod_cast hsmall
  linarith

/-! ## Frames of any length -/

/-- A length between one pixel and those of the sheet is a number. -/
theorem measures_of_between (hone : 1.0 ≤ x) (hw : w < 2 ^ 32)
    (hle : ¬ (Arith.ofInt w : Float) < x) : ∃ v, Measures x v ∧ 1 ≤ v ∧ v ≤ w := by
  have hsheet : Measures (Arith.ofInt w) w := measures_ofInt (by omega)
  rcases measures_one.of_le one_pos hone with ⟨v, hx⟩ | hinfinite
  · refine ⟨v, hx, (measures_one.le_iff hx).mp hone, ?_⟩
    exact not_lt.mp (mt (hsheet.lt_iff hx).mpr hle)
  · exact absurd (hsheet.lt_infinity hinfinite) hle

/-- Frames in front of the last begin at the whole part of a rounded multiple, within the sheet. -/
theorem exists_start (hx : Measures x v) (hone : 1 ≤ v) (hw : w < 2 ^ 32) {n : ℕ}
    (hcover : n * v * (1 - 1 / 2 ^ 53) ≤ w) (hk : k ≤ n) :
    ∃ r, RoundsAs (k * v) r ∧ pixels (Arith.ofInt k * x) = ⌊r⌋₊ ∧ ⌊r⌋₊ ≤ w := by
  have hlimit : (w : ℚ) < 2 ^ 32 := by exact_mod_cast hw
  have hmultiple : (k : ℚ) * v ≤ n * v :=
    mul_le_mul_of_nonneg_right (by exact_mod_cast hk) (by linarith)
  have hbeginning : (k : ℚ) * v * (1 - 1 / 2 ^ 53) ≤ w :=
    le_trans (mul_le_mul_of_nonneg_right hmultiple (by norm_num)) hcover
  have hcount : (k : ℚ) ≤ k * v := le_mul_of_one_le_right (Nat.cast_nonneg k) hone
  have hk : k < 2 ^ 52 := by
    have : (k : ℚ) < 2 ^ 52 := by linarith
    exact_mod_cast this
  obtain ⟨r, hr, hround⟩ := hx.natCast_mul hone hk (by linarith)
  have hsmall : r < w + 1 := by
    rcases le_or_gt 1 r with hge | hlt
    · have hnear := hround.relative hge
      linarith
    · have : (0 : ℚ) ≤ w := Nat.cast_nonneg w
      linarith
  have hfloor : ⌊r⌋₊ ≤ w := by
    have := (Nat.floor_lt hround.nonneg).mpr (by exact_mod_cast hsmall : r < ((w + 1 : ℕ) : ℚ))
    omega
  refine ⟨r, hround, ?_, hfloor⟩
  rw [pixels, hr.whole_eq]
  omega

/-- Frames of one pixel or more are cut one behind the other. -/
theorem slices_of_one_le (hone : 1.0 ≤ x) (hw : w < 2 ^ 32) :
    Slices w (frameCount (Arith.ofInt w) x) (fun k => pixels (Arith.ofInt k * x))
      (fun _ => pixels x) := by
  by_cases hlt : (Arith.ofInt w : Float) < x
  · rw [frameCount_of_lt hlt]
    exact .zero
  obtain ⟨v, hx, hv, hle⟩ := measures_of_between hone hw hlt
  obtain ⟨q, hround, hcount⟩ := frameCount_eq_floor hx hv hle hw
  have hlimit : (w : ℚ) < 2 ^ 32 := by exact_mod_cast hw
  have hextent : pixels x = ⌊v⌋₊ := pixels_of_measures hx (by linarith)
  have hfilled : 0 < ⌊v⌋₊ := Nat.floor_pos.mpr hv
  generalize frameCount (Arith.ofInt w) x = n at *
  have hcover : n * v * (1 - 1 / 2 ^ 53) ≤ w :=
    count_mul_le hv hround (hcount ▸ Nat.floor_le hround.nonneg)
  -- a frame adds its whole pixels to the beginning of the next, however both are rounded
  have hstep {k : ℕ} (hk : k < n) :
      pixels (Arith.ofInt k * x) + pixels x ≤ pixels (Arith.ofInt (k + 1 : ℕ) * x) ∧
        pixels (Arith.ofInt (k + 1 : ℕ) * x) ≤ w := by
    obtain ⟨r, hr, hstart, hinside⟩ := exists_start hx hv hw hcover hk.le
    obtain ⟨r', hr', hnext, hinside'⟩ := exists_start hx hv hw hcover hk
    rw [Nat.cast_succ, add_mul, one_mul] at hr'
    rw [hstart, hnext, hextent]
    have hextent_le : ⌊v⌋₊ ≤ w := Nat.floor_le_of_le hle
    have hsum := hr.add_le hr' (Nat.floor_le hr.nonneg) (Nat.floor_le (by linarith : 0 ≤ v))
      (by omega)
    exact ⟨Nat.le_floor hsum, hinside'⟩
  refine ⟨fun _ _ => hextent ▸ hfilled, fun k hk => ?_, fun k hk => (hstep (by omega)).1⟩
  exact (hstep hk).1.trans (hstep hk).2

/-- A length of less than a pixel has no pixels. -/
theorem pixels_of_lt_one (hsmall : x < 1.0) : pixels x = 0 := by
  rcases whole_of_lt measures_one hsmall with ⟨v, hx, hv⟩ | hwhole
  · rw [pixels_of_measures hx (by linarith), Nat.floor_eq_zero.mpr hv]
  · rw [pixels, hwhole, Nat.zero_min]

end Sheet

end DriverDesk
