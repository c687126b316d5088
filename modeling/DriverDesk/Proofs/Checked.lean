import DriverDesk.Options
import DriverDesk.Proofs.Exact
import DriverDesk.Sheet

/-!
# Checked arithmetic

The real numbers with a division that is checked: a quotient by zero has no value, and neither
has what is worked out from it. As with doubles that are not numbers, no comparison holds of what
has no value. So a number that has a value was worked out without a division by zero.
-/

namespace DriverDesk

/-- A real number, or what a division by zero leaves. -/
inductive Checked where
  | value (x : ℝ)
  | undefined

namespace Checked

/-- A function of numbers that have values. -/
def map (f : ℝ → ℝ) : Checked → Checked
  | value x => value (f x)
  | undefined => undefined

def map₂ (f : ℝ → ℝ → ℝ) : Checked → Checked → Checked
  | value x, value y => value (f x y)
  | _, _ => undefined

/-- A comparison, which holds only of numbers that have values. -/
def Compares (r : ℝ → ℝ → Prop) : Checked → Checked → Prop
  | value x, value y => r x y
  | _, _ => False

open Classical in
/-- The quotient of a number by one that is not zero. -/
noncomputable def quotient : Checked → Checked → Checked
  | value x, value y => if y = 0 then undefined else value (x * y⁻¹)
  | _, _ => undefined

open Classical in
/-- Panels laid out without rounding and without quotients by zero. -/
noncomputable instance : Arith Checked where
  add := map₂ (· + ·)
  sub := map₂ (· - ·)
  mul := map₂ (· * ·)
  div := quotient
  neg := map (- ·)
  ofScientific m negative e := value (Arith.toOfScientific.ofScientific m negative e)
  lt := Compares (· < ·)
  le := Compares (· ≤ ·)
  beq x y := decide (Compares (· = ·) x y)
  decLt _ _ := propDecidable _
  decLe _ _ := propDecidable _
  ofInt n := value (Arith.ofInt n)
  ofDecimal d := value (Arith.ofDecimal d)
  whole
    | value x => Arith.whole x
    | undefined => 0
  mulAdd a b c := map₂ (· + ·) (map₂ (· * ·) a b) c
  tan := map Arith.tan
  atan := map Arith.atan
  sin := map Arith.sin
  cos := map Arith.cos
  pi := value Arith.pi

/-- The number has a value. -/
def Defined (x : Checked) : Prop := ∃ a, x = value a

/-- The number has a value that may be divided by. -/
def Divisor (x : Checked) : Prop := ∃ a, a ≠ 0 ∧ x = value a

variable {x y z : Checked} {a b : ℝ}

theorem Divisor.defined (h : x.Divisor) : x.Defined := by
  obtain ⟨a, -, rfl⟩ := h
  exact ⟨a, rfl⟩

@[simp] theorem defined_value (a : ℝ) : (value a).Defined := ⟨a, rfl⟩

@[simp] theorem not_defined_undefined : ¬ undefined.Defined := nofun

@[simp] theorem divisor_value : (value a).Divisor ↔ a ≠ 0 :=
  ⟨fun ⟨_, hb, h⟩ => value.inj h ▸ hb, fun h => ⟨a, h, rfl⟩⟩

@[simp] theorem not_divisor_undefined : ¬ undefined.Divisor := nofun

/-! ## What the operations leave -/

theorem value_add (a b : ℝ) : value a + value b = value (a + b) := rfl

theorem value_sub (a b : ℝ) : value a - value b = value (a - b) := rfl

theorem value_mul (a b : ℝ) : value a * value b = value (a * b) := rfl

theorem value_div (hb : b ≠ 0) : value a / value b = value (a * b⁻¹) := if_neg hb

theorem div_value_zero (x : Checked) : x / value 0 = undefined := by
  cases x with
  | value a => exact if_pos rfl
  | undefined => rfl

theorem add_value_zero (x : Checked) : x + value 0 = x := by
  cases x with
  | value a => rw [value_add, add_zero]
  | undefined => rfl

theorem mul_value_zero (hx : x.Defined) : x * value 0 = value 0 := by
  obtain ⟨a, rfl⟩ := hx
  rw [value_mul, mul_zero]

theorem value_zero_div (hy : y.Divisor) : value 0 / y = value 0 := by
  obtain ⟨b, hb, rfl⟩ := hy
  rw [value_div hb, zero_mul]

theorem defined_map {f : ℝ → ℝ} : (x.map f).Defined ↔ x.Defined := by
  cases x <;> simp [map]

theorem defined_map₂ {f : ℝ → ℝ → ℝ} : (map₂ f x y).Defined ↔ x.Defined ∧ y.Defined := by
  cases x <;> cases y <;> simp [map₂]

@[simp] theorem defined_add : (x + y).Defined ↔ x.Defined ∧ y.Defined := defined_map₂

@[simp] theorem defined_sub : (x - y).Defined ↔ x.Defined ∧ y.Defined := defined_map₂

@[simp] theorem defined_mul : (x * y).Defined ↔ x.Defined ∧ y.Defined := defined_map₂

@[simp] theorem defined_neg : (-x).Defined ↔ x.Defined := defined_map

@[simp] theorem defined_div : (x / y).Defined ↔ x.Defined ∧ y.Divisor := by
  cases y with
  | undefined => cases x <;> exact ⟨nofun, fun h => absurd h.2 not_divisor_undefined⟩
  | value b =>
    by_cases hb : b = 0
    · subst hb
      simp [div_value_zero]
    · cases x with
      | value a => simp [value_div hb, hb]
      | undefined => exact ⟨nofun, fun h => absurd h.1 not_defined_undefined⟩

@[simp] theorem defined_mulAdd :
    (Arith.mulAdd x y z).Defined ↔ (x.Defined ∧ y.Defined) ∧ z.Defined :=
  defined_map₂.trans (and_congr_left' defined_map₂)

@[simp] theorem defined_tan : (Arith.tan x).Defined ↔ x.Defined := defined_map

@[simp] theorem defined_atan : (Arith.atan x).Defined ↔ x.Defined := defined_map

@[simp] theorem defined_sin : (Arith.sin x).Defined ↔ x.Defined := defined_map

@[simp] theorem defined_cos : (Arith.cos x).Defined ↔ x.Defined := defined_map

@[simp] theorem defined_ofScientific (m : Nat) (negative : Bool) (e : Nat) :
    (OfScientific.ofScientific m negative e : Checked).Defined := ⟨_, rfl⟩

@[simp] theorem defined_ofInt (n : Int) : (Arith.ofInt n : Checked).Defined := ⟨_, rfl⟩

@[simp] theorem defined_ofDecimal (d : Decimal) : (Arith.ofDecimal d : Checked).Defined := ⟨_, rfl⟩

@[simp] theorem defined_pi : (Arith.pi : Checked).Defined := ⟨_, rfl⟩

/-! ## What may be divided by -/

theorem ofScientific_eq_zero {m : Nat} {negative : Bool} {e : Nat} :
    (Arith.toOfScientific.ofScientific m negative e : ℝ) = 0 ↔ m = 0 := by
  have hrat : Rat.ofScientific m negative e = 0 ↔ m = 0 := by
    cases negative with
    | false => rw [Rat.ofScientific_false_def]; simp
    | true => rw [Rat.ofScientific_true_def, Rat.mkRat_eq_zero (by positivity)]
              exact Int.natCast_eq_zero
  simpa [OfScientific.ofScientific] using hrat

@[simp] theorem divisor_ofScientific {m : Nat} {negative : Bool} {e : Nat} :
    (OfScientific.ofScientific m negative e : Checked).Divisor ↔ m ≠ 0 :=
  divisor_value.trans (not_congr ofScientific_eq_zero)

@[simp] theorem divisor_ofInt {n : Int} : (Arith.ofInt n : Checked).Divisor ↔ n ≠ 0 :=
  divisor_value.trans (not_congr Int.cast_eq_zero)

@[simp] theorem divisor_mul : (x * y).Divisor ↔ x.Divisor ∧ y.Divisor := by
  constructor
  · intro h
    obtain ⟨⟨a, rfl⟩, ⟨b, rfl⟩⟩ := defined_mul.mp h.defined
    rw [value_mul, divisor_value, mul_ne_zero_iff] at h
    exact h.imp divisor_value.mpr divisor_value.mpr
  · rintro ⟨⟨a, ha, rfl⟩, ⟨b, hb, rfl⟩⟩
    exact ⟨a * b, mul_ne_zero ha hb, rfl⟩

@[simp] theorem divisor_div : (x / y).Divisor ↔ x.Divisor ∧ y.Divisor := by
  constructor
  · intro h
    obtain ⟨⟨a, rfl⟩, ⟨b, hb, rfl⟩⟩ := defined_div.mp h.defined
    rw [value_div hb, divisor_value] at h
    exact ⟨divisor_value.mpr (left_ne_zero_of_mul h), divisor_value.mpr hb⟩
  · rintro ⟨⟨a, ha, rfl⟩, ⟨b, hb, rfl⟩⟩
    exact ⟨a * b⁻¹, mul_ne_zero ha (inv_ne_zero hb), value_div hb⟩

theorem divisor_sub_sub (hx : x.Defined) (hy : y.Divisor) : (x - (x - y)).Divisor := by
  obtain ⟨a, rfl⟩ := hx
  obtain ⟨b, hb, rfl⟩ := hy
  rw [value_sub, value_sub, sub_sub_cancel]
  exact divisor_value.mpr hb

/-- A range stays one in any unit. -/
theorem divisor_sub_mul (h : (y - x).Divisor) (hz : z.Divisor) : (y * z - x * z).Divisor := by
  obtain ⟨⟨b, rfl⟩, ⟨a, rfl⟩⟩ := defined_sub.mp h.defined
  obtain ⟨c, hc, rfl⟩ := hz
  rw [value_mul, value_mul, value_sub, ← sub_mul, divisor_value]
  exact mul_ne_zero (divisor_value.mp h) hc

/-! ## What a test passes -/

open Classical in
theorem beq_iff : (x == y) = true ↔ ∃ a, x = value a ∧ y = value a := by
  refine decide_eq_true_iff.trans ?_
  cases x with
  | undefined => exact ⟨nofun, nofun⟩
  | value a =>
    cases y with
    | undefined => exact ⟨nofun, nofun⟩
    | value b => exact ⟨fun h => ⟨a, rfl, congrArg value h.symm⟩,
        fun ⟨_, h, h'⟩ => value.inj (h.trans h'.symm)⟩

theorem zero_eq : (0.0 : Checked) = value 0 := congrArg value (ofScientific_eq_zero.mpr rfl)

theorem sub_zero_eq (x : Checked) : x - 0.0 = x := by
  rw [zero_eq]
  cases x with
  | value a => rw [value_sub, sub_zero]
  | undefined => rfl

theorem beq_zero_iff : (x == 0.0) = true ↔ x = value 0 := by
  rw [beq_iff, zero_eq]
  exact ⟨fun ⟨a, h, h'⟩ => h.trans h'.symm, fun h => ⟨0, h, rfl⟩⟩

/-- Numbers that are not equal differ by something that is not zero. -/
theorem divisor_sub_of_bne (hx : x.Defined) (hy : y.Defined) (h : ¬ (x == y) = true) :
    (y - x).Divisor := by
  obtain ⟨a, rfl⟩ := hx
  obtain ⟨b, rfl⟩ := hy
  refine divisor_value.mpr (sub_ne_zero_of_ne fun heq => h (beq_iff.mpr ⟨a, rfl, ?_⟩))
  rw [heq]

theorem divisor_sub_of_not_le (hx : x.Defined) (hy : y.Defined) (h : ¬ y ≤ x) :
    (y - x).Divisor :=
  divisor_sub_of_bne hx hy fun heq => by
    obtain ⟨a, rfl, rfl⟩ := beq_iff.mp heq
    exact h (le_refl a)

theorem divisor_of_bne (hx : x.Defined) (h : ¬ (x == 0.0) = true) : x.Divisor := by
  obtain ⟨a, rfl⟩ := hx
  refine divisor_value.mpr fun ha => h (beq_iff.mpr ⟨a, rfl, ?_⟩)
  rw [zero_eq, ha]

/-- A number above a decimal is not zero. -/
theorem divisor_of_lt {m : Nat} {negative : Bool} {e : Nat}
    (h : OfScientific.ofScientific m negative e < x) : x.Divisor := by
  cases x with
  | undefined => cases h
  | value a =>
    have hnonneg : (0 : ℝ) ≤ OfScientific.ofScientific m negative e := NNRat.cast_nonneg _
    exact divisor_value.mpr (hnonneg.trans_lt h).ne'

theorem ofDecimal_natCast (n : Nat) : (Arith.ofDecimal ⟨false, n, 0⟩ : Checked) = value n := by
  refine congrArg value ?_
  norm_num [Arith.ofDecimal]

theorem not_ofDecimal_le {n : Nat} (h : 0 < n) :
    ¬ (Arith.ofDecimal ⟨false, n, 0⟩ : Checked) ≤ 0.0 := by
  rw [ofDecimal_natCast, zero_eq]
  exact not_le.mpr (Nat.cast_pos.mpr h : (0 : ℝ) < n)

end Checked

/-! ## Options -/

/-- Options with numbers that have values. -/
def Options.checked (o : Options ℝ) : Options Checked where
  viewport :=
    ⟨.value o.viewport.aspect, .value o.viewport.horizontalHalf, .value o.viewport.verticalHalf⟩
  driver := ⟨.value o.driver.x, .value o.driver.y, .value o.driver.z⟩
  car := o.car
  cars := o.cars
  brake := o.brake
  stockFolder := o.stockFolder
  encoding := o.encoding

/-! ## Sheets -/

namespace Sheet

open Checked

variable {sheet interval : Checked}

/-- A sheet is divided only by an interval above zero, so its frames are those of the exact
reading. -/
theorem frameCount_value (sheet interval : ℝ) :
    frameCount (value sheet) (value interval) = frameCount sheet interval := by
  unfold frameCount
  by_cases hinterval : interval ≤ 0.0
  · rw [if_pos (show value interval ≤ 0.0 from hinterval), if_pos hinterval]
  rw [if_neg (show ¬ value interval ≤ 0.0 from hinterval), if_neg hinterval]
  by_cases hsheet : sheet < interval
  · rw [if_pos (show value sheet < value interval from hsheet), if_pos hsheet]
  have hzero : interval ≠ 0 := fun h => hinterval (by rw [h]; norm_num)
  rw [if_neg (show ¬ value sheet < value interval from hsheet), if_neg hsheet, value_div hzero]
  rfl

/-- A sheet with frames has a length, and so has each of its frames. -/
theorem divisors_of_frames (hsheet : sheet.Defined) (hinterval : interval.Defined)
    (h : frameCount sheet interval ≠ 0) : sheet.Divisor ∧ interval.Divisor := by
  obtain ⟨a, rfl⟩ := hsheet
  obtain ⟨b, rfl⟩ := hinterval
  rw [frameCount_value] at h
  unfold frameCount at h
  split at h
  · exact absurd rfl h
  split at h
  · exact absurd rfl h
  next hb hab =>
    norm_num at hb
    exact ⟨divisor_value.mpr (hb.trans_le (not_lt.mp hab)).ne', divisor_value.mpr hb.ne'⟩

end Sheet

end DriverDesk
