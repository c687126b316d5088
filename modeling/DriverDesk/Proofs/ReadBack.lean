import Mathlib
import DriverDesk.Proofs.LenientNumbers
import DriverDesk.Proofs.ShortestDecimals

/-!
# Numbers that are read back

The text of a finite double is read as that double, whatever its size: positional notation spells
the decimal number it was made from, and that number rounds to the double. Both zeros are written
`0` and read as the positive one.
-/

namespace DriverDesk

open Text

namespace Numeral

/-- Positional notation is a mantissa, and its digits and places tell the number. -/
theorem isMantissa_positional (n : ℕ) (e : ℤ) : ∃ whole fraction,
    IsMantissa (Decimal.positionalChars n e) whole fraction ∧
      (digitsValue (whole ++ fraction) : ℚ) * 10 ^ (-(fraction.length : ℤ)) = n * 10 ^ e := by
  obtain ⟨whole, fraction, hchars, hwhole, hfraction, hvalue, hplaces⟩ :=
    Decimal.exists_positional n e
  refine ⟨whole, fraction, ?_, ?_⟩
  · rw [hchars]
    split
    next hnone =>
      rw [hnone, List.append_nil]
      exact .whole hwhole
    next => exact .point hwhole hfraction
  · have hexponent : e = (e.toNat : ℤ) - (-e).toNat := by omega
    rw [hvalue, hplaces]
    push_cast
    rw [mul_assoc, ← zpow_natCast, ← zpow_add₀ (by norm_num), ← sub_eq_add_neg, ← hexponent]

/-- A signed number in positional notation spells a number with the sign and the magnitude. -/
theorem exists_spells_positional (negative : Bool) (n : ℕ) (e : ℤ) :
    ∃ p, Spells (if negative then '-' :: Decimal.positionalChars n e
        else Decimal.positionalChars n e) p ∧
      p.value.negative = negative ∧ p.value.absolute = n * 10 ^ e := by
  obtain ⟨whole, fraction, hmantissa, hvalue⟩ := isMantissa_positional n e
  have hexponent : (0 : ℤ) - (fraction.length : ℤ) = -fraction.length := zero_sub _
  cases negative with
  | false =>
    have hspells := Spells.intro .absent hmantissa .absent
    rw [List.append_nil] at hspells
    refine ⟨_, hspells, rfl, ?_⟩
    rw [← hvalue, ← hexponent]
    rfl
  | true =>
    have hspells := Spells.intro .minus hmantissa .absent
    rw [List.append_nil] at hspells
    refine ⟨_, hspells, rfl, ?_⟩
    rw [← hvalue, ← hexponent]
    rfl

theorem isBlank_of_isNumeralChar {c : Char} (h : isNumeralChar c = true) : isBlank c = false := by
  simp only [isNumeralChar, Bool.or_eq_true, decide_eq_true_eq] at h
  rcases h with ((((hdigit | rfl) | rfl) | rfl) | rfl) | rfl
  · exact isBlank_of_isDigit hdigit
  all_goals decide

/-- A text that spells a number is taken as a whole. -/
theorem lenient?_of_writes {cs : List Char} {d : Decimal} (h : Writes cs d) :
    lenient? (String.ofList cs) = some d := by
  obtain ⟨p, hp, -, -⟩ := id h
  have hcompact : compact cs = cs := by
    rw [compact, List.filter_eq_self]
    intro c hc
    rw [isBlank_of_isNumeralChar (isNumeralChar_of_spells hp c hc)]
    rfl
  rw [lenient?_eq_some_iff, String.toList_ofList, hcompact]
  exact ⟨cs, List.prefix_rfl, h, fun front' _ hfront' _ => hfront'.length_le⟩

end Numeral

/-! ## Doubles -/

/-- A decimal number with the sign of a double that attracts it is read as that double. -/
theorem toFloat_eq {x : Float} {b : Binary} {d : Decimal} (hx : Binary.ofFloat? x = some b)
    (hsign : d.negative = b.negative) (hd : Attracts b.mantissa b.exponent d.absolute) :
    d.absolute < overflow ∧ d.toFloat = x := by
  obtain ⟨hcanonical, he⟩ := Binary.isDouble_of_ofFloat? hx
  have hfinite := hd.lt_overflow hcanonical he
  refine ⟨hfinite, ?_⟩
  obtain ⟨b', hread⟩ := Option.isSome_iff_exists.mp (d.isFinite_toFloat_iff.mpr hfinite)
  have hrounded := d.rounded_toFloat
  unfold Rounded at hrounded
  rw [hread] at hrounded
  obtain ⟨hsign', hattracts⟩ := hrounded
  obtain ⟨hm, he'⟩ := hattracts.unique hd (Binary.isDouble_of_ofFloat? hread).1 hcanonical
  have hsame : b' = b := by
    obtain ⟨negative, m, e⟩ := b
    obtain ⟨negative', m', e'⟩ := b'
    rw [Binary.mk.injEq]
    exact ⟨hsign'.trans hsign, hm, he'⟩
  exact Binary.ofFloat?_inj (hsame ▸ hread) hx

theorem eq_zero_of_mantissa {x : Float} {b : Binary} (hx : Binary.ofFloat? x = some b)
    (hm : b.mantissa = 0) : x = 0.0 ∨ x = -0.0 := by
  obtain ⟨hcanonical, -⟩ := Binary.isDouble_of_ofFloat? hx
  obtain ⟨negative, m, e⟩ := b
  obtain rfl : m = 0 := hm
  obtain rfl : e = -1074 := hcanonical.full.resolve_right (by norm_num)
  cases negative with
  | false => exact .inl (Binary.ofFloat?_inj hx rfl)
  | true => exact .inr (Binary.ofFloat?_inj hx rfl)

namespace Decimal

theorem floatText_zeros : floatText 0.0 = "0" ∧ floatText (-0.0) = "0" := by
  have hpositive : Binary.ofFloat? 0.0 = some ⟨false, 0, -1074⟩ := rfl
  have hnegative : Binary.ofFloat? (-0.0) = some ⟨true, 0, -1074⟩ := rfl
  unfold floatText
  rw [hpositive, hnegative]
  exact ⟨rfl, rfl⟩

theorem read_floatText_zero : (Numeral.lenient? "0").map toFloat = some 0.0 := by
  have hspells : Numeral.Writes ['0'] ⟨false, 0, 0⟩ := by
    refine ⟨_, .intro .absent (.whole isDigits_zero) .absent, rfl, ?_⟩
    show ((0 : ℕ) : ℚ) * 10 ^ (0 : ℤ) < overflow
    norm_num [overflow]
  have hread : Numeral.lenient? "0" = some ⟨false, 0, 0⟩ := Numeral.lenient?_of_writes hspells
  rw [hread]
  rfl

/-- What is written for a double that is not zero. -/
theorem floatText_eq {x : Float} {b : Binary} (hx : Binary.ofFloat? x = some b)
    (hm : b.mantissa ≠ 0) : floatText x = String.ofList (if (shortest b).negative
      then '-' :: positionalChars (shortest b).coefficient (shortest b).exponent
      else positionalChars (shortest b).coefficient (shortest b).exponent) := by
  rw [floatText, hx]
  dsimp only
  rw [if_neg hm]

/-- A double that is not zero is read back. -/
theorem read_floatText {x : Float} {b : Binary} (hx : Binary.ofFloat? x = some b)
    (hm : b.mantissa ≠ 0) : (Numeral.lenient? (floatText x)).map toFloat = some x := by
  obtain ⟨p, hspells, hsign, hvalue⟩ := Numeral.exists_spells_positional b.negative
    (shortest b).coefficient (shortest b).exponent
  have hnegative : (shortest b).negative = b.negative := by
    unfold shortest
    rw [if_neg hm]
  have hattracts := attracts_shortest (Binary.isDouble_of_ofFloat? hx).1 hm
  obtain ⟨hfinite, hread⟩ := toFloat_eq hx hsign (hvalue.symm ▸ hattracts)
  rw [floatText_eq hx hm, hnegative, Numeral.lenient?_of_writes ⟨p, hspells, rfl, hfinite⟩,
    Option.map_some, hread]

/-- The text of a double that is not zero has as few digits as a number can have that is read as
that double. -/
theorem floatText_shortest {x : Float} (h : IsFinite x) (hpositive : x ≠ 0.0)
    (hnegative : x ≠ -0.0) : ∃ s : Decimal,
      floatText x = String.ofList (if s.negative
        then '-' :: positionalChars s.coefficient s.exponent
        else positionalChars s.coefficient s.exponent) ∧
      ∀ d : Decimal, d.toFloat = x → digitCount s.coefficient ≤ digitCount d.coefficient := by
  obtain ⟨b, hb⟩ := Option.isSome_iff_exists.mp h
  have hm : b.mantissa ≠ 0 := fun hm => (eq_zero_of_mantissa hb hm).elim hpositive hnegative
  refine ⟨shortest b, floatText_eq hb hm, fun d hd => ?_⟩
  have hrounded := d.rounded_toFloat
  unfold Rounded at hrounded
  rw [hd, hb] at hrounded
  exact digitCount_shortest_le (Binary.isDouble_of_ofFloat? hb).1 hm hrounded.2

theorem read_floatText_of_isFinite {x : Float} (h : IsFinite x) :
    (x ≠ -0.0 → (Numeral.lenient? (floatText x)).map toFloat = some x) ∧
      (x = -0.0 → (Numeral.lenient? (floatText x)).map toFloat = some 0.0) := by
  obtain ⟨b, hb⟩ := Option.isSome_iff_exists.mp h
  obtain ⟨hpositive, hnegative⟩ := floatText_zeros
  refine ⟨fun hne => ?_, ?_⟩
  · by_cases hm : b.mantissa = 0
    · obtain rfl := (eq_zero_of_mantissa hb hm).resolve_right hne
      rw [hpositive, read_floatText_zero]
    · exact read_floatText hb hm
  · rintro rfl
    rw [hnegative, read_floatText_zero]

theorem floatText_ne_negative_zero {x : Float} (h : IsFinite x) : floatText x ≠ "-0" := by
  intro htext
  have hspells : Numeral.Writes ['-', '0'] ⟨true, 0, 0⟩ := by
    refine ⟨_, .intro .minus (.whole isDigits_zero) .absent, rfl, ?_⟩
    show ((0 : ℕ) : ℚ) * 10 ^ (0 : ℤ) < overflow
    norm_num [overflow]
  have hread : Numeral.lenient? "-0" = some ⟨true, 0, 0⟩ := Numeral.lenient?_of_writes hspells
  have hne : x ≠ -0.0 := by
    rintro rfl
    rw [floatText_zeros.2] at htext
    exact absurd htext (by decide)
  have hx := (read_floatText_of_isFinite h).1 hne
  rw [htext, hread] at hx
  exact hne (Option.some.inj hx).symm

theorem isBlank_of_isDecimal {w : String} (h : IsDecimal w) :
    ∀ c ∈ w.toList, isBlank c = false := by
  obtain ⟨sign, whole, fraction, hw, hsign, hwhole, hfraction⟩ := h
  rw [hw]
  intro c hc
  rcases List.mem_append.mp hc with hc | hc
  · rcases hsign with rfl | rfl
    · cases hc
    · rw [List.mem_singleton.mp hc]
      decide
  rcases List.mem_append.mp hc with hc | hc
  · exact isBlank_of_isDigit (hwhole.2 c hc)
  rcases hfraction with rfl | ⟨ds, rfl, hds⟩
  · cases hc
  rcases List.mem_cons.mp hc with rfl | hc
  · decide
  · exact isBlank_of_isDigit (hds.2 c hc)

theorem eq_of_floatText {x y : Float} (hx : IsFinite x) (hy : IsFinite y)
    (h : floatText y = floatText x) :
    y = x ∨ ((y = 0.0 ∨ y = -0.0) ∧ (x = 0.0 ∨ x = -0.0)) := by
  obtain ⟨hread, hzero⟩ := read_floatText_of_isFinite hx
  obtain ⟨hread', hzero'⟩ := read_floatText_of_isFinite hy
  rw [h] at hread' hzero'
  by_cases hnx : x = -0.0
  · by_cases hny : y = -0.0
    · exact .inl (hny.trans hnx.symm)
    · have hyzero := Option.some.inj ((hread' hny).symm.trans (hzero hnx))
      exact .inr ⟨.inl hyzero, .inr hnx⟩
  · by_cases hny : y = -0.0
    · have hxzero := Option.some.inj ((hread hnx).symm.trans (hzero' hny))
      exact .inr ⟨.inr hny, .inl hxzero⟩
    · exact .inl (Option.some.inj ((hread' hny).symm.trans (hread hnx)))

/-- The text of a finite double is a decimal number without an exponent, and it is read back as
that double, zero as the positive one; so no two doubles but the zeros have one text. -/
theorem floatText_read_back {x : Float} (h : IsFinite x) :
    IsDecimal (floatText x) ∧ floatText x ≠ "-0" ∧
    (∀ c ∈ (floatText x).toList, isBlank c = false) ∧
    (x ≠ -0.0 → (Numeral.lenient? (floatText x)).map toFloat = some x) ∧
    (x = -0.0 → (Numeral.lenient? (floatText x)).map toFloat = some 0.0) ∧
    ∀ y, IsFinite y → floatText y = floatText x →
      y = x ∨ ((y = 0.0 ∨ y = -0.0) ∧ (x = 0.0 ∨ x = -0.0)) := by
  have hdecimal := isDecimal_floatText h
  obtain ⟨hread, hzero⟩ := read_floatText_of_isFinite h
  exact ⟨hdecimal, floatText_ne_negative_zero h, isBlank_of_isDecimal hdecimal, hread, hzero,
    fun _ hy htext => eq_of_floatText h hy htext⟩

/-- The least double above zero is read back from its 324 decimal places. -/
theorem least_double_read_back :
    IsFinite 5e-324 ∧ (Numeral.lenient? (floatText 5e-324)).map toFloat = some 5e-324 := by
  have hfinite : IsFinite 5e-324 := by decide +kernel
  have hne : (5e-324 : Float) ≠ -0.0 := fun h =>
    absurd (congrArg Float.toBits h) (by decide +kernel)
  obtain ⟨-, -, -, hread, -⟩ := floatText_read_back hfinite
  exact ⟨hfinite, hread hne⟩

end Decimal

end DriverDesk
