import Mathlib
import DriverDesk.Proofs.Numerals

/-!
# Lenient numbers

Blanks do not count, and the longest beginning of what is left that spells a number within the
doubles is taken; the double is the one nearest to that number. `Leads cs d` says what that
beginning writes. A number with so many digits that it is not worked out is beyond the doubles.
-/

namespace DriverDesk

open Text

/-! ## Exact values -/

def signed (negative : Bool) (v : ℚ) : ℚ := if negative then -v else v

theorem abs_signed_sub (negative : Bool) (v w : ℚ) :
    |signed negative v - signed negative w| = |v - w| := by
  cases negative with
  | false => rfl
  | true =>
    rw [abs_sub_comm v]
    show |-v - -w| = _
    congr 1
    ring

theorem abs_signed_sub_of_ne {negative negative' : Bool} (h : negative ≠ negative') (v w : ℚ) :
    |signed negative v - signed negative' w| = |v + w| := by
  cases negative <;> cases negative'
  · exact absurd rfl h
  · exact congrArg abs (sub_neg_eq_add v w)
  · rw [← abs_neg]
    show |-(-v - w)| = _
    congr 1
    ring
  · exact absurd rfl h

/-- The exact value of a decimal number. -/
def Decimal.rational (d : Decimal) : ℚ := signed d.negative d.absolute

namespace Binary

def absolute (b : Binary) : ℚ := b.mantissa * 2 ^ b.exponent

/-- The exact value of a double. -/
def rational (b : Binary) : ℚ := signed b.negative b.absolute

theorem absolute_nonneg (b : Binary) : 0 ≤ b.absolute := by
  unfold absolute
  positivity

/-- `b` is a double nearest to `v`, and its mantissa is even if another one is as near. -/
structure IsNearest (v : ℚ) (b : Binary) : Prop where
  isDouble : b.IsDouble
  nearest : ∀ b' : Binary, b'.IsDouble → |v - b.rational| ≤ |v - b'.rational|
  even : ∀ b' : Binary, b'.IsDouble → |v - b.rational| = |v - b'.rational| →
    b.rational = b'.rational ∨ b.mantissa % 2 = 0

/-- Among the doubles with the other sign zero is nearest, and it has both signs. -/
theorem isNearest_of_attracts {b : Binary} {v : ℚ} (hb : b.IsDouble) (hv : 0 ≤ v)
    (h : Attracts b.mantissa b.exponent v) : IsNearest (signed b.negative v) b := by
  have hzero : IsCanonical 0 (-1074) := ⟨by norm_num, le_rfl, .inl rfl⟩
  obtain ⟨hbound, heven⟩ := h.nearest hb.1 hzero
  rw [Nat.cast_zero, zero_mul, sub_zero, abs_of_nonneg hv] at hbound heven
  refine ⟨hb, fun b' hb' => ?_, fun b' hb' htie => ?_⟩
  · by_cases hsign : b.negative = b'.negative
    · rw [rational, rational, ← hsign, abs_signed_sub, abs_signed_sub]
      exact (h.nearest hb.1 hb'.1).1
    · have hpositive := b'.absolute_nonneg
      rw [rational, rational, abs_signed_sub, abs_signed_sub_of_ne hsign, absolute,
        abs_of_nonneg (add_nonneg hv hpositive)]
      linarith
  · by_cases hsign : b.negative = b'.negative
    · rw [rational, rational, ← hsign, abs_signed_sub, abs_signed_sub] at htie
      rw [rational, rational, ← hsign]
      exact ((h.nearest hb.1 hb'.1).2 htie).imp_left (congrArg (signed b.negative))
    · have hpositive := b'.absolute_nonneg
      rw [rational, rational, abs_signed_sub, abs_signed_sub_of_ne hsign,
        abs_of_nonneg (add_nonneg hv hpositive), absolute] at htie
      have hother : b'.absolute = 0 := by linarith
      refine (heven (by linarith)).imp_left fun hthis => ?_
      have hsigned (negative : Bool) : signed negative 0 = 0 := by
        cases negative <;> simp [signed]
      rw [rational, rational, hother, absolute, hthis, hsigned, hsigned]

end Binary

namespace Decimal

theorem absolute_nonneg (d : Decimal) : 0 ≤ d.absolute := by
  unfold absolute
  positivity

theorem isFinite_toFloat_iff (d : Decimal) : IsFinite d.toFloat ↔ d.absolute < overflow := by
  have h := d.rounded_toFloat
  unfold Rounded at h
  unfold IsFinite
  cases hread : Binary.ofFloat? d.toFloat with
  | none =>
    rw [hread] at h
    exact iff_of_false Bool.false_ne_true h.not_gt
  | some b =>
    rw [hread] at h
    obtain ⟨hcanonical, he⟩ := Binary.isDouble_of_ofFloat? hread
    exact iff_of_true rfl (h.2.lt_overflow hcanonical he)

/-- A decimal number within the doubles is read as the nearest one, with its own sign. -/
theorem exists_isNearest {d : Decimal} (h : d.absolute < overflow) :
    ∃ b, Binary.ofFloat? d.toFloat = some b ∧ b.negative = d.negative ∧
      Binary.IsNearest d.rational b := by
  obtain ⟨b, hread⟩ := Option.isSome_iff_exists.mp ((isFinite_toFloat_iff d).mpr h)
  have hrounded := d.rounded_toFloat
  unfold Rounded at hrounded
  rw [hread] at hrounded
  obtain ⟨hsign, hattracts⟩ := hrounded
  refine ⟨b, hread, hsign, ?_⟩
  rw [rational, ← hsign]
  exact Binary.isNearest_of_attracts (Binary.isDouble_of_ofFloat? hread) d.absolute_nonneg hattracts

end Decimal

/-- The nearest integer; a half goes away from zero. -/
def awayFromZero (q : ℚ) : ℤ := if 0 ≤ q then ⌊q + 1 / 2⌋ else -⌊-q + 1 / 2⌋

theorem Binary.round_eq (b : Binary) : b.round = awayFromZero b.rational := by
  have hround : b.round = if b.negative then -⌊b.absolute + 1 / 2⌋ else ⌊b.absolute + 1 / 2⌋ := by
    unfold round absolute
    dsimp only
    by_cases he : b.exponent ≥ 0
    · have hvalue : (b.mantissa : ℚ) * 2 ^ b.exponent =
          (b.mantissa * 2 ^ b.exponent.toNat : ℕ) := by
        rw [Nat.cast_mul, Nat.cast_pow, ← zpow_natCast, Int.toNat_of_nonneg he]
        rfl
      have hhalf : ⌊(1 / 2 : ℚ)⌋ = 0 := by norm_num
      rw [if_pos he, hvalue, Int.floor_natCast_add, hhalf, add_zero]
      rfl
    · have hvalue : (b.mantissa : ℚ) * 2 ^ b.exponent + 1 / 2 =
          (2 * b.mantissa + 2 ^ (-b.exponent).toNat : ℕ) / (2 * 2 ^ (-b.exponent).toNat : ℕ) := by
        have hunit : (2 : ℚ) ^ b.exponent = 1 / 2 ^ (-b.exponent).toNat := by
          rw [← zpow_natCast, Int.toNat_of_nonneg (by omega), zpow_neg, one_div, inv_inv]
        rw [hunit]
        push_cast
        field_simp
      rw [if_neg he, hvalue, Rat.floor_natCast_div_natCast]
      rfl
  rw [hround, rational, awayFromZero]
  have hpositive := b.absolute_nonneg
  cases b.negative with
  | false => exact (if_pos hpositive).symm
  | true =>
    show -⌊b.absolute + 1 / 2⌋ = if 0 ≤ -b.absolute then _ else -⌊- -b.absolute + 1 / 2⌋
    rw [neg_neg]
    split
    next h =>
      have hzero : b.absolute = 0 := by linarith
      norm_num [signed, hzero]
    next => rfl

namespace Numeral

/-! ## The value of digits -/

theorem digitsValue_dropZeros (ds : List Char) :
    digitsValue (ds.dropWhile (· == '0')) = digitsValue ds := by
  induction ds with
  | nil => rfl
  | cons d ds ih =>
    rw [List.dropWhile_cons]
    split
    next h =>
      rw [ih, beq_iff_eq.mp h]
      rfl
    next => rfl

/-- A number is not less than its leading digit tells. -/
theorem pow_le_digitsValue {ds : List Char} (hds : ∀ c ∈ ds, c.isDigit = true)
    (hne : ds.dropWhile (· == '0') ≠ []) :
    10 ^ ((ds.dropWhile (· == '0')).length - 1) ≤ digitsValue ds := by
  rw [← digitsValue_dropZeros]
  have hhead := List.head_dropWhile_not (· == '0') hne
  have hmem (c : Char) (hc : c ∈ ds.dropWhile (· == '0')) : c.isDigit = true :=
    hds c ((List.dropWhile_sublist _).subset hc)
  generalize ds.dropWhile (· == '0') = stripped at *
  cases stripped with
  | nil => exact absurd rfl hne
  | cons d r =>
    have hdigit := isDigit_iff.mp (hmem d List.mem_cons_self)
    have hzero : d.toNat ≠ '0'.toNat := fun h => by
      have : d = '0' := Char.toNat_inj.mp h
      simp [this] at hhead
    have hd : 1 ≤ d.toNat - '0'.toNat := by
      have : '0'.toNat = 48 := rfl
      omega
    have hsplit := digitsValue_append [d] r
    have hsingle : digitsValue [d] = d.toNat - '0'.toNat := by simp [digitsValue]
    rw [List.singleton_append, hsingle] at hsplit
    rw [hsplit, List.length_cons, Nat.add_sub_cancel]
    exact (Nat.le_mul_of_pos_right _ hd).trans (Nat.le_add_right _ _)

namespace Parts

variable {p : Parts}

theorem powerBound?_le (hpower : ∀ c ∈ p.power, c.isDigit = true) {bound : ℤ}
    (h : p.powerBound? = some bound) : bound ≤ p.value.exponent + p.fraction.length := by
  have hvalue : p.value.exponent + p.fraction.length =
      if p.powerNegative then -(digitsValue p.power : ℤ) else digitsValue p.power := by
    show _ - (p.fraction.length : ℤ) + _ = _
    omega
  rw [hvalue]
  unfold powerBound? at h
  dsimp only at h
  rw [digitsValue_dropZeros] at h
  split at h
  · exact (Option.some.inj h).ge
  next hmany =>
    split at h
    · cases h
    next hpositive =>
      obtain rfl := Option.some.inj h
      rw [if_neg hpositive]
      have hne : p.power.dropWhile (· == '0') ≠ [] := by
        intro hnil
        rw [hnil] at hmany
        exact hmany (Nat.zero_le 9)
      have hlarge := pow_le_digitsValue hpower hne
      have htens : 10 ^ 9 ≤ 10 ^ ((p.power.dropWhile (· == '0')).length - 1) :=
        Nat.pow_le_pow_right (by norm_num) (by omega)
      exact_mod_cast htens.trans hlarge

theorem two_zpow_le_ten_zpow : (2 : ℚ) ^ (1024 : ℤ) ≤ 10 ^ (309 : ℤ) := by
  have h : 2 ^ 1024 ≤ 10 ^ 309 := by decide +kernel
  exact_mod_cast h

/-- A number that its digits tell to be beyond the doubles is beyond them. -/
theorem overflow_le_of_isBeyond (hdigits : ∀ c ∈ p.digits, c.isDigit = true)
    (hpower : ∀ c ∈ p.power, c.isDigit = true) (h : p.isBeyond = true) :
    overflow ≤ p.value.absolute := by
  unfold isBeyond at h
  dsimp only at h
  split at h
  · next bound hbound =>
    rw [Bool.and_eq_true, Bool.not_eq_true', List.isEmpty_eq_false_iff, decide_eq_true_eq] at h
    obtain ⟨hne, hsize⟩ := h
    have hexponent := powerBound?_le hpower hbound
    have hcoefficient : (10 : ℚ) ^ (((p.digits.dropWhile (· == '0')).length - 1 : ℕ) : ℤ) ≤
        p.value.coefficient := by
      rw [zpow_natCast]
      exact_mod_cast pow_le_digitsValue hdigits hne
    have hlength := List.length_pos_of_ne_nil hne
    calc overflow ≤ 2 ^ (1024 : ℤ) := (Decimal.overflow_lt_two_zpow le_rfl).le
      _ ≤ 10 ^ (309 : ℤ) := two_zpow_le_ten_zpow
      _ ≤ 10 ^ ((((p.digits.dropWhile (· == '0')).length - 1 : ℕ) : ℤ) + p.value.exponent) :=
        zpow_le_zpow_right₀ (by norm_num) (by omega)
      _ = 10 ^ (((p.digits.dropWhile (· == '0')).length - 1 : ℕ) : ℤ) * 10 ^ p.value.exponent :=
        zpow_add₀ (by norm_num) _ _
      _ ≤ p.value.absolute := mul_le_mul_of_nonneg_right hcoefficient (by positivity)
  · cases h

end Parts

theorem Spells.isDigit {cs : List Char} {p : Parts} (h : Spells cs p) :
    (∀ c ∈ p.digits, c.isDigit = true) ∧ ∀ c ∈ p.power, c.isDigit = true := by
  obtain ⟨_, hmantissa, hpower⟩ := h
  refine ⟨fun c hc => ?_, fun c hc => ?_⟩
  · rcases List.mem_append.mp hc with hc | hc
    · cases hmantissa with
      | whole hds => exact hds.2 c hc
      | point hds hfs => exact hds.2 c hc
      | fraction hfs => cases hc
    · cases hmantissa with
      | whole hds => cases hc
      | point hds hfs => exact hfs c hc
      | fraction hfs => exact hfs.2 c hc
  · cases hpower with
    | absent => cases hc
    | present he hds => exact hds.2 c hc

/-! ## The longest beginning -/

/-- The text spells a number that is not beyond the doubles. -/
def Writes (cs : List Char) (d : Decimal) : Prop :=
  ∃ p, Spells cs p ∧ p.value = d ∧ d.absolute < overflow

/-- The number that the longest of the beginnings of `cs` writes that write a number within the
doubles. -/
def Leads (cs : List Char) (d : Decimal) : Prop :=
  ∃ front, front <+: cs ∧ Writes front d ∧
    ∀ front' d', front' <+: cs → Writes front' d' → front'.length ≤ front.length

theorem readFinite?_eq_some_iff {cs : List Char} {d : Decimal} :
    readFinite? cs = some d ↔ Writes cs d := by
  have hfinite : d.toFloat.isFinite = true ↔ d.absolute < overflow :=
    (isFinite_iff _).symm.trans d.isFinite_toFloat_iff
  unfold readFinite? Writes
  rw [Option.bind_eq_bind, Option.bind_eq_some_iff]
  refine exists_congr fun p => ?_
  rw [parts?_eq_some_iff]
  refine and_congr_right fun hp => ?_
  obtain ⟨hdigits, hpower⟩ := hp.isDigit
  by_cases hbeyond : p.isBeyond = true
  · rw [if_pos hbeyond]
    refine iff_of_false (by simp) ?_
    rintro ⟨rfl, hlt⟩
    exact hlt.not_ge (p.overflow_le_of_isBeyond hdigits hpower hbeyond)
  · rw [if_neg hbeyond]
    dsimp only
    constructor
    · intro h
      split at h
      next hf =>
        obtain rfl := Option.some.inj h
        exact ⟨rfl, hfinite.mp hf⟩
      next => cases h
    · rintro ⟨rfl, hlt⟩
      rw [if_pos (hfinite.mpr hlt)]

theorem isNumeralChar_of_spells {cs : List Char} {p : Parts} (h : Spells cs p) :
    ∀ c ∈ cs, isNumeralChar c = true := by
  have hdigit {c : Char} (hc : c.isDigit = true) : isNumeralChar c = true := by
    simp [isNumeralChar, hc]
  have hsign (sign : Sign) : ∀ c ∈ sign.chars, isNumeralChar c = true := by
    cases sign <;> simp [Sign.chars, isNumeralChar]
  obtain ⟨_, hmantissa, hpower⟩ := h
  intro c hc
  rcases List.mem_append.mp hc with hc | hc
  · exact hsign _ c hc
  rcases List.mem_append.mp hc with hc | hc
  · cases hmantissa with
    | whole hds => exact hdigit (hds.2 c hc)
    | point hds hfs =>
      rcases List.mem_append.mp hc with hc | hc
      · exact hdigit (hds.2 c hc)
      rcases List.mem_cons.mp hc with rfl | hc
      · rfl
      · exact hdigit (hfs c hc)
    | fraction hfs =>
      rcases List.mem_cons.mp hc with rfl | hc
      · rfl
      · exact hdigit (hfs.2 c hc)
  · cases hpower with
    | absent => cases hc
    | present he hds =>
      rcases List.mem_cons.mp hc with rfl | hc
      · rcases he with rfl | rfl <;> rfl
      rcases List.mem_append.mp hc with hc | hc
      · exact hsign _ c hc
      · exact hdigit (hds.2 c hc)

section

variable {α : Type} {f : List Char → Option α} {cs : List Char} {n : ℕ}

theorem longest?_eq_none_iff :
    longest? f cs n = none ↔ ∀ k, 0 < k → k ≤ n → f (cs.take k) = none := by
  induction n with
  | zero => exact iff_of_true rfl fun k hk hle => by omega
  | succ n ih =>
    rw [longest?]
    cases h : f (cs.take (n + 1)) with
    | some a => exact iff_of_false (by simp) fun hall => by simp [hall (n + 1) (by omega)] at h
    | none =>
      dsimp only
      rw [ih]
      refine ⟨fun hall k hk hle => ?_, fun hall k hk hle => hall k hk (by omega)⟩
      rcases Nat.le_succ_iff.mp hle with hle | rfl
      · exact hall k hk hle
      · exact h

end

/-- Beginnings of numerals lie within the characters of numerals. -/
theorem Writes.prefix_iff {front cs : List Char} {d : Decimal} (h : Writes front d) :
    front <+: cs.takeWhile isNumeralChar ↔ front <+: cs := by
  obtain ⟨p, hp, -, -⟩ := h
  refine ⟨fun hfront => hfront.trans (List.takeWhile_prefix _), ?_⟩
  rintro ⟨back, rfl⟩
  rw [List.takeWhile_append_of_pos (isNumeralChar_of_spells hp)]
  exact List.prefix_append _ _

theorem Writes.length_pos {cs : List Char} {d : Decimal} (h : Writes cs d) : 0 < cs.length := by
  obtain ⟨p, ⟨_, hmantissa, -⟩, -, -⟩ := h
  rw [List.length_append, List.length_append]
  cases hmantissa with
  | whole hds => have := List.length_pos_of_ne_nil hds.1; omega
  | point hds hfs => simp
  | fraction hfs => simp

theorem leads_takeWhile_iff {cs : List Char} {d : Decimal} :
    Leads (cs.takeWhile isNumeralChar) d ↔ Leads cs d := by
  refine exists_congr fun front => ?_
  constructor
  · rintro ⟨hfront, hd, hlongest⟩
    exact ⟨hd.prefix_iff.mp hfront, hd, fun front' d' hfront' hd' =>
      hlongest front' d' (hd'.prefix_iff.mpr hfront') hd'⟩
  · rintro ⟨hfront, hd, hlongest⟩
    exact ⟨hd.prefix_iff.mpr hfront, hd, fun front' d' hfront' hd' =>
      hlongest front' d' (hd'.prefix_iff.mp hfront') hd'⟩

theorem longest?_readFinite?_iff {cs : List Char} {d : Decimal} :
    longest? readFinite? cs cs.length = some d ↔ Leads cs d := by
  rw [longest?_eq_some_iff]
  constructor
  · rintro ⟨k, hk, hle, hread, hnone⟩
    refine ⟨cs.take k, List.take_prefix _ _, readFinite?_eq_some_iff.mp hread, ?_⟩
    intro front' d' hfront' hd'
    rw [List.length_take_of_le hle]
    by_contra hlt
    have hother := hnone front'.length (not_le.mp hlt) hfront'.length_le
    rw [← List.prefix_iff_eq_take.mp hfront', readFinite?_eq_some_iff.mpr hd'] at hother
    cases hother
  · rintro ⟨front, hfront, hd, hlongest⟩
    have htake := List.prefix_iff_eq_take.mp hfront
    refine ⟨front.length, hd.length_pos, hfront.length_le, ?_, fun j hj hle => ?_⟩
    · rw [← htake]
      exact readFinite?_eq_some_iff.mpr hd
    · rw [Option.eq_none_iff_forall_ne_some]
      intro d' hd'
      have hshorter := hlongest _ d' (List.take_prefix _ _) (readFinite?_eq_some_iff.mp hd')
      rw [List.length_take_of_le hle] at hshorter
      omega

theorem lenient?_eq_some_iff {s : String} {d : Decimal} :
    lenient? s = some d ↔ Leads (compact s.toList) d :=
  longest?_readFinite?_iff.trans leads_takeWhile_iff

theorem isSome_lenient?_of_writes {s : String} {front : List Char} {d : Decimal}
    (hfront : front <+: compact s.toList) (hd : Writes front d) : (lenient? s).isSome = true := by
  rw [Option.isSome_iff_ne_none]
  intro hnone
  have hfront' : front <+: (compact s.toList).takeWhile isNumeralChar := hd.prefix_iff.mpr hfront
  have hread := longest?_eq_none_iff.mp hnone front.length hd.length_pos hfront'.length_le
  rw [← List.prefix_iff_eq_take.mp hfront', readFinite?_eq_some_iff.mpr hd] at hread
  cases hread

/-! ## What is accepted -/

theorem Spells.begins {cs : List Char} {p : Parts} (h : Spells cs p) (back : List Char) :
    Begins (cs ++ back) := by
  have first {ds : List Char} (hds : IsDigits ds) : ∃ d r, ds = d :: r ∧ d.isDigit = true := by
    obtain ⟨hne, hds⟩ := hds
    cases ds with
    | nil => exact absurd rfl hne
    | cons d r => exact ⟨d, r, rfl, hds d List.mem_cons_self⟩
  obtain @⟨sign, ms, ps, _, _, _, _, hmantissa, -⟩ := h
  rw [List.append_assoc, List.append_assoc]
  cases hmantissa with
  | whole hds =>
    obtain ⟨d, r, rfl, hd⟩ := first hds
    exact ⟨sign, [], d, _, rfl, .inl rfl, hd⟩
  | point hds hfs =>
    obtain ⟨d, r, rfl, hd⟩ := first hds
    exact ⟨sign, [], d, _, rfl, .inl rfl, hd⟩
  | fraction hfs =>
    obtain ⟨d, r, rfl, hd⟩ := first hfs
    exact ⟨sign, ['.'], d, _, rfl, .inr rfl, hd⟩

/-- A single digit is within the doubles. -/
theorem Begins.exists_writes {cs : List Char} (h : Begins cs) :
    ∃ front d, front <+: cs ∧ Writes front d := by
  obtain ⟨sign, point, d, rest, rfl, hpoint, hd⟩ := h
  have hdigits : IsDigits [d] := ⟨List.cons_ne_nil _ _, fun c hc => List.mem_singleton.mp hc ▸ hd⟩
  have hvalue : ((digitsValue [d] : ℕ) : ℚ) < 10 := by
    have := isDigit_iff.mp hd
    have : digitsValue [d] < 10 := by
      have hsingle : digitsValue [d] = d.toNat - 48 := by simp [digitsValue]
      omega
    exact_mod_cast this
  have hsmall : (10 : ℚ) < overflow :=
    calc (10 : ℚ) < (2 ^ 53 - 1 / 2) * 1 := by norm_num
      _ ≤ overflow :=
        mul_le_mul_of_nonneg_left (one_le_zpow₀ (by norm_num) (by norm_num)) (by norm_num)
  refine ⟨sign.chars ++ (point ++ [d] ++ []), ?_⟩
  rcases hpoint with rfl | rfl
  · refine ⟨_, ⟨rest, by simp⟩, _, .intro sign (.whole hdigits) .absent, rfl, ?_⟩
    show ((digitsValue [d] : ℕ) : ℚ) * 10 ^ (0 : ℤ) < overflow
    rw [zpow_zero]
    linarith
  · refine ⟨_, ⟨rest, by simp⟩, _, .intro sign (.fraction hdigits) .absent, rfl, ?_⟩
    show ((digitsValue [d] : ℕ) : ℚ) * 10 ^ (-1 : ℤ) < overflow
    norm_num
    linarith

theorem isSome_lenient?_iff {s : String} :
    (lenient? s).isSome = true ↔ Begins (compact s.toList) := by
  constructor
  · intro h
    obtain ⟨d, hd⟩ := Option.isSome_iff_exists.mp h
    obtain ⟨front, ⟨back, hback⟩, ⟨p, hp, -, -⟩, -⟩ := lenient?_eq_some_iff.mp hd
    exact hback ▸ hp.begins back
  · intro h
    obtain ⟨front, d, hfront, hd⟩ := h.exists_writes
    exact isSome_lenient?_of_writes hfront hd

/-! ## What does not count -/

theorem compact_append (cs ds : List Char) : compact (cs ++ ds) = compact cs ++ compact ds :=
  List.filter_append _ _

theorem lenient?_insert {front blanks back : List Char} (h : ∀ c ∈ blanks, isBlank c = true) :
    lenient? (String.ofList (front ++ (blanks ++ back))) =
      lenient? (String.ofList (front ++ back)) := by
  have hnone : compact blanks = [] := by
    rw [compact, List.filter_eq_nil_iff]
    exact fun c hc => by simp [h c hc]
  unfold lenient?
  simp only [String.toList_ofList, compact_append, hnone, List.nil_append]

theorem takeWhile_append_cons {α : Type} {p : α → Bool} {c : α} (hc : p c = false)
    (cs rest : List α) : (cs ++ c :: rest).takeWhile p = cs.takeWhile p := by
  rw [List.takeWhile_append, List.takeWhile_cons, hc]
  split
  next h =>
    rw [if_neg Bool.false_ne_true, List.append_nil]
    exact ((List.takeWhile_prefix p).eq_of_length h).symm
  next => rfl

theorem lenient?_append {s : String} {c : Char} (hblank : isBlank c = false)
    (hc : isNumeralChar c = false) (rest : List Char) :
    lenient? (s ++ String.ofList (c :: rest)) = lenient? s := by
  have hcompact : compact (c :: rest) = c :: compact rest :=
    List.filter_cons_of_pos (by simp [hblank])
  unfold lenient?
  simp only [String.toList_append, String.toList_ofList, compact_append, hcompact,
    takeWhile_append_cons hc]

/-! ## The reader -/

/-- The number at the beginning of a text, and the integer that it rounds to. -/
theorem lenient_reading (s : String) :
    ((lenient? s).isSome = true ↔ Begins (compact s.toList)) ∧
    (∀ d, lenient? s = some d ↔ Leads (compact s.toList) d) ∧
    (∀ d, lenient? s = some d → ∃ b, Binary.ofFloat? d.toFloat = some b ∧
      b.negative = d.negative ∧ Binary.IsNearest d.rational b) ∧
    (∀ front blanks back, s.toList = front ++ back → (∀ c ∈ blanks, isBlank c = true) →
      lenient? (String.ofList (front ++ (blanks ++ back))) = lenient? s) ∧
    (∀ c rest, isBlank c = false → c.isDigit = false → c ∉ ['+', '-', '.', 'e', 'E'] →
      lenient? (s ++ String.ofList (c :: rest)) = lenient? s) ∧
    (∀ n, lenientInt? s = some n ↔ ∃ d b, lenient? s = some d ∧
      Binary.ofFloat? d.toFloat = some b ∧ awayFromZero b.rational = n ∧
      -2 ^ 31 ≤ n ∧ n ≤ 2 ^ 31 - 1) := by
  refine ⟨isSome_lenient?_iff, fun d => lenient?_eq_some_iff, fun d hd => ?_,
    fun front blanks back hs hblanks => ?_, fun c rest hblank hdigit hc => ?_, fun n => ?_⟩
  · obtain ⟨front, -, ⟨p, -, -, hfinite⟩, -⟩ := lenient?_eq_some_iff.mp hd
    exact Decimal.exists_isNearest hfinite
  · rw [lenient?_insert hblanks, ← hs, String.ofList_toList]
  · refine lenient?_append hblank ?_ rest
    simp only [List.mem_cons, List.not_mem_nil, or_false, not_or] at hc
    simp [isNumeralChar, hdigit, hc]
  · unfold lenientInt?
    rw [Option.bind_eq_bind, Option.bind_eq_some_iff]
    refine exists_congr fun d => ?_
    rw [Option.bind_eq_bind, Option.bind_eq_some_iff, ← exists_and_left]
    refine exists_congr fun b => and_congr_right fun _ => and_congr_right fun _ => ?_
    rw [← b.round_eq]
    dsimp only
    split
    next hrange =>
      rw [Option.some_inj]
      refine ⟨?_, fun h => h.1⟩
      rintro rfl
      exact ⟨rfl, hrange.1, hrange.2⟩
    next hrange =>
      refine iff_of_false (by simp) ?_
      rintro ⟨rfl, hlower, hupper⟩
      exact hrange ⟨hlower, hupper⟩

end Numeral

end DriverDesk
