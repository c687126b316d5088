import DriverDesk.PanelFile.Setting
import DriverDesk.Proofs.DoubleParts
import DriverDesk.Proofs.Vocabulary

/-!
# Finite doubles

A finite double is written as a decimal number, and a double that is not as a word that is none.
The numbers of a panel file are finite, and so are the powers of ten of the first 309 digits of
a value; what is worked out from them need not be.
-/

namespace DriverDesk

/-! ## Decimal numbers in texts -/

namespace Text

/-- Digits, one at least. -/
def IsDigits (ds : List Char) : Prop := ds ≠ [] ∧ ∀ c ∈ ds, c.isDigit = true

/-- An optional minus sign, digits, and an optional fraction behind a point. -/
def IsDecimal (w : String) : Prop :=
  ∃ sign whole fraction, w.toList = sign ++ (whole ++ fraction) ∧
    (sign = [] ∨ sign = ['-']) ∧ IsDigits whole ∧
    (fraction = [] ∨ ∃ ds, fraction = '.' :: ds ∧ IsDigits ds)

theorem isDigits_zero : IsDigits ['0'] := by
  refine ⟨List.cons_ne_nil _ _, fun c hc => ?_⟩
  rw [List.mem_singleton.mp hc]
  rfl

theorem IsDigits.append {ds es : List Char} (hds : IsDigits ds)
    (hes : ∀ c ∈ es, c.isDigit = true) : IsDigits (ds ++ es) := by
  refine ⟨List.append_ne_nil_of_left_ne_nil hds.1 es, fun c hc => ?_⟩
  rcases List.mem_append.mp hc with hc | hc
  · exact hds.2 c hc
  · exact hes c hc

/-- A decimal number ends in a digit. -/
theorem IsDecimal.digit {w : String} (h : IsDecimal w) :
    ∃ c, w.toList.getLast? = some c ∧ c.isDigit = true := by
  have last {ds : List Char} (hds : IsDigits ds) (front : List Char) :
      ∃ c, (front ++ ds).getLast? = some c ∧ c.isDigit = true := by
    refine ⟨ds.getLast hds.1, ?_, hds.2 _ (List.getLast_mem hds.1)⟩
    rw [List.getLast?_append, List.getLast?_eq_some_getLast hds.1, Option.some_or]
  obtain ⟨sign, whole, fraction, hw, -, hwhole, rfl | ⟨ds, rfl, hds⟩⟩ := h
  · rw [hw, List.append_nil]
    exact last hwhole sign
  · rw [hw, ← List.append_assoc, List.append_cons]
    exact last hds _

end Text

namespace Numeral

theorem digitsValue_eq (ds : List Char) : digitsValue ds = Nat.ofDigitChars 10 ds 0 :=
  Nat.ofDigitChars_eq_foldl.symm

theorem digitsValue_append (ds es : List Char) :
    digitsValue (ds ++ es) = 10 ^ es.length * digitsValue ds + digitsValue es := by
  simp only [digitsValue_eq]
  rw [Nat.ofDigitChars_append, Nat.ofDigitChars_eq_ofDigitChars_zero]

theorem digitsValue_digitChars (n : Nat) : digitsValue (Decimal.digitChars n) = n :=
  (digitsValue_eq _).trans Nat.ofDigitChars_ten_toDigits

theorem digitsValue_zeros (k : Nat) : digitsValue (List.replicate k '0') = 0 := by
  rw [digitsValue_eq, Nat.ofDigitChars_replicate_zero, Nat.mul_zero]

end Numeral

namespace Decimal

open Text

theorem isDigits_digitChars (n : Nat) : IsDigits (digitChars n) :=
  ⟨Nat.toDigits_ne_nil, fun _ hc => isDigit_of_mem_digitChars hc⟩

/-- Positional notation is digits with an optional fraction behind a point. The digits are those
of the number with zeros for its power of ten, and a negative power counts the places. -/
theorem exists_positional (n : Nat) (e : Int) : ∃ whole fraction,
    positionalChars n e = whole ++ (if fraction = [] then [] else '.' :: fraction) ∧
      IsDigits whole ∧ (∀ c ∈ fraction, c.isDigit = true) ∧
      Numeral.digitsValue (whole ++ fraction) = n * 10 ^ e.toNat ∧
      fraction.length = (-e).toNat := by
  have hdigits := isDigits_digitChars n
  have hzeros (k : Nat) : ∀ c ∈ List.replicate k '0', c.isDigit = true := fun c hc =>
    List.eq_of_mem_replicate hc ▸ rfl
  unfold positionalChars
  dsimp only
  split
  next hwhole =>
    refine ⟨_, [], (List.append_nil _).symm, hdigits.append (hzeros _), nofun, ?_, ?_⟩
    · rw [List.append_nil, Numeral.digitsValue_append, Numeral.digitsValue_digitChars,
        Numeral.digitsValue_zeros, List.length_replicate, Nat.add_zero, Nat.mul_comm]
    · rw [List.length_nil]
      omega
  next hplaces =>
    have hnone : e.toNat = 0 := by omega
    rw [hnone, Nat.pow_zero, Nat.mul_one]
    split
    next hinside =>
      -- the point stands inside the digits
      generalize hcut : (digitChars n).length - (-e).toNat = cut
      have hlength : ((digitChars n).drop cut).length = (-e).toNat := by
        rw [List.length_drop]
        omega
      have hfront : (digitChars n).take cut ≠ [] := by
        rw [Ne, List.take_eq_nil_iff]
        rintro (h | h)
        · omega
        · exact hdigits.1 h
      refine ⟨(digitChars n).take cut, (digitChars n).drop cut, ?_,
        ⟨hfront, fun c hc => hdigits.2 c (List.mem_of_mem_take hc)⟩,
        fun c hc => hdigits.2 c (List.mem_of_mem_drop hc), ?_, hlength⟩
      · rw [if_neg (List.ne_nil_of_length_pos (by omega))]
      · rw [List.take_append_drop, Numeral.digitsValue_digitChars]
    next houtside =>
      refine ⟨['0'], List.replicate ((-e).toNat - (digitChars n).length) '0' ++ digitChars n, ?_,
        isDigits_zero, fun c hc => (List.mem_append.mp hc).elim (hzeros _ c) (hdigits.2 c), ?_, ?_⟩
      · rw [if_neg (List.append_ne_nil_of_right_ne_nil _ hdigits.1)]
        rfl
      · have hzero : Numeral.digitsValue ['0'] = 0 := rfl
        rw [Numeral.digitsValue_append, Numeral.digitsValue_append, Numeral.digitsValue_digitChars,
          Numeral.digitsValue_zeros, hzero, Nat.mul_zero, Nat.mul_zero, Nat.zero_add, Nat.zero_add]
      · rw [List.length_append, List.length_replicate]
        omega

theorem isDecimal_positional (negative : Bool) (n : Nat) (e : Int) :
    IsDecimal (String.ofList (if negative then '-' :: positionalChars n e
      else positionalChars n e)) := by
  obtain ⟨whole, fraction, hchars, hwhole, hfraction, -, -⟩ := exists_positional n e
  have hfraction : (if fraction = [] then [] else '.' :: fraction) = [] ∨
      ∃ ds, (if fraction = [] then [] else '.' :: fraction) = '.' :: ds ∧ IsDigits ds := by
    split
    next => exact .inl rfl
    next hne => exact .inr ⟨fraction, rfl, hne, hfraction⟩
  rw [hchars]
  cases negative with
  | false => exact ⟨[], whole, _, String.toList_ofList, .inl rfl, hwhole, hfraction⟩
  | true => exact ⟨['-'], whole, _, String.toList_ofList, .inr rfl, hwhole, hfraction⟩

end Decimal

/-- A double with a value; neither infinite nor undefined. -/
def IsFinite (x : Float) : Prop := (Binary.ofFloat? x).isSome = true

instance (x : Float) : Decidable (IsFinite x) :=
  inferInstanceAs (Decidable ((Binary.ofFloat? x).isSome = true))

theorem isDecimal_floatText {x : Float} (h : IsFinite x) :
    Text.IsDecimal (Decimal.floatText x) := by
  obtain ⟨b, hb⟩ := Option.isSome_iff_exists.mp h
  rw [Decimal.floatText, hb]
  dsimp only
  split
  · exact ⟨[], ['0'], [], rfl, .inl rfl, Text.isDigits_zero, .inl rfl⟩
  · exact Decimal.isDecimal_positional _ _ _

theorem isDecimal_toString (n : Int) : Text.IsDecimal (toString n) := by
  rw [Word.toString_eq_positional]
  simpa using Decimal.isDecimal_positional (decide (n < 0)) n.natAbs 0

/-- The words for doubles that are not finite. -/
def nonFinite : List String := ["NaN", "inf", "-inf"]

theorem floatText_mem_nonFinite {x : Float} (h : ¬ IsFinite x) :
    Decimal.floatText x ∈ nonFinite := by
  have hx : Binary.ofFloat? x = none := Option.not_isSome_iff_eq_none.mp h
  rw [Decimal.floatText, hx]
  dsimp only
  split
  · decide
  · split <;> decide

/-! ## Numbers that are read -/

/-- A double that the library takes for finite is one with a value. -/
theorem isFinite_iff (x : Float) : IsFinite x ↔ x.isFinite = true := by
  have hmodel : x.isFinite = x.toModel.unpack.isFinite := rfl
  rw [IsFinite, Binary.ofFloat?_eq, hmodel]
  cases x.toModel.unpack with
  | zero s => exact iff_of_true rfl rfl
  | finite s m e hm => exact iff_of_true rfl rfl
  | infinity s => exact iff_of_false Bool.false_ne_true Bool.false_ne_true
  | notANumber => exact iff_of_false Bool.false_ne_true Bool.false_ne_true

namespace Numeral

theorem isFinite_of_readFinite? {cs : List Char} {d : Decimal} (h : readFinite? cs = some d) :
    IsFinite d.toFloat := by
  rw [readFinite?, Option.bind_eq_bind, Option.bind_eq_some_iff] at h
  obtain ⟨p, -, h⟩ := h
  split at h
  · cases h
  dsimp only at h
  split at h
  next hfinite => exact Option.some.inj h ▸ (isFinite_iff _).mpr hfinite
  next => cases h

/-- What is found is the value of the longest beginning that has one. -/
theorem longest?_eq_some_iff {α : Type} {f : List Char → Option α} {cs : List Char} {n : Nat}
    {a : α} :
    longest? f cs n = some a ↔
      ∃ k, 0 < k ∧ k ≤ n ∧ f (cs.take k) = some a ∧
        ∀ j, k < j → j ≤ n → f (cs.take j) = none := by
  induction n with
  | zero => exact iff_of_false (by simp [longest?]) fun ⟨k, hk, hle, _⟩ => by omega
  | succ n ih =>
    rw [longest?]
    cases h : f (cs.take (n + 1)) with
    | some b =>
      dsimp only
      constructor
      · rintro ⟨⟩
        exact ⟨n + 1, by omega, Nat.le_refl _, h, fun j hj hle => by omega⟩
      · rintro ⟨k, hk, hle, hf, hnone⟩
        rcases Nat.lt_or_ge k (n + 1) with hlt | hge
        · rw [hnone (n + 1) hlt (Nat.le_refl _)] at h
          cases h
        · obtain rfl : k = n + 1 := by omega
          exact h.symm.trans hf
    | none =>
      dsimp only
      rw [ih]
      refine exists_congr fun k => and_congr_right fun hk => ?_
      constructor
      · rintro ⟨hle, hf, hnone⟩
        refine ⟨by omega, hf, fun j hj hj' => ?_⟩
        rcases Nat.le_succ_iff.mp hj' with hj' | rfl
        · exact hnone j hj hj'
        · exact h
      · rintro ⟨hle, hf, hnone⟩
        refine ⟨?_, hf, fun j hj hj' => hnone j hj (by omega)⟩
        rcases Nat.le_succ_iff.mp hle with hle | rfl
        · exact hle
        · rw [h] at hf
          cases hf

/-- A number that is found at the beginning of a text is finite. -/
theorem isFinite_of_lenient? {text : String} {d : Decimal} (h : lenient? text = some d) :
    IsFinite d.toFloat := by
  obtain ⟨k, -, -, hread, -⟩ := longest?_eq_some_iff.mp h
  exact isFinite_of_readFinite? hread

end Numeral

theorem RecordAt.isFinite_of_number {c : RecordAt} {what text : String} {x : Float}
    (h : (c.number what text).value = some x) : IsFinite x := by
  unfold number readOr at h
  split at h
  · cases h
  split at h
  next a ha =>
    obtain ⟨d, hd, rfl⟩ := Option.map_eq_some_iff.mp ha
    exact Option.some.inj h ▸ Numeral.isFinite_of_lenient? hd
  next => cases h

/-! ## Powers of ten -/

namespace Arith

variable {K : Type} [Arith K]

/-- All values of `powLoop` for exponents below a power of two. The exponents branch at their
binary digits, so that each product is worked out once; `n` is the part of the exponent that is
in `acc`, and `unit` the weight of the next digit. -/
def allPowers (test : Nat → K → Bool) : Nat → Nat → Nat → K → K → Bool
  | 0, _, n, _, acc => test n acc
  | fuel + 1, unit, n, a, acc =>
    allPowers test fuel (2 * unit) n (a * a) acc &&
      allPowers test fuel (2 * unit) (n + unit) (a * a) (acc * a)

theorem powLoop_zero (fuel : Nat) (a acc : K) : powLoop fuel 0 a acc = acc := by
  cases fuel <;> simp [powLoop]

theorem powLoop_succ (fuel m : Nat) (a acc : K) :
    powLoop (fuel + 1) m a acc =
      powLoop fuel (m / 2) (a * a) (if m % 2 = 1 then acc * a else acc) := by
  rw [powLoop]
  by_cases h : m / 2 = 0
  · rw [if_pos h, h, powLoop_zero]
  · rw [if_neg h]

/-- Further digits are zeros. -/
theorem powLoop_eq {fuel more m : Nat} (hm : m < 2 ^ fuel) (a acc : K) :
    powLoop (fuel + more) m a acc = powLoop fuel m a acc := by
  induction fuel generalizing m a acc with
  | zero =>
    obtain rfl : m = 0 := by omega
    rw [powLoop_zero, powLoop_zero]
  | succ fuel ih =>
    rw [Nat.succ_add, powLoop_succ, powLoop_succ, ih (by rw [Nat.pow_succ] at hm; omega)]

theorem test_powLoop {test : Nat → K → Bool} {fuel unit n : Nat} {a acc : K}
    (h : allPowers test fuel unit n a acc = true) {m : Nat} (hm : m < 2 ^ fuel) :
    test (n + unit * m) (powLoop fuel m a acc) = true := by
  induction fuel generalizing unit n a acc m with
  | zero =>
    obtain rfl : m = 0 := by omega
    exact h
  | succ fuel ih =>
    obtain ⟨hzero, hone⟩ := Bool.and_eq_true_iff.mp h
    have hhalf : m / 2 < 2 ^ fuel := by rw [Nat.pow_succ] at hm; omega
    have hweight : unit * m = unit * (m % 2) + 2 * unit * (m / 2) := by
      rw [Nat.mul_comm 2 unit, Nat.mul_assoc, ← Nat.mul_add, Nat.mod_add_div]
    rw [powLoop_succ, hweight, ← Nat.add_assoc]
    rcases Nat.mod_two_eq_zero_or_one m with hdigit | hdigit
    · rw [hdigit, if_neg Nat.zero_ne_one]
      exact ih hzero hhalf
    · rw [hdigit, if_pos rfl, Nat.mul_one]
      exact ih hone hhalf

/-- A power whose exponent has few binary digits. -/
theorem power_natCast {fuel n : Nat} (hn : n < 2 ^ fuel) (a : K) :
    power a n = powLoop fuel n a 1.0 := by
  have hdigits : n < 2 ^ (n.log2 + 1) := Nat.lt_log2_self
  have hpositive : ¬ ((n : Int) < 0) := by omega
  rw [power, Int.natAbs_natCast, if_neg hpositive]
  rcases Nat.le_total (n.log2 + 1) fuel with hle | hle
  · obtain ⟨more, rfl⟩ := Nat.exists_eq_add_of_le hle
    exact (powLoop_eq hdigits a 1.0).symm
  · obtain ⟨more, hmore⟩ := Nat.exists_eq_add_of_le hle
    rw [hmore]
    exact powLoop_eq hn a 1.0

theorem power_neg_natCast (n : Nat) (a : K) :
    power a (-(n : Int)) = if n = 0 then power a n else 1.0 / power a n := by
  have hpositive : ¬ ((n : Int) < 0) := by omega
  rw [power, power, Int.natAbs_neg, Int.natAbs_natCast, if_neg hpositive]
  by_cases hn : n = 0
  · rw [if_pos hn, if_neg (by omega)]
  · rw [if_neg hn, if_pos (by omega)]

end Arith

/-- The powers of ten up to the 308th and their reciprocals are finite. -/
theorem isFinite_power {n : Nat} (hn : n ≤ 308) :
    IsFinite (Arith.power 10.0 n) ∧ IsFinite (Arith.power 10.0 (-(n : Int))) := by
  let test (n : Nat) (x : Float) : Bool := 308 < n || (IsFinite x && IsFinite (1.0 / x))
  have hall : Arith.allPowers test 9 1 0 10.0 1.0 = true := by decide +kernel
  have hsmall : n < 2 ^ 9 := by omega
  have htest := Arith.test_powLoop hall hsmall
  rw [Nat.zero_add, Nat.one_mul, ← Arith.power_natCast hsmall] at htest
  have hfinite : IsFinite (Arith.power 10.0 n) ∧ IsFinite (1.0 / Arith.power (10.0 : Float) n) := by
    rw [Bool.or_eq_true, decide_eq_true_iff, Bool.and_eq_true, decide_eq_true_iff,
      decide_eq_true_iff] at htest
    exact htest.resolve_left (by omega)
  refine ⟨hfinite.1, ?_⟩
  rw [Arith.power_neg_natCast]
  split
  · exact hfinite.1
  · exact hfinite.2

end DriverDesk
