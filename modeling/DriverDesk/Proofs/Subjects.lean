import DriverDesk.Proofs.CleanLines
import DriverDesk.Proofs.Vocabulary

/-!
# The grammar of subjects

A subject is a base and maybe a suffix that selects one decimal digit: `Selects` is the
form of a subject with a suffix, `Restyles` says that two subjects differ by the case of
ASCII letters and by blanks around the text. No name that is known by itself has the form
of a base with a suffix, so the two ways to read a subject never compete.
-/

namespace DriverDesk

namespace Text

/-! ## ASCII case -/

theorem toNat_toLower (c : Char) :
    c.toLower.toNat = if 65 ≤ c.toNat ∧ c.toNat ≤ 90 then c.toNat + 32 else c.toNat := by
  unfold Char.toLower
  split
  next h =>
    have hupper : 65 ≤ c.toNat ∧ c.toNat ≤ 90 := h
    rw [if_pos hupper]
    change (c.val + 32).toNat = c.val.toNat + 32
    rw [UInt32.toNat_add]
    change (c.toNat + 32) % 4294967296 = c.toNat + 32
    omega
  next h =>
    have hother : ¬(65 ≤ c.toNat ∧ c.toNat ≤ 90) := h
    rw [if_neg hother]

theorem isDigit_iff {c : Char} : c.isDigit = true ↔ 48 ≤ c.toNat ∧ c.toNat ≤ 57 := by
  simp only [Char.isDigit, UInt32.le_iff_toNat_le, ge_iff_le, Bool.and_eq_true,
    decide_eq_true_eq]
  exact Iff.rfl

theorem isBlank_iff {c : Char} :
    isBlank c = true ↔ ∃ r ∈ blankRanges, r.1 ≤ c.toNat ∧ c.toNat ≤ r.2 := by
  simp [isBlank]

theorem isBlank_toLower (c : Char) : isBlank c.toLower = isBlank c := by
  rw [Bool.eq_iff_iff, isBlank_iff, isBlank_iff, toNat_toLower]
  simp only [blankRanges, List.mem_cons, List.not_mem_nil, or_false, exists_eq_or_imp,
    exists_eq_left]
  split <;> omega

theorem isDigit_toLower (c : Char) : c.toLower.isDigit = c.isDigit := by
  rw [Bool.eq_iff_iff, isDigit_iff, isDigit_iff, toNat_toLower]
  split <;> omega

theorem toLower_eq_self {c : Char} (h : ¬(65 ≤ c.toNat ∧ c.toNat ≤ 90)) : c.toLower = c :=
  Char.toNat_inj.mp (by rw [toNat_toLower, if_neg h])

theorem toLower_toLower (c : Char) : c.toLower.toLower = c.toLower := by
  refine toLower_eq_self ?_
  rw [toNat_toLower]
  split <;> omega

theorem toLower_of_isDigit {c : Char} (h : c.isDigit = true) : c.toLower = c := by
  rw [isDigit_iff] at h
  exact toLower_eq_self (by omega)

theorem toLower_eq_d {c : Char} : c.toLower = 'd' ↔ c = 'd' ∨ c = 'D' := by
  rw [← Char.toNat_inj, ← Char.toNat_inj, ← Char.toNat_inj, toNat_toLower]
  change _ = 100 ↔ _ = 100 ∨ _ = 68
  split <;> omega

theorem toLower_eq_lineFeed {c : Char} : c.toLower = '\n' ↔ c = '\n' := by
  rw [← Char.toNat_inj, ← Char.toNat_inj, toNat_toLower]
  change _ = 10 ↔ _ = 10
  split <;> omega

theorem map_toLower_of_isDigit {ds : List Char} (h : ∀ c ∈ ds, c.isDigit = true) :
    ds.map Char.toLower = ds :=
  (List.map_congr_left fun c hc => toLower_of_isDigit (h c hc)).trans (List.map_id ds)

theorem trimStart_map_toLower (cs : List Char) :
    trimStart (cs.map Char.toLower) = (trimStart cs).map Char.toLower := by
  rw [trimStart, List.dropWhile_map, trimStart]
  congr 2
  exact funext isBlank_toLower

theorem trim_map_toLower (cs : List Char) :
    trim (cs.map Char.toLower) = (trim cs).map Char.toLower := by
  have h := trimStart_map_toLower (trimStart cs).reverse
  unfold trimStart at h
  rw [trim, trimStart_map_toLower, trimEnd, ← List.map_reverse]
  unfold trim trimEnd trimStart
  rw [h, List.map_reverse]

@[simp] theorem toList_asciiLower (s : String) :
    (asciiLower s).toList = s.toList.map Char.toLower := by simp [asciiLower]

/-! ## Trimmed texts -/

/-- A text with its blanks at the ends removed. -/
def trimmed (s : String) : String := String.ofList (trim s.toList)

@[simp] theorem toList_trimmed (s : String) : (trimmed s).toList = trim s.toList := by
  simp [trimmed]

theorem trimEnd_append_digits {ds : List Char} (hne : ds ≠ [])
    (hds : ∀ c ∈ ds, c.isDigit = true) (cs : List Char) : trimEnd (cs ++ ds) = cs ++ ds := by
  have hlast := isBlank_of_isDigit (hds _ (List.getLast_mem hne))
  rw [← List.dropLast_concat_getLast hne, ← List.append_assoc, trimEnd_append_cons hlast]
  rfl

theorem after?_append (front s : String) : after? front (front ++ s) = some s := by
  simp [after?]

theorem after?_eq_some {front s rest : String} (h : after? front s = some rest) :
    s.toList = front.toList ++ rest.toList := by
  unfold after? at h
  split at h
  next hprefix =>
    obtain ⟨tail, htail⟩ := List.isPrefixOf_iff_prefix.mp hprefix
    obtain rfl := Option.some.inj h
    rw [← htail, String.toList_ofList, List.drop_left]
  next => cases h

end Text

/-! ## Integers in decimal -/

namespace Numeral

/-- What an integer may have in front of its digits. -/
inductive Sign where
  | absent
  | plus
  | minus
  deriving DecidableEq

def Sign.chars : Sign → List Char
  | absent => []
  | plus => ['+']
  | minus => ['-']

theorem takeSign_append {sign : Sign} {r : List Char} (h : ∀ c ∈ r.head?, c ≠ '+' ∧ c ≠ '-') :
    takeSign (sign.chars ++ r) = (sign == .minus, r) := by
  cases sign with
  | absent =>
    unfold takeSign
    split
    next heq => exact absurd rfl (h '-' (by rw [show r = _ from heq]; rfl)).2
    next heq => exact absurd rfl (h '+' (by rw [show r = _ from heq]; rfl)).1
    next => rfl
  | plus => rfl
  | minus => rfl

theorem exists_sign (cs : List Char) :
    ∃ sign : Sign, cs = sign.chars ++ (takeSign cs).2 ∧ (takeSign cs).1 = (sign == .minus) := by
  unfold takeSign
  split
  next => exact ⟨.minus, rfl, rfl⟩
  next => exact ⟨.plus, rfl, rfl⟩
  next => exact ⟨.absent, rfl, rfl⟩

theorem not_sign_of_isDigit {c : Char} (h : c.isDigit = true) : c ≠ '+' ∧ c ≠ '-' := by
  constructor <;> rintro rfl <;> exact absurd h (by decide)

/-- An integer in decimal, however many digits it has and however many of them are zeros in
front. -/
structure DecimalInt where
  sign : Sign
  digits : List Char
  digits_ne_nil : digits ≠ []
  isDigit_of_mem : ∀ c ∈ digits, c.isDigit = true

namespace DecimalInt

def text (i : DecimalInt) : String := String.ofList (i.sign.chars ++ i.digits)

def value (i : DecimalInt) : Int :=
  match i.sign with
  | .minus => -(digitsValue i.digits : Int)
  | .absent | .plus => digitsValue i.digits

@[simp] theorem toList_text (i : DecimalInt) : i.text.toList = i.sign.chars ++ i.digits := by
  simp [text]

theorem takeSign_text (i : DecimalInt) :
    takeSign i.text.toList = (i.sign == .minus, i.digits) := by
  rw [toList_text]
  exact takeSign_append fun c hc =>
    not_sign_of_isDigit (i.isDigit_of_mem c (List.mem_of_mem_head? hc))

theorem intWithin?_text (bound : Nat) (i : DecimalInt) :
    intWithin? bound i.text =
      if -(bound : Int) ≤ i.value ∧ i.value < bound then some i.value else none := by
  have hdigits : (i.digits.isEmpty || !i.digits.all Char.isDigit) = false := by
    rw [List.isEmpty_eq_false_iff.mpr i.digits_ne_nil, List.all_eq_true.mpr i.isDigit_of_mem]
    rfl
  have hvalue : (if (i.sign == .minus) = true then -(digitsValue i.digits : Int)
      else digitsValue i.digits) = i.value := by
    unfold value
    cases i.sign <;> rfl
  unfold intWithin?
  rw [takeSign_text]
  dsimp only
  rw [if_neg (Bool.eq_false_iff.mp hdigits), hvalue]

/-- No letter occurs in the text of an integer. -/
theorem toLower_of_mem_text {i : DecimalInt} {c : Char} (h : c ∈ i.text.toList) :
    c.toLower = c ∧ c ≠ 'd' := by
  rw [toList_text, List.mem_append] at h
  rcases h with hsign | hdigit
  · cases hi : i.sign with
    | absent => rw [hi] at hsign; cases hsign
    | plus =>
      rw [hi] at hsign
      rw [List.mem_singleton.mp hsign]
      decide
    | minus =>
      rw [hi] at hsign
      rw [List.mem_singleton.mp hsign]
      decide
  · have hc := i.isDigit_of_mem c hdigit
    refine ⟨Text.toLower_of_isDigit hc, ?_⟩
    rintro rfl
    exact absurd hc (by decide)

end DecimalInt

/-- What is read as an integer is one in decimal. -/
theorem exists_decimalInt {bound : Nat} {s : String} {n : Int} (h : intWithin? bound s = some n) :
    ∃ i : DecimalInt, i.text = s := by
  obtain ⟨sign, hcs, -⟩ := exists_sign s.toList
  unfold intWithin? at h
  dsimp only at h
  split at h
  · cases h
  next hdigits =>
    rw [Bool.or_eq_true, not_or, Bool.not_eq_true, Bool.not_eq_true', Bool.not_eq_false] at hdigits
    refine ⟨⟨sign, (takeSign s.toList).2, List.isEmpty_eq_false_iff.mp hdigits.1,
      List.all_eq_true.mp hdigits.2⟩, ?_⟩
    rw [DecimalInt.text, ← hcs, String.ofList_toList]

/-- No `d` occurs in what is read as a natural number. -/
theorem toLower_ne_of_natBelow? {bound : Nat} {s : String} {n : Nat}
    (h : natBelow? bound s = some n) {c : Char} (hc : c ∈ s.toList) : c.toLower ≠ 'd' := by
  have isDigit_of_read {ds : List Char}
      (h : (if ds.isEmpty || !ds.all Char.isDigit then none
        else if digitsValue ds < bound then some (digitsValue ds) else none) = some n) :
      ∀ c ∈ ds, c.isDigit = true := by
    split at h
    · cases h
    next hdigits =>
      rw [Bool.or_eq_true, not_or, Bool.not_eq_true, Bool.not_eq_true', Bool.not_eq_false,
        List.all_eq_true] at hdigits
      exact hdigits.2
  have hkind : c = '+' ∨ c.isDigit = true := by
    unfold natBelow? at h
    dsimp only at h
    split at h
    next ds hs =>
      rw [hs] at hc
      exact (List.mem_cons.mp hc).imp_right (isDigit_of_read h c)
    next => exact .inr (isDigit_of_read h c hc)
  rcases hkind with rfl | hdigit
  · decide
  · rw [Text.toLower_of_isDigit hdigit]
    rintro rfl
    exact absurd hdigit (by decide)

end Numeral

namespace Subject

open Text Numeral

/-! ## The digit suffix -/

/-- `subject` is `base` with a suffix for the decimal digit `n`: a `d` in either case, and
digits that write a 32-bit integer. No line feed stands in front of it. -/
structure Selects (subject base : String) (n : Nat) : Prop where
  form : ∃ d ds, subject.toList = base.toList ++ d :: ds ∧ (d = 'd' ∨ d = 'D') ∧ ds ≠ [] ∧
    (∀ c ∈ ds, c.isDigit = true) ∧ digitsValue ds = n
  inLine : '\n' ∉ base.toList
  small : n < twoTo 31

theorem bne_d_of_isDigit {c : Char} (h : c.isDigit = true) : (c.toLower != 'd') = true := by
  rw [toLower_of_isDigit h, bne_iff_ne]
  rintro rfl
  exact absurd h (by decide)

theorem splitDigit_of_selects {subject base : String} {n : Nat} (h : Selects subject base n) :
    splitDigit subject = (base, some (n : Int)) := by
  obtain ⟨d, ds, hs, hd, hne, hds, rfl⟩ := h.form
  have hreverse : subject.toList.reverse = ds.reverse ++ d :: base.toList.reverse := by
    rw [hs, List.reverse_append, List.reverse_cons, List.append_assoc, List.singleton_append]
  have hbehind : ∀ c ∈ ds.reverse, (c.toLower != 'd') = true := fun c hc =>
    bne_d_of_isDigit (hds c (List.mem_reverse.mp hc))
  have hstop : (d.toLower != 'd') = false := by
    rw [bne_eq_false_iff_eq]; exact toLower_eq_d.mpr hd
  have hnumber : intWithin? (twoTo 31) (String.ofList ds) = some (digitsValue ds : Int) := by
    have hread := DecimalInt.intWithin?_text (twoTo 31) ⟨.absent, ds, hne, hds⟩
    have hsmall := h.small
    rwa [if_pos] at hread
    change -((twoTo 31 : Nat) : Int) ≤ (digitsValue ds : Int) ∧ (digitsValue ds : Int) < _
    omega
  unfold splitDigit
  dsimp only
  rw [hreverse, List.dropWhile_append_of_pos hbehind, List.takeWhile_append_of_pos hbehind,
    List.dropWhile_cons, List.takeWhile_cons, hstop, if_neg Bool.false_ne_true,
    if_neg Bool.false_ne_true, List.append_nil]
  dsimp only
  rw [if_neg, if_pos, List.reverse_reverse, hnumber, List.reverse_reverse, String.ofList_toList]
  · exact List.all_eq_true.mpr fun c hc => hds c (List.mem_reverse.mp hc)
  · rw [List.contains_iff_mem, List.mem_reverse]; exact h.inLine

/-- The last `d` of a text, in either case, with what stands on its sides. -/
theorem eq_of_dropWhile_reverse {cs front : List Char} {d : Char}
    (h : cs.reverse.dropWhile (fun c => c.toLower != 'd') = d :: front) :
    cs = front.reverse ++ d :: (cs.reverse.takeWhile fun c => c.toLower != 'd').reverse ∧
      (d = 'd' ∨ d = 'D') := by
  have hparts := List.takeWhile_append_dropWhile (p := fun c : Char => c.toLower != 'd')
    (l := cs.reverse)
  have hstop := List.head?_dropWhile_not (fun c : Char => c.toLower != 'd') cs.reverse
  rw [h] at hparts hstop
  refine ⟨?_, toLower_eq_d.mp (by simpa using hstop)⟩
  have hcs := congrArg List.reverse hparts
  rw [List.reverse_append, List.reverse_cons, List.append_assoc, List.singleton_append,
    List.reverse_reverse] at hcs
  exact hcs.symm

/-- A subject is read without a suffix, or has one. -/
theorem splitDigit_cases (subject : String) :
    splitDigit subject = (subject, none) ∨ ∃ base n, Selects subject base n := by
  unfold splitDigit
  dsimp only
  split
  · exact .inl rfl
  next d front hfront =>
    obtain ⟨hs, hd⟩ := eq_of_dropWhile_reverse hfront
    generalize subject.toList.reverse.takeWhile _ = behind at hs ⊢
    split
    · exact .inl rfl
    next hline =>
      split
      next hdigits =>
        split
        next n hn =>
          have hds : ∀ c ∈ behind.reverse, c.isDigit = true := fun c hc =>
            List.all_eq_true.mp hdigits c (List.mem_reverse.mp hc)
          have hne : behind.reverse ≠ [] := by
            intro hnil
            rw [hnil] at hn
            cases hn
          have hread := DecimalInt.intWithin?_text (twoTo 31) ⟨.absent, behind.reverse, hne, hds⟩
          refine .inr ⟨String.ofList front.reverse, digitsValue behind.reverse,
            ⟨d, behind.reverse, by rw [String.toList_ofList, ← hs], hd, hne, hds, rfl⟩, ?_, ?_⟩
          · rw [String.toList_ofList, List.mem_reverse, ← List.contains_iff_mem]
            exact hline
          · change intWithin? (twoTo 31) (String.ofList behind.reverse) = _ at hread
            rw [hn] at hread
            split at hread
            next hbound => exact Int.ofNat_lt.mp hbound.2
            next => cases hread
        next => exact .inl rfl
      next => exact .inl rfl

namespace Selects

variable {subject base : String} {n : Nat}

/-- Blanks in front of a subject with a suffix are in front of its base. -/
theorem trimmed (h : Selects subject base n) :
    Selects (trimmed subject) (String.ofList (trimStart base.toList)) n := by
  obtain ⟨d, ds, hs, hd, hne, hds, hn⟩ := h.form
  have hblank : isBlank d = false := by rcases hd with rfl | rfl <;> rfl
  refine ⟨⟨d, ds, ?_, hd, hne, hds, hn⟩, ?_, h.small⟩
  · have hend := trimEnd_append_digits hne hds []
    rw [List.nil_append] at hend
    rw [toList_trimmed, hs, trim_append_cons hblank, hend, String.toList_ofList]
  · rw [String.toList_ofList]
    exact fun hmem => h.inLine (mem_of_mem_trimStart hmem)

theorem asciiLower (h : Selects subject base n) :
    Selects (asciiLower subject) (asciiLower base) n := by
  obtain ⟨d, ds, hs, hd, hne, hds, hn⟩ := h.form
  refine ⟨⟨'d', ds, ?_, .inl rfl, hne, hds, hn⟩, ?_, h.small⟩
  · rw [toList_asciiLower, hs, List.map_append, List.map_cons, map_toLower_of_isDigit hds,
      toLower_eq_d.mpr hd, toList_asciiLower]
  · rw [toList_asciiLower]
    intro hmem
    obtain ⟨c, hc, hlower⟩ := List.mem_map.mp hmem
    exact h.inLine (toLower_eq_lineFeed.mp hlower ▸ hc)

/-- The suffix of a text in lower case is that of the text. -/
theorem of_asciiLower {lowered : String} (h : Selects (Text.asciiLower subject) lowered n) :
    ∃ base, Selects subject base n ∧ Text.asciiLower base = lowered := by
  obtain ⟨d, ds, hs, hd, hne, hds, hn⟩ := h.form
  rw [toList_asciiLower, List.map_eq_append_iff] at hs
  obtain ⟨base, tail, hsubject, hbase, htail⟩ := hs
  obtain ⟨e, es, rfl, he, hes⟩ := List.map_eq_cons_iff.mp htail
  have hdigits : ∀ c ∈ es, c.isDigit = true := fun c hc => by
    rw [← isDigit_toLower]
    exact hds _ (hes ▸ List.mem_map_of_mem hc)
  rw [map_toLower_of_isDigit hdigits] at hes
  subst hes
  have hletter : e = 'd' ∨ e = 'D' := by
    rw [← toLower_eq_d, ← toLower_toLower, he]
    exact toLower_eq_d.mpr hd
  refine ⟨String.ofList base, ⟨⟨e, es, ?_, hletter, hne, hds, hn⟩, ?_, h.small⟩, ?_⟩
  · rw [hsubject, String.toList_ofList]
  · rw [String.toList_ofList]
    intro hmem
    refine h.inLine (hbase ▸ List.mem_map.mpr ⟨_, hmem, rfl⟩)
  · rw [Text.asciiLower, String.toList_ofList, hbase, String.ofList_toList]

theorem mem_d (h : Selects subject base n) : ∃ c ∈ subject.toList, c.toLower = 'd' := by
  obtain ⟨d, ds, hs, hd, -⟩ := h.form
  exact ⟨d, hs ▸ List.mem_append_right _ List.mem_cons_self, toLower_eq_d.mpr hd⟩

theorem isDigit_getLast (h : Selects subject base n) :
    ∃ c, subject.toList.getLast? = some c ∧ c.isDigit = true := by
  obtain ⟨d, ds, hs, -, hne, hds, -⟩ := h.form
  refine ⟨ds.getLast hne, ?_, hds _ (List.getLast_mem hne)⟩
  rw [hs, List.append_cons, List.getLast?_append, List.getLast?_eq_some_getLast hne,
    Option.some_or]

end Selects

/-! ## Known names -/

variable {K : Type}

/-- The names without an index end in letters. -/
theorem fixed?_eq_none [Arith K] {s : String} {c : Char} (hlast : s.toList.getLast? = some c)
    (hdigit : c.isDigit = true) : fixed? (K := K) s = none := by
  have hpassed : ∀ p ∈ passed, p.toList.getLast?.all (fun c => !c.isDigit) = true := by decide
  rw [← Option.not_isSome_iff_eq_none, Option.isSome_iff_exists]
  rintro ⟨e, h⟩
  have hletter : s.toList.getLast?.all (fun c => !c.isDigit) = true := by
    unfold fixed? at h
    split at h
    case h_20 =>
      split at h
      next hs => exact hpassed s (List.contains_iff_mem.mp hs)
      next => cases h
    all_goals rfl
  rw [hlast, Option.all_some, hdigit] at hletter
  cases hletter

/-- The letter `d` in front of the name of a door is the only one of the subject. -/
theorem not_selects_door {s base : String} {n : Nat} {i : DecimalInt} (front : List Char)
    (hs : s.toList = 'd' :: 'o' :: front ++ i.text.toList)
    (hfront : front.all (fun c => c.toLower != 'd') = true) : ¬Selects s base n := by
  intro hselects
  obtain ⟨d, ds, hform, hd, -, hds, -⟩ := hselects.form
  rw [hs] at hform
  cases hbase : base.toList with
  | nil =>
    -- What stands behind the only `d` begins with a letter.
    rw [hbase] at hform
    injection hform with _ htail
    exact absurd (hds 'o' (htail ▸ List.mem_cons_self)) (by decide)
  | cons b bs =>
    rw [hbase] at hform
    injection hform with _ htail
    have hmem : d ∈ 'o' :: front ++ i.text.toList := by
      rw [show 'o' :: front ++ i.text.toList = bs ++ d :: ds from htail]
      exact List.mem_append_right _ List.mem_cons_self
    have hd' := toLower_eq_d.mpr hd
    rcases List.mem_append.mp hmem with hmem | hmem
    · rcases List.mem_cons.mp hmem with rfl | hmem
      · exact absurd hd' (by decide)
      · exact bne_iff_ne.mp (List.all_eq_true.mp hfront d hmem) hd'
    · obtain ⟨hlower, hne⟩ := DecimalInt.toLower_of_mem_text hmem
      exact hne (hlower ▸ hd')

theorem not_selects_of_indexed {cars : Nat} {s base : String} {n : Nat} {e : Expr K}
    (h : indexed? cars s = some e) : ¬Selects s base n := by
  unfold indexed? at h
  split at h
  next index hindex =>
    simp only [Option.bind_eq_bind, Option.bind_eq_some_iff] at h
    obtain ⟨m, hm, -⟩ := h
    intro hselects
    obtain ⟨c, hc, hd⟩ := hselects.mem_d
    rw [after?_eq_some hindex] at hc
    rcases List.mem_append.mp hc with hc | hc
    · have hats : "ats".toList.all (fun c => c.toLower != 'd') = true := by decide
      exact bne_iff_ne.mp (List.all_eq_true.mp hats c hc) hd
    · exact toLower_ne_of_natBelow? hm hc hd
  next =>
    split at h
    next index hindex =>
      obtain ⟨car, hcar, -⟩ := Option.map_eq_some_iff.mp h
      obtain ⟨i, rfl⟩ := exists_decimalInt hcar
      exact not_selects_door ['o', 'r', 'l'] (after?_eq_some hindex) (by decide)
    next =>
      split at h
      next index hindex =>
        obtain ⟨car, hcar, -⟩ := Option.map_eq_some_iff.mp h
        obtain ⟨i, rfl⟩ := exists_decimalInt hcar
        exact not_selects_door ['o', 'r', 'r'] (after?_eq_some hindex) (by decide)
      next => cases h

variable [Arith K]

/-- A subject that is known by itself has no digit suffix. -/
theorem not_selects_of_resolve {cars : Nat} {subject base : String} {n : Nat} {e : Expr K}
    (h : resolve? cars subject = some e) : ¬Selects (trimmed subject) base n := by
  intro hselects
  unfold resolve? at h
  dsimp only at h
  split at h
  next he =>
    obtain ⟨c, hlast, hdigit⟩ := hselects.asciiLower.isDigit_getLast
    exact Option.some_ne_none _ (he.symm.trans (fixed?_eq_none hlast hdigit))
  next => exact not_selects_of_indexed h hselects.asciiLower

/-! ## Styles of one subject -/

/-- Two subjects that differ by the case of ASCII letters and by blanks around the second. -/
def Restyles (subject styled : String) : Prop :=
  ∃ before after cs, AllBlank before ∧ AllBlank after ∧
    styled.toList = before ++ cs ++ after ∧
    cs.map Char.toLower = subject.toList.map Char.toLower

/-- The text by which a subject is known, whatever its style. -/
def plain (subject : String) : String := Text.asciiLower (trimmed subject)

theorem Restyles.plain_eq {subject styled : String} (h : Restyles subject styled) :
    plain styled = plain subject := by
  obtain ⟨before, after, cs, hbefore, hafter, hstyled, hcase⟩ := h
  unfold plain Text.asciiLower
  rw [toList_trimmed, toList_trimmed, hstyled, trim_append_blank hafter,
    trim_append_of_blank hbefore, ← trim_map_toLower, ← trim_map_toLower, hcase]

theorem plain_eq_of_asciiLower {s t : String} (h : Text.asciiLower s = Text.asciiLower t) :
    plain s = plain t := by
  have hcase := congrArg String.toList h
  rw [toList_asciiLower, toList_asciiLower] at hcase
  unfold plain Text.asciiLower
  rw [toList_trimmed, toList_trimmed, ← trim_map_toLower, ← trim_map_toLower, hcase]

theorem plain_trimmed (s : String) : plain (trimmed s) = plain s := by
  rw [plain, trimmed, toList_trimmed, trim_trim, plain, trimmed]

theorem plain_trimStart (s : String) :
    plain (String.ofList (trimStart s.toList)) = plain s := by
  rw [plain, trimmed, String.toList_ofList, trim_trimStart, plain, trimmed]

theorem resolve?_congr {cars : Nat} {s t : String} (h : plain s = plain t) :
    resolve? (K := K) cars s = resolve? cars t := by
  unfold plain trimmed at h
  unfold resolve?
  rw [h]

/-- A suffix stays when the subject is restyled. -/
theorem Selects.restyled {s t base : String} {n : Nat} (h : plain s = plain t)
    (hs : Selects (Text.trimmed s) base n) :
    ∃ base', Selects (Text.trimmed t) base' n ∧ plain base' = plain base := by
  have hlowered := hs.asciiLower
  rw [show Text.asciiLower (Text.trimmed s) = Text.asciiLower (Text.trimmed t) from h] at hlowered
  obtain ⟨base', hbase', hcase⟩ := hlowered.of_asciiLower
  exact ⟨base', hbase', plain_eq_of_asciiLower hcase⟩

/-! ## Expressions -/

/-- What is reported of a subject that is not known. -/
def unknown (subject : String) (location : Location) : Diagnostic :=
  .ofKind .field ("Invalid subject " ++ subject) location

theorem expression_of_splitDigit {cars : Nat} {subject base : String} {digit : Option Int}
    (h : splitDigit (trimmed subject) = (base, digit)) (location : Location) :
    expression (K := K) cars subject location =
      ⟨(resolve? cars base).getD inert ++ (digit.map digitSelector).getD [],
        if (resolve? (K := K) cars base).isSome then [] else [unknown subject location]⟩ := by
  unfold trimmed at h
  unfold expression
  rw [h]
  cases hr : resolve? (K := K) cars base <;> cases digit <;> simp [hr] <;> rfl

theorem expression_of_selects {cars : Nat} {subject base : String} {n : Nat}
    (h : Selects (trimmed subject) base n) (location : Location) :
    expression (K := K) cars subject location =
      ⟨(resolve? cars base).getD inert ++ digitSelector n,
        if (resolve? (K := K) cars base).isSome then [] else [unknown subject location]⟩ :=
  expression_of_splitDigit (splitDigit_of_selects h) location

theorem expression_of_not_selects {cars : Nat} {subject : String}
    (h : ∀ base n, ¬Selects (trimmed subject) base n) (location : Location) :
    expression (K := K) cars subject location =
      ⟨(resolve? cars subject).getD inert,
        if (resolve? (K := K) cars subject).isSome then [] else [unknown subject location]⟩ := by
  rcases splitDigit_cases (trimmed subject) with hplain | ⟨base, n, hselects⟩
  · rw [expression_of_splitDigit hplain, resolve?_congr (plain_trimmed subject), Option.map_none,
      Option.getD_none, List.append_nil]
  · exact absurd hselects (h base n)

/-- The expressions of subjects. A base with a digit suffix gives the expression of the base,
or the inert one, and the selector behind it. A subject that is known by itself gives its own
expression, and one that is neither is inert. An unknown base or subject is reported once,
and the style of a subject decides nothing. -/
theorem expression_grammar (cars : Nat) (location : Location) :
    (∀ subject base n, Selects subject base n →
      expression (K := K) cars subject location =
        ⟨(resolve? cars base).getD inert ++ digitSelector n,
          if (resolve? (K := K) cars base).isSome then [] else [unknown subject location]⟩) ∧
    (∀ subject e, resolve? (K := K) cars subject = some e →
      expression cars subject location = ⟨e, []⟩) ∧
    (∀ subject, resolve? (K := K) cars subject = none →
      (∀ base n, ¬Selects (trimmed subject) base n) →
      expression (K := K) cars subject location = ⟨inert, [unknown subject location]⟩) ∧
    ∀ subject styled, Restyles subject styled →
      (expression (K := K) cars styled location).value =
          (expression cars subject location).value ∧
        (expression (K := K) cars styled location).notes.length =
          (expression (K := K) cars subject location).notes.length := by
  refine ⟨fun subject base n h => ?_, fun subject e h => ?_, fun subject h hnone => ?_,
    fun subject styled h => ?_⟩
  · rw [expression_of_selects h.trimmed, resolve?_congr (plain_trimStart base)]
  · rw [expression_of_not_selects (fun base n => not_selects_of_resolve h), h]
    rfl
  · rw [expression_of_not_selects hnone, h]
    rfl
  · have hplain := h.plain_eq
    by_cases hs : ∃ base n, Selects (trimmed subject) base n
    · obtain ⟨base, n, hs⟩ := hs
      obtain ⟨base', hs', hbase⟩ := hs.restyled hplain.symm
      rw [expression_of_selects hs, expression_of_selects hs', resolve?_congr hbase]
      exact ⟨rfl, by split <;> rfl⟩
    · have hstyled : ∀ base n, ¬Selects (trimmed styled) base n := fun base n hs' => by
        obtain ⟨base', hs', -⟩ := hs'.restyled hplain
        exact hs ⟨base', n, hs'⟩
      rw [expression_of_not_selects (fun base n hs' => hs ⟨base, n, hs'⟩),
        expression_of_not_selects hstyled, resolve?_congr hplain]
      exact ⟨rfl, by split <;> rfl⟩

/-- A digit of a known subject, a known subject, an unknown one and a subject in another
style, in a train of four cars. -/
theorem expression_grammar_of_four_cars :
    let read := fun subject =>
      expression (K := Float) 4 subject ⟨"panel2.cfg", none, none, none⟩
    read "msD0" = ⟨[.name "speedometer", .operator .abs, .operator .floor, .integer 10,
        .operator .modulo], []⟩ ∧
      read "doorl3" = ⟨[.integer 3, .operator .leftDoorsIndex, .operator .ceiling], []⟩ ∧
      read "ats256" =
        ⟨inert, [unknown "ats256" ⟨"panel2.cfg", none, none, none⟩]⟩ ∧
      (read " MsD0\t").value = (read "msD0").value ∧
      (read " MsD0\t").notes.length = (read "msD0").notes.length := by
  obtain ⟨hsuffix, hknown, hunknown, hstyle⟩ :=
    expression_grammar (K := Float) 4 ⟨"panel2.cfg", none, none, none⟩
  refine ⟨?_, ?_, ?_, ?_⟩
  · exact hsuffix "msD0" "ms" 0
      ⟨⟨'D', ['0'], rfl, .inr rfl, nofun, List.forall_mem_singleton.mpr rfl, rfl⟩, by decide,
        by decide⟩
  · exact hknown "doorl3" _ rfl
  · refine hunknown "ats256" rfl fun base n h => ?_
    obtain ⟨c, hc, hd⟩ := h.mem_d
    have hats : (trimmed "ats256").toList.all (fun c => c.toLower != 'd') = true := by decide
    exact bne_iff_ne.mp (List.all_eq_true.mp hats c hc) hd
  · exact hstyle "msD0" " MsD0\t"
      ⟨[' '], ['\t'], "MsD0".toList, by simp [AllBlank]; decide, by simp [AllBlank]; decide,
        by decide, by decide⟩

/-! ## Doors -/

/-- A side of the train. -/
inductive Side where
  | left
  | right

/-- How the subjects of the doors on a side begin. -/
def Side.subject : Side → String
  | left => "doorl"
  | right => "doorr"

def Side.operator : Side → Operator
  | left => .leftDoorsIndex
  | right => .rightDoorsIndex

/-- Whether a 64-bit integer holds `n`. -/
def FitsWord (n : Int) : Prop := -((twoTo 63 : Nat) : Int) ≤ n ∧ n < (twoTo 63 : Nat)

instance (n : Int) : Decidable (FitsWord n) := inferInstanceAs (Decidable (_ ∧ _))

omit [Arith K] in
theorem indexed?_door (cars : Nat) (side : Side) (i : DecimalInt) :
    indexed? (K := K) cars (side.subject ++ i.text) =
      if FitsWord i.value then some (doors cars i.value side.operator) else none := by
  have hats : after? "ats" (side.subject ++ i.text) = none := by
    cases side <;> simp [after?, Side.subject]
  have hread : (if FitsWord i.value then some i.value else none).map
      (doors (K := K) cars · side.operator) =
        if FitsWord i.value then some (doors cars i.value side.operator) else none := by
    split <;> rfl
  unfold indexed?
  rw [hats]
  dsimp only
  cases side with
  | left =>
    rw [show Side.left.subject = "doorl" from rfl, after?_append]
    dsimp only
    rw [DecimalInt.intWithin?_text]
    exact hread
  | right =>
    have hleft : after? "doorl" (Side.right.subject ++ i.text) = none := by
      simp [after?, Side.subject]
    rw [hleft, show Side.right.subject = "doorr" from rfl, after?_append]
    dsimp only
    rw [DecimalInt.intWithin?_text]
    exact hread

theorem toList_subject (side : Side) :
    side.subject.toList = 'd' :: 'o' :: side.subject.toList.drop 2 := by cases side <;> rfl

theorem trim_door (side : Side) (i : DecimalInt) :
    trim (side.subject ++ i.text).toList = (side.subject ++ i.text).toList := by
  have hend := trimEnd_append_digits i.digits_ne_nil i.isDigit_of_mem
    ('o' :: side.subject.toList.drop 2 ++ i.sign.chars)
  rw [String.toList_append, DecimalInt.toList_text, toList_subject, List.cons_append,
    ← List.append_assoc]
  refine (trim_append_cons rfl [] _).trans ?_
  rw [hend]
  rfl

/-- The subject of a door has no blanks around it and no letters in upper case. -/
theorem plain_door (side : Side) (i : DecimalInt) :
    plain (side.subject ++ i.text) = side.subject ++ i.text := by
  have hlower : (side.subject ++ i.text).toList.map Char.toLower =
      (side.subject ++ i.text).toList := by
    rw [String.toList_append, List.map_append,
      List.map_congr_left fun c hc => (DecimalInt.toLower_of_mem_text hc).1, List.map_id']
    cases side <;> rfl
  unfold plain Text.asciiLower
  rw [toList_trimmed, trim_door, hlower, String.ofList_toList]

theorem resolve?_door (cars : Nat) (side : Side) (i : DecimalInt) :
    resolve? (K := K) cars (side.subject ++ i.text) =
      if FitsWord i.value then some (doors cars i.value side.operator) else none := by
  have hlast : (side.subject ++ i.text).toList.getLast? =
      some (i.digits.getLast i.digits_ne_nil) := by
    rw [String.toList_append, DecimalInt.toList_text, ← List.append_assoc, List.getLast?_append,
      List.getLast?_eq_some_getLast i.digits_ne_nil, Option.some_or]
  have hfixed := fixed?_eq_none (K := K) hlast (i.isDigit_of_mem _ (List.getLast_mem _))
  have hplain := plain_door side i
  unfold plain trimmed at hplain
  unfold resolve?
  rw [hplain]
  dsimp only
  rw [hfixed]
  exact indexed?_door cars side i

/-- The text for the doors of a car on one side. A car outside the train has doors that are
neither open nor closed. -/
def Side.doorText (side : Side) (cars : Nat) (car : Int) : String :=
  if 0 ≤ car ∧ car < cars then toString car ++ " " ++ side.operator.symbol ++ " ceiling" else "2"

theorem text_doors (cars : Nat) (car : Int) (side : Side) :
    (doors (K := Float) cars car side.operator).text = side.doorText cars car := by
  unfold doors Side.doorText
  split
  · simp [Expr.text, Word.text, Operator.symbol, String.append_assoc]
  · rfl

/-- The subjects of doors. Every integer a 64-bit integer holds tells a car, in the train or
outside it; a greater one makes a subject that is not known. -/
theorem door_subjects (cars : Nat) (side : Side) (i : DecimalInt) (location : Location) :
    let subject := side.subject ++ i.text
    (resolve? cars subject).map Expr.text =
        (if FitsWord i.value then some (side.doorText cars i.value) else none) ∧
      (expression (K := Float) cars subject location).value.text =
        (if FitsWord i.value then side.doorText cars i.value else "0") ∧
      (expression (K := Float) cars subject location).notes =
        if FitsWord i.value then [] else [unknown subject location] := by
  dsimp only
  have hresolve := resolve?_door (K := Float) cars side i
  have hselects : ∀ base n, ¬Selects (trimmed (side.subject ++ i.text)) base n := fun base n =>
    not_selects_door _ (by rw [toList_trimmed, trim_door, String.toList_append, toList_subject])
      (by cases side <;> decide)
  rw [expression_of_not_selects hselects, hresolve]
  split
  · exact ⟨congrArg some (text_doors cars i.value side), text_doors cars i.value side, rfl⟩
  · exact ⟨rfl, rfl, rfl⟩

/-- The first integer that a door is not found for. -/
theorem door_beyond_words :
    let read := expression (K := Float) 4 "doorl9223372036854775808"
      ⟨"panel2.cfg", none, none, none⟩
    resolve? (K := Float) 4 "doorl9223372036854775808" = none ∧ read.value.text = "0" ∧
      read.notes.map Diagnostic.message = ["Invalid subject doorl9223372036854775808"] ∧
      resolve? (K := Float) 4 "doorl9223372036854775807" = some [.integer 2] := by
  decide +kernel

end Subject

end DriverDesk
