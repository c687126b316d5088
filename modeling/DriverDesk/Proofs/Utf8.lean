import DriverDesk.Text.Utf8
import Mathlib.Data.List.Basic
import Mathlib.Data.Nat.Init

/-!
# UTF-8

The octets of a text are the encodings of its characters one after the other. Reading is
compared with these: a lead octet sets a test for each octet behind it (`tests?`), a sequence
that passes all of them is the encoding of one character, and one that passes the first of
them begins such an encoding. `Reads` says what a reader makes of octets that need not be
well formed.
-/

namespace DriverDesk.Text.Utf8

/-- The octets of a text. -/
def encode (cs : List Char) : List UInt8 := cs.flatMap String.utf8EncodeChar

/-- Octets are well formed when they are those of a text. -/
def WellFormed (bs : List UInt8) : Prop := ∃ cs, encode cs = bs

/-- The encoding of some character begins with these octets. -/
def Begins (bs : List UInt8) : Prop := ∃ c, bs <+: String.utf8EncodeChar c

/-- At the front of octets where no character is encoded, those that could still have become
one: the longest with which the encoding of some character begins, or a single octet. -/
structure Broken (front rest : List UInt8) : Prop where
  not_char : ∀ c, ¬ String.utf8EncodeChar c <+: front ++ rest
  begins : Begins front ∨ front.length = 1
  ne_nil : front ≠ []
  longest : ∀ bs, bs <+: front ++ rest → Begins bs → bs.length ≤ front.length

/-- The text that octets read as: the characters that are encoded, and U+FFFD in the place of
each maximal sequence that is broken off. -/
inductive Reads : List UInt8 → List Char → Prop where
  | nil : Reads [] []
  | char (c : Char) {bs : List UInt8} {cs : List Char} :
      Reads bs cs → Reads (String.utf8EncodeChar c ++ bs) (c :: cs)
  | broken {front bs : List UInt8} {cs : List Char} :
      Broken front bs → Reads bs cs → Reads (front ++ bs) ('\ufffd' :: cs)

/-! ## Sequences -/

/-- What the octets behind a lead have to be, a test for each; none for an octet that leads no
character. -/
def tests? (b : UInt8) : Option (List (UInt8 → Bool)) :=
  if b < 0x80 then some []
  else if 0xC2 ≤ b && b ≤ 0xDF then some [isTail]
  else if 0xE0 ≤ b && b ≤ 0xEF then some [secondOfThree b, isTail]
  else if 0xF0 ≤ b && b ≤ 0xF4 then some [secondOfFour b, isTail, isTail]
  else none

/-- The character of a lead and the octets behind it. -/
def charOf (b : UInt8) : List UInt8 → Char
  | [] => Char.ofNat b.toNat
  | [b1] => Char.ofNat ((b.toNat - 0xC0) * 64 + payload b1)
  | [b1, b2] => Char.ofNat (((b.toNat - 0xE0) * 64 + payload b1) * 64 + payload b2)
  | b1 :: b2 :: b3 :: _ => Char.ofNat ((((b.toNat - 0xF0) * 64 + payload b1) * 64
      + payload b2) * 64 + payload b3)

/-- Octets pass the first of some tests, one each. -/
inductive Passes : List (UInt8 → Bool) → List UInt8 → Prop where
  | nil (tests : List (UInt8 → Bool)) : Passes tests []
  | cons {test : UInt8 → Bool} {tests : List (UInt8 → Bool)} {b : UInt8} {bs : List UInt8} :
      test b = true → Passes tests bs → Passes (test :: tests) (b :: bs)

/-- How many octets pass the tests one after the other. -/
def passing : List (UInt8 → Bool) → List UInt8 → Nat
  | test :: tests, b :: r => if test b then passing tests r + 1 else 0
  | _, _ => 0

theorem unit_eq (b : UInt8) (r : List UInt8) :
    unit b r = match tests? b with
      | none => (none, 0)
      | some tests => (if passing tests r = tests.length
          then some (charOf b (r.take (passing tests r))) else none, passing tests r) := by
  unfold unit tests?
  split
  · rfl
  split
  · rcases r with _ | ⟨b1, r⟩
    · rfl
    · cases h1 : isTail b1 <;> simp [passing, charOf, h1]
  split
  · rcases r with _ | ⟨b1, _ | ⟨b2, r⟩⟩
    · rfl
    · cases h1 : secondOfThree b b1 <;> simp [passing, h1]
    · cases h1 : secondOfThree b b1 <;> cases h2 : isTail b2 <;> simp [passing, charOf, h1, h2]
  split
  · rcases r with _ | ⟨b1, _ | ⟨b2, _ | ⟨b3, r⟩⟩⟩
    · rfl
    · cases h1 : secondOfFour b b1 <;> simp [passing, h1]
    · cases h1 : secondOfFour b b1 <;> cases h2 : isTail b2 <;> simp [passing, h1, h2]
    · cases h1 : secondOfFour b b1 <;> cases h2 : isTail b2 <;> cases h3 : isTail b3 <;>
        simp [passing, charOf, h1, h2, h3]
  · rfl

theorem toNat_ofNat_of_scalar {n : Nat} (h : n < 0xD800 ∨ 0xDFFF < n ∧ n < 0x110000) :
    (Char.ofNat n).val.toNat = n := by
  have hvalid : n.isValidChar := h
  rw [Char.ofNat, dif_pos hvalid]
  rfl

theorem isTail_iff {b : UInt8} : isTail b = true ↔ 0x80 ≤ b.toNat ∧ b.toNat ≤ 0xBF := by
  simp [isTail, UInt8.le_iff_toNat_le]

theorem secondOfThree_iff {lead b : UInt8} : secondOfThree lead b = true ↔
    0x80 ≤ b.toNat ∧ b.toNat ≤ 0xBF ∧ (lead.toNat = 0xE0 → 0xA0 ≤ b.toNat) ∧
      (lead.toNat = 0xED → b.toNat ≤ 0x9F) := by
  simp only [secondOfThree, ← UInt8.toNat_inj, UInt8.reduceToNat]
  split
  · simp [UInt8.le_iff_toNat_le]; omega
  split
  · simp [UInt8.le_iff_toNat_le]; omega
  · rw [isTail_iff]
    omega

theorem secondOfFour_iff {lead b : UInt8} : secondOfFour lead b = true ↔
    0x80 ≤ b.toNat ∧ b.toNat ≤ 0xBF ∧ (lead.toNat = 0xF0 → 0x90 ≤ b.toNat) ∧
      (lead.toNat = 0xF4 → b.toNat ≤ 0x8F) := by
  simp only [secondOfFour, ← UInt8.toNat_inj, UInt8.reduceToNat]
  split
  · simp [UInt8.le_iff_toNat_le]; omega
  split
  · simp [UInt8.le_iff_toNat_le]; omega
  · rw [isTail_iff]
    omega

theorem tests?_eq (b : UInt8) : tests? b =
    if b.toNat < 0x80 then some []
    else if 0xC2 ≤ b.toNat ∧ b.toNat ≤ 0xDF then some [isTail]
    else if 0xE0 ≤ b.toNat ∧ b.toNat ≤ 0xEF then some [secondOfThree b, isTail]
    else if 0xF0 ≤ b.toNat ∧ b.toNat ≤ 0xF4 then some [secondOfFour b, isTail, isTail]
    else none := by
  simp only [tests?, UInt8.lt_iff_toNat_lt, UInt8.le_iff_toNat_le, UInt8.reduceToNat,
    Bool.and_eq_true, decide_eq_true_eq]

theorem toNat_ofNat_of_lt {n : Nat} (h : n < 256) : (UInt8.ofNat n).toNat = n := by
  rw [UInt8.toNat_ofNat']
  exact Nat.mod_eq_of_lt h

/-- The encoding of a character is a sequence that reads as the character. -/
theorem exists_encodeChar (c : Char) : ∃ b t tests, String.utf8EncodeChar c = b :: t ∧
    tests? b = some tests ∧ Passes tests t ∧ t.length = tests.length ∧ charOf b t = c := by
  have hvalid : c.val.toNat < 0xD800 ∨ 0xDFFF < c.val.toNat ∧ c.val.toNat < 0x110000 := c.valid
  have hc : Char.ofNat c.val.toNat = c := Char.ofNat_toNat c
  rw [String.utf8EncodeChar]
  generalize c.val.toNat = v at hvalid hc
  split
  next h1 =>
    have hb : (UInt8.ofNat v).toNat = v := toNat_ofNat_of_lt (by omega)
    refine ⟨_, _, [], rfl, ?_, .nil _, rfl, ?_⟩
    · rw [tests?_eq, hb, if_pos (by omega)]
    · rw [charOf, hb, hc]
  next h1 =>
  split
  next h2 =>
    have hb : (UInt8.ofNat (v / 64 % 32 + 192)).toNat = v / 64 + 192 := by
      rw [toNat_ofNat_of_lt (by omega)]; omega
    have hb1 : (UInt8.ofNat (v % 64 + 128)).toNat = v % 64 + 128 := toNat_ofNat_of_lt (by omega)
    refine ⟨_, _, [isTail], rfl, ?_, .cons ?_ (.nil _), rfl, ?_⟩
    · rw [tests?_eq, hb, if_neg (by omega), if_pos (by omega)]
    · rw [isTail_iff, hb1]; omega
    · rw [charOf, payload, hb, hb1, ← hc]
      congr 1
      omega
  next h2 =>
  split
  next h3 =>
    have hb : (UInt8.ofNat (v / 4096 % 16 + 224)).toNat = v / 4096 + 224 := by
      rw [toNat_ofNat_of_lt (by omega)]; omega
    have hb1 : (UInt8.ofNat (v / 64 % 64 + 128)).toNat = v / 64 % 64 + 128 :=
      toNat_ofNat_of_lt (by omega)
    have hb2 : (UInt8.ofNat (v % 64 + 128)).toNat = v % 64 + 128 := toNat_ofNat_of_lt (by omega)
    refine ⟨_, _, [secondOfThree (UInt8.ofNat (v / 4096 % 16 + 224)), isTail], rfl, ?_,
      .cons ?_ (.cons ?_ (.nil _)), rfl, ?_⟩
    · rw [tests?_eq, hb, if_neg (by omega), if_neg (by omega), if_pos (by omega)]
    · rw [secondOfThree_iff, hb, hb1]; omega
    · rw [isTail_iff, hb2]; omega
    · rw [charOf, payload, payload, hb, hb1, hb2, ← hc]
      congr 1
      omega
  next h3 =>
    have hb : (UInt8.ofNat (v / 262144 % 8 + 240)).toNat = v / 262144 + 240 := by
      rw [toNat_ofNat_of_lt (by omega)]; omega
    have hb1 : (UInt8.ofNat (v / 4096 % 64 + 128)).toNat = v / 4096 % 64 + 128 :=
      toNat_ofNat_of_lt (by omega)
    have hb2 : (UInt8.ofNat (v / 64 % 64 + 128)).toNat = v / 64 % 64 + 128 :=
      toNat_ofNat_of_lt (by omega)
    have hb3 : (UInt8.ofNat (v % 64 + 128)).toNat = v % 64 + 128 := toNat_ofNat_of_lt (by omega)
    refine ⟨_, _, [secondOfFour (UInt8.ofNat (v / 262144 % 8 + 240)), isTail, isTail], rfl, ?_,
      .cons ?_ (.cons ?_ (.cons ?_ (.nil _))), rfl, ?_⟩
    · rw [tests?_eq, hb, if_neg (by omega), if_neg (by omega), if_neg (by omega),
        if_pos (by omega)]
    · rw [secondOfFour_iff, hb, hb1]; omega
    · rw [isTail_iff, hb2]; omega
    · rw [isTail_iff, hb3]; omega
    · rw [charOf, payload, payload, payload, hb, hb1, hb2, hb3, ← hc]
      congr 1
      omega

/-- A sequence is the encoding of the character that it reads as. -/
theorem encodeChar_charOf {b : UInt8} {t : List UInt8} {tests : List (UInt8 → Bool)}
    (htests : tests? b = some tests) (hpasses : Passes tests t)
    (hlength : t.length = tests.length) : String.utf8EncodeChar (charOf b t) = b :: t := by
  rw [tests?_eq] at htests
  have ofNat_eq {n : Nat} {x : UInt8} (h : n = x.toNat) : UInt8.ofNat n = x := by
    rw [h, UInt8.ofNat_toNat]
  split at htests
  next h1 =>
    obtain rfl := Option.some.inj htests
    obtain rfl := List.length_eq_zero_iff.mp hlength
    rw [charOf, String.utf8EncodeChar, toNat_ofNat_of_scalar (by omega)]
    rw [if_pos (by omega), UInt8.ofNat_toNat]
  next h1 =>
  split at htests
  next h2 =>
    obtain rfl := Option.some.inj htests
    obtain ⟨b1, rfl⟩ := List.length_eq_one_iff.mp hlength
    cases hpasses with
    | cons hb1 _ =>
      rw [isTail_iff] at hb1
      rw [charOf, payload, String.utf8EncodeChar, toNat_ofNat_of_scalar (by omega)]
      rw [if_neg (by omega), if_pos (by omega)]
      simp only [List.cons.injEq, and_true]
      exact ⟨ofNat_eq (by omega), ofNat_eq (by omega)⟩
  next h2 =>
  split at htests
  next h3 =>
    obtain rfl := Option.some.inj htests
    obtain ⟨b1, b2, rfl⟩ := List.length_eq_two.mp hlength
    cases hpasses with
    | cons hb1 hrest =>
      cases hrest with
      | cons hb2 _ =>
        rw [secondOfThree_iff] at hb1
        rw [isTail_iff] at hb2
        rw [charOf, payload, payload, String.utf8EncodeChar, toNat_ofNat_of_scalar (by omega)]
        rw [if_neg (by omega), if_neg (by omega), if_pos (by omega)]
        simp only [List.cons.injEq, and_true]
        exact ⟨ofNat_eq (by omega), ofNat_eq (by omega), ofNat_eq (by omega)⟩
  next h3 =>
  split at htests
  next h4 =>
    obtain rfl := Option.some.inj htests
    obtain ⟨b1, b2, b3, rfl⟩ := List.length_eq_three.mp hlength
    cases hpasses with
    | cons hb1 hrest =>
      cases hrest with
      | cons hb2 hrest =>
        cases hrest with
        | cons hb3 _ =>
          rw [secondOfFour_iff] at hb1
          rw [isTail_iff] at hb2 hb3
          rw [charOf, payload, payload, payload, String.utf8EncodeChar,
            toNat_ofNat_of_scalar (by omega)]
          rw [if_neg (by omega), if_neg (by omega), if_neg (by omega)]
          simp only [List.cons.injEq, and_true]
          exact ⟨ofNat_eq (by omega), ofNat_eq (by omega), ofNat_eq (by omega),
            ofNat_eq (by omega)⟩
  next h4 => cases htests

/-! ## Characters -/

/-- Octets behind a lead that pass all of its tests. -/
def IsSequence (b : UInt8) (t : List UInt8) : Prop :=
  ∃ tests, tests? b = some tests ∧ Passes tests t ∧ t.length = tests.length

theorem IsSequence.of_encodeChar {c : Char} {b : UInt8} {t : List UInt8}
    (h : String.utf8EncodeChar c = b :: t) : IsSequence b t ∧ charOf b t = c := by
  obtain ⟨b', t', tests, hc, htests, hpasses, hlength, hchar⟩ := exists_encodeChar c
  obtain ⟨rfl, rfl⟩ := List.cons.inj (hc.symm.trans h)
  exact ⟨⟨tests, htests, hpasses, hlength⟩, hchar⟩

theorem IsSequence.encodeChar {b : UInt8} {t : List UInt8} (h : IsSequence b t) :
    String.utf8EncodeChar (charOf b t) = b :: t := by
  obtain ⟨tests, htests, hpasses, hlength⟩ := h
  exact encodeChar_charOf htests hpasses hlength

theorem IsSequence.length_eq {b : UInt8} {t t' : List UInt8} (h : IsSequence b t)
    (h' : IsSequence b t') : t.length = t'.length := by
  obtain ⟨tests, htests, -, hlength⟩ := h
  obtain ⟨tests', htests', -, hlength'⟩ := h'
  obtain rfl := Option.some.inj (htests.symm.trans htests')
  rw [hlength, hlength']

theorem Passes.of_prefix {tests : List (UInt8 → Bool)} {t t' : List UInt8} (h : Passes tests t')
    (hstart : t <+: t') : Passes tests t := by
  induction h generalizing t with
  | nil tests =>
    obtain rfl := List.prefix_nil.mp hstart
    exact .nil tests
  | cons hb _ ih =>
    cases t with
    | nil => exact .nil _
    | cons b t =>
      obtain ⟨rfl, hrest⟩ := List.cons_prefix_cons.mp hstart
      exact .cons hb (ih hrest)

/-- Each test is passed by some octet. -/
theorem exists_of_mem_tests? {b : UInt8} {tests : List (UInt8 → Bool)}
    (h : tests? b = some tests) : ∀ test ∈ tests, ∃ x, test x = true := by
  have hthree : ∃ x, secondOfThree b x = true := by
    by_cases hb : b.toNat = 0xE0
    · exact ⟨0xA0, secondOfThree_iff.mpr (by simp [hb])⟩
    · exact ⟨0x80, secondOfThree_iff.mpr (by simp [hb])⟩
  have hfour : ∃ x, secondOfFour b x = true := by
    by_cases hb : b.toNat = 0xF0
    · exact ⟨0x90, secondOfFour_iff.mpr (by simp [hb])⟩
    · exact ⟨0x80, secondOfFour_iff.mpr (by simp [hb])⟩
  have htail : ∃ x, isTail x = true := ⟨0x80, rfl⟩
  unfold tests? at h
  split at h
  · cases h; exact nofun
  split at h
  · cases h
    simpa using htail
  split at h
  · cases h
    simpa using ⟨hthree, htail⟩
  split at h
  · cases h
    simpa using ⟨hfour, htail⟩
  · cases h

/-- Octets that pass the first tests can be followed by others that pass the rest. -/
theorem Passes.exists_all {tests : List (UInt8 → Bool)} {t : List UInt8} (h : Passes tests t)
    (hpassed : ∀ test ∈ tests, ∃ x, test x = true) :
    ∃ t', t <+: t' ∧ Passes tests t' ∧ t'.length = tests.length := by
  induction h with
  | nil tests =>
    induction tests with
    | nil => exact ⟨[], List.prefix_rfl, .nil _, rfl⟩
    | cons test tests ih =>
      obtain ⟨⟨x, hx⟩, hrest⟩ := List.forall_mem_cons.mp hpassed
      obtain ⟨t', -, ht', hlength⟩ := ih hrest
      exact ⟨x :: t', List.nil_prefix, .cons hx ht', congrArg (· + 1) hlength⟩
  | @cons test tests b t hb _ ih =>
    obtain ⟨t', hstart, ht', hlength⟩ := ih (List.forall_mem_cons.mp hpassed).2
    exact ⟨b :: t', List.cons_prefix_cons.mpr ⟨rfl, hstart⟩, .cons hb ht',
      congrArg (· + 1) hlength⟩

theorem begins_cons_iff {b : UInt8} {t : List UInt8} :
    Begins (b :: t) ↔ ∃ tests, tests? b = some tests ∧ Passes tests t := by
  constructor
  · rintro ⟨c, hc⟩
    obtain ⟨b', t', tests, hencode, htests, hpasses, -⟩ := exists_encodeChar c
    rw [hencode, List.cons_prefix_cons] at hc
    obtain ⟨rfl, hstart⟩ := hc
    exact ⟨tests, htests, hpasses.of_prefix hstart⟩
  · rintro ⟨tests, htests, hpasses⟩
    obtain ⟨t', hstart, hall, hlength⟩ := hpasses.exists_all (exists_of_mem_tests? htests)
    refine ⟨charOf b t', ?_⟩
    rw [encodeChar_charOf htests hall hlength]
    exact List.cons_prefix_cons.mpr ⟨rfl, hstart⟩

/-! ## The longest sequence -/

theorem passes_take_passing (tests : List (UInt8 → Bool)) (r : List UInt8) :
    Passes tests (r.take (passing tests r)) := by
  induction tests generalizing r with
  | nil => cases r <;> exact .nil _
  | cons test tests ih =>
    cases r with
    | nil => exact .nil _
    | cons b r =>
      unfold passing
      split
      next hb => exact .cons hb (ih r)
      next => exact .nil _

theorem length_take_passing (tests : List (UInt8 → Bool)) (r : List UInt8) :
    (r.take (passing tests r)).length = passing tests r := by
  induction tests generalizing r with
  | nil => cases r <;> rfl
  | cons test tests ih =>
    cases r with
    | nil => rfl
    | cons b r =>
      unfold passing
      split
      next hb => exact congrArg (· + 1) (ih r)
      next => rfl

theorem Passes.length_le_passing {tests : List (UInt8 → Bool)} {t r : List UInt8}
    (h : Passes tests t) (hstart : t <+: r) : t.length ≤ passing tests r := by
  induction h generalizing r with
  | nil => exact Nat.zero_le _
  | cons hb _ ih =>
    cases r with
    | nil => exact absurd (List.prefix_nil.mp hstart) (List.cons_ne_nil _ _)
    | cons b r =>
      obtain ⟨rfl, hrest⟩ := List.cons_prefix_cons.mp hstart
      rw [passing, if_pos hb]
      exact Nat.succ_le_succ (ih hrest)

theorem passing_le (tests : List (UInt8 → Bool)) (r : List UInt8) :
    passing tests r ≤ tests.length := by
  induction tests generalizing r with
  | nil => cases r <;> exact Nat.le_refl 0
  | cons test tests ih =>
    cases r with
    | nil => exact Nat.zero_le _
    | cons b r =>
      unfold passing
      split
      next => exact Nat.succ_le_succ (ih r)
      next => exact Nat.zero_le _

/-- A character at the front of a lead and the octets behind it. -/
theorem isSequence_of_prefix {c : Char} {b : UInt8} {r : List UInt8}
    (h : String.utf8EncodeChar c <+: b :: r) : ∃ t, t <+: r ∧ IsSequence b t := by
  obtain ⟨b', t, tests, hencode, htests, hpasses, hlength, -⟩ := exists_encodeChar c
  rw [hencode, List.cons_prefix_cons] at h
  obtain ⟨rfl, hstart⟩ := h
  exact ⟨t, hstart, tests, htests, hpasses, hlength⟩

theorem broken_of_tests?_eq_none {b : UInt8} (h : tests? b = none) (r : List UInt8) :
    Broken [b] r where
  not_char c hc := by
    obtain ⟨t, -, tests, htests, -⟩ := isSequence_of_prefix hc
    rw [h] at htests
    cases htests
  begins := .inr rfl
  ne_nil := List.cons_ne_nil _ _
  longest bs hbs hbegins := by
    cases bs with
    | nil => exact Nat.zero_le _
    | cons b' t =>
      obtain ⟨rfl, -⟩ := List.cons_prefix_cons.mp hbs
      obtain ⟨tests, htests, -⟩ := begins_cons_iff.mp hbegins
      rw [h] at htests
      cases htests

theorem broken_of_passing_ne {b : UInt8} {tests : List (UInt8 → Bool)} {r : List UInt8}
    (htests : tests? b = some tests) (hne : passing tests r ≠ tests.length) :
    Broken (b :: r.take (passing tests r)) (r.drop (passing tests r)) where
  not_char c hc := by
    rw [List.cons_append, List.take_append_drop] at hc
    obtain ⟨t, hstart, tests', htests', hpasses, hlength⟩ := isSequence_of_prefix hc
    obtain rfl := Option.some.inj (htests.symm.trans htests')
    have hle := hpasses.length_le_passing hstart
    exact hne (Nat.le_antisymm (passing_le tests r) (hlength ▸ hle))
  begins := .inl (begins_cons_iff.mpr ⟨tests, htests, passes_take_passing tests r⟩)
  ne_nil := List.cons_ne_nil _ _
  longest bs hbs hbegins := by
    rw [List.cons_append, List.take_append_drop] at hbs
    cases bs with
    | nil => exact Nat.zero_le _
    | cons b' t =>
      obtain ⟨rfl, hstart⟩ := List.cons_prefix_cons.mp hbs
      obtain ⟨tests', htests', hpasses⟩ := begins_cons_iff.mp hbegins
      obtain rfl := Option.some.inj (htests.symm.trans htests')
      rw [List.length_cons, List.length_cons, length_take_passing]
      exact Nat.succ_le_succ (hpasses.length_le_passing hstart)

/-- What a lead and the octets behind it read as: the character that is encoded at their front,
or what is broken off there. -/
theorem unit_cases (b : UInt8) (r : List UInt8) :
    (∃ c t rest, r = t ++ rest ∧ String.utf8EncodeChar c = b :: t ∧
      unit b r = (some c, t.length)) ∨
    ∃ t rest, r = t ++ rest ∧ Broken (b :: t) rest ∧ unit b r = (none, t.length) := by
  rw [unit_eq]
  cases htests : tests? b with
  | none => exact .inr ⟨[], r, rfl, broken_of_tests?_eq_none htests r, rfl⟩
  | some tests =>
    have hlength := length_take_passing tests r
    have hr : r = r.take (passing tests r) ++ r.drop (passing tests r) :=
      (List.take_append_drop _ _).symm
    by_cases hall : passing tests r = tests.length
    · have hsequence : IsSequence b (r.take (passing tests r)) :=
        ⟨tests, htests, passes_take_passing tests r, hlength.trans hall⟩
      refine .inl ⟨_, _, _, hr, hsequence.encodeChar, ?_⟩
      rw [hlength]
      dsimp only
      rw [if_pos hall]
    · refine .inr ⟨_, _, hr, broken_of_passing_ne htests hall, ?_⟩
      rw [hlength]
      dsimp only
      rw [if_neg hall]

/-! ## Reading -/

theorem scanFrom_eq (n : Nat) (bs : List UInt8) : scanFrom n bs = scan (bs.drop n) := by
  induction bs generalizing n with
  | nil => cases n <;> rfl
  | cons b r ih =>
    cases n with
    | zero => rfl
    | succ n => exact ih n

theorem scan_cons (b : UInt8) (r : List UInt8) :
    scan (b :: r) = (unit b r).1 :: scan (r.drop (unit b r).2) := by
  rw [scan, scanFrom, scanFrom_eq]

/-- One step of the scan. -/
theorem scan_cases (b : UInt8) (r : List UInt8) :
    (∃ c t rest, r = t ++ rest ∧ String.utf8EncodeChar c = b :: t ∧
      scan (b :: r) = some c :: scan rest) ∨
    ∃ t rest, r = t ++ rest ∧ Broken (b :: t) rest ∧ scan (b :: r) = none :: scan rest := by
  rw [scan_cons]
  rcases unit_cases b r with ⟨c, t, rest, rfl, hencode, hunit⟩ | ⟨t, rest, rfl, hbroken, hunit⟩
  · exact .inl ⟨c, t, rest, rfl, hencode, by rw [hunit, List.drop_left]⟩
  · exact .inr ⟨t, rest, rfl, hbroken, by rw [hunit, List.drop_left]⟩

/-- No encoding begins another one. -/
theorem encodeChar_prefix_free {c c' : Char} {rest rest' : List UInt8}
    (h : String.utf8EncodeChar c ++ rest = String.utf8EncodeChar c' ++ rest') :
    c = c' ∧ rest = rest' := by
  obtain ⟨b, t, -, hc, -⟩ := exists_encodeChar c
  obtain ⟨b', t', -, hc', -⟩ := exists_encodeChar c'
  rw [hc, hc'] at h
  obtain ⟨rfl, htail⟩ := List.cons.inj h
  obtain ⟨hsequence, hchar⟩ := IsSequence.of_encodeChar hc
  obtain ⟨hsequence', hchar'⟩ := IsSequence.of_encodeChar hc'
  obtain ⟨rfl, rfl⟩ := List.append_inj htail (hsequence.length_eq hsequence')
  exact ⟨hchar.symm.trans hchar', rfl⟩

theorem Broken.length_le {front rest front' rest' : List UInt8} (h : Broken front rest)
    (h' : Broken front' rest') (hwhole : front ++ rest = front' ++ rest') :
    front.length ≤ front'.length := by
  rcases h.begins with hbegins | hone
  · exact h'.longest front (hwhole ▸ List.prefix_append _ _) hbegins
  · rw [hone]
    exact List.length_pos_iff.mpr h'.ne_nil

/-- What is broken off is determined. -/
theorem Broken.unique {front rest front' rest' : List UInt8} (h : Broken front rest)
    (h' : Broken front' rest') (hwhole : front ++ rest = front' ++ rest') :
    front = front' ∧ rest = rest' :=
  List.append_inj hwhole (Nat.le_antisymm (h.length_le h' hwhole) (h'.length_le h hwhole.symm))

theorem scan_encodeChar_append (c : Char) (bs : List UInt8) :
    scan (String.utf8EncodeChar c ++ bs) = some c :: scan bs := by
  obtain ⟨b, t, -, hc, -⟩ := exists_encodeChar c
  rw [hc, List.cons_append]
  rcases scan_cases b (t ++ bs) with ⟨c', t', rest, hr, hc', hscan⟩ | ⟨t', rest, hr, hbroken, -⟩
  · have hwhole : String.utf8EncodeChar c ++ bs = String.utf8EncodeChar c' ++ rest := by
      rw [hc, hc', List.cons_append, List.cons_append, hr]
    obtain ⟨rfl, rfl⟩ := encodeChar_prefix_free hwhole
    exact hscan
  · refine absurd ?_ (hbroken.not_char c)
    rw [hc, List.cons_append, ← hr]
    exact List.cons_prefix_cons.mpr ⟨rfl, List.prefix_append _ _⟩

theorem scan_broken_append {front bs : List UInt8} (h : Broken front bs) :
    scan (front ++ bs) = none :: scan bs := by
  obtain ⟨b, t, rfl⟩ := List.exists_cons_of_ne_nil h.ne_nil
  rw [List.cons_append]
  rcases scan_cases b (t ++ bs) with ⟨c, t', rest, hr, hc, -⟩ | ⟨t', rest, hr, hbroken, hscan⟩
  · refine absurd ?_ (h.not_char c)
    rw [hc, List.cons_append, hr]
    exact List.cons_prefix_cons.mpr ⟨rfl, List.prefix_append _ _⟩
  · have hwhole : b :: t ++ bs = b :: t' ++ rest := by
      rw [List.cons_append, List.cons_append, hr]
    obtain ⟨-, rfl⟩ := h.unique hbroken hwhole
    exact hscan

/-- The replacing reader gives the text that octets read as, and no other. -/
theorem reads_iff {bs : List UInt8} {cs : List Char} : Reads bs cs ↔ readLossy bs = cs := by
  constructor
  · intro h
    unfold readLossy
    induction h with
    | nil => rfl
    | char c _ ih => rw [scan_encodeChar_append, List.map_cons, ih, Option.getD_some]
    | broken hbroken _ ih => rw [scan_broken_append hbroken, List.map_cons, ih, Option.getD_none]
  · rintro rfl
    generalize hn : bs.length = n
    induction n using Nat.strong_induction_on generalizing bs with
    | _ n ih =>
      cases bs with
      | nil => exact .nil
      | cons b r =>
        have shorter {t rest : List UInt8} (hr : r = t ++ rest) : rest.length < n := by
          rw [← hn, hr, List.length_cons, List.length_append]
          omega
        rcases scan_cases b r with ⟨c, t, rest, hr, hc, hscan⟩ | ⟨t, rest, hr, hbroken, hscan⟩
        · have hread := Reads.char c (ih _ (shorter hr) rfl)
          rw [readLossy, hscan, List.map_cons, Option.getD_some, hr]
          rwa [hc] at hread
        · have hread := Reads.broken hbroken (ih _ (shorter hr) rfl)
          rw [readLossy, hscan, List.map_cons, Option.getD_none, hr]
          exact hread

-- the lead asks for two octets, and `A` stands where the second of them should
example : readLossy [0xE2, 0x82, 0x41] = ['\ufffd', 'A'] := by decide

/-! ## Well-formed octets -/

theorem encode_cons (c : Char) (cs : List Char) :
    encode (c :: cs) = String.utf8EncodeChar c ++ encode cs := List.flatMap_cons

theorem scan_encode (cs : List Char) : scan (encode cs) = cs.map some := by
  induction cs with
  | nil => rfl
  | cons c cs ih => rw [encode_cons, scan_encodeChar_append, ih, List.map_cons]

theorem encode_of_scan {cs : List Char} {bs : List UInt8} (h : scan bs = cs.map some) :
    encode cs = bs := by
  induction cs generalizing bs with
  | nil =>
    cases bs with
    | nil => rfl
    | cons b r =>
      rw [scan_cons] at h
      cases h
  | cons c cs ih =>
    cases bs with
    | nil => cases h
    | cons b r =>
      rcases scan_cases b r with ⟨c', t, rest, rfl, hc, hscan⟩ | ⟨t, rest, -, -, hscan⟩
      · obtain ⟨hhead, htail⟩ := List.cons.inj (hscan.symm.trans h)
        obtain rfl := Option.some.inj hhead
        rw [encode_cons, hc, ih htail, List.cons_append]
      · cases hscan.symm.trans h

theorem eq_map_some {us : List (Option Char)} (h : us.all Option.isSome = true) :
    us = (us.filterMap id).map some := by
  induction us with
  | nil => rfl
  | cons u us ih =>
    rw [List.all_cons, Bool.and_eq_true, Option.isSome_iff_exists] at h
    obtain ⟨⟨c, rfl⟩, hrest⟩ := h
    exact congrArg (some c :: ·) (ih hrest)

/-- The strict reader undoes the encoding and reads nothing else. -/
theorem read?_eq_some_iff {bs : List UInt8} {cs : List Char} :
    read? bs = some cs ↔ encode cs = bs := by
  constructor
  · intro h
    unfold read? at h
    split at h
    next hall =>
      obtain rfl := Option.some.inj h
      exact encode_of_scan (eq_map_some hall)
    next => cases h
  · rintro rfl
    rw [read?, scan_encode, if_pos (by simp), List.filterMap_map]
    simp

theorem readLossy_encode (cs : List Char) : readLossy (encode cs) = cs :=
  readLossy_of_read? (read?_eq_some_iff.mpr rfl)

theorem wellFormed_iff {bs : List UInt8} : WellFormed bs ↔ ∃ cs, read? bs = some cs :=
  exists_congr fun _ => read?_eq_some_iff.symm

/-- The replacing reader gives a text of the same octets only where they are well formed. -/
theorem encode_readLossy_iff {bs : List UInt8} : encode (readLossy bs) = bs ↔ WellFormed bs := by
  constructor
  · exact fun h => ⟨_, h⟩
  · rintro ⟨cs, rfl⟩
    rw [readLossy_encode]

theorem toList_toUTF8 (s : String) : s.toUTF8.data.toList = encode s.toList := by
  rw [String.toUTF8_eq_toByteArray, ← String.utf8Encode_toList, List.utf8Encode,
    List.toList_data_toByteArray, encode]

end DriverDesk.Text.Utf8
