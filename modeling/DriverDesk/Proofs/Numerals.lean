import Mathlib
import DriverDesk.Proofs.Doubles
import DriverDesk.Proofs.NearestDoubles
import DriverDesk.Proofs.Subjects

/-!
# The grammar of numerals

A numeral is `[+-]? (D+ (. D*)? | . D+) ([eE] [+-]? D+)?`, with `D` a digit: `Spells cs p` says that
a text is one, and which parts it has. The lenient reader finds the longest beginning of a text
without its blanks that spells a number within the doubles, and gives the double nearest to it.
-/

namespace DriverDesk

open Text

namespace Numeral

/-! ## The grammar -/

/-- `D+ (. D*)? | . D+`, with the digits on either side of the point. -/
inductive IsMantissa : List Char → List Char → List Char → Prop where
  | whole {ds : List Char} (hds : IsDigits ds) : IsMantissa ds ds []
  | point {ds fs : List Char} (hds : IsDigits ds) (hfs : ∀ c ∈ fs, c.isDigit = true) :
      IsMantissa (ds ++ '.' :: fs) ds fs
  | fraction {fs : List Char} (hfs : IsDigits fs) : IsMantissa ('.' :: fs) [] fs

/-- `([eE] [+-]? D+)?`, with the sign and the digits. -/
inductive IsPower : List Char → Bool → List Char → Prop where
  | absent : IsPower [] false []
  | present {e : Char} {sign : Sign} {ds : List Char} (he : e = 'e' ∨ e = 'E')
      (hds : IsDigits ds) : IsPower (e :: (sign.chars ++ ds)) (sign == .minus) ds

/-- A numeral and its parts. -/
inductive Spells : List Char → Parts → Prop where
  | intro (sign : Sign) {ms ps whole fraction power : List Char} {negative : Bool}
      (hmantissa : IsMantissa ms whole fraction) (hpower : IsPower ps negative power) :
      Spells (sign.chars ++ (ms ++ ps)) ⟨sign == .minus, whole, fraction, negative, power⟩

/-- An optional sign, an optional point, and a digit. -/
def Begins (cs : List Char) : Prop :=
  ∃ (sign : Sign) (point : List Char) (d : Char) (rest : List Char),
    cs = sign.chars ++ (point ++ d :: rest) ∧ (point = [] ∨ point = ['.']) ∧ d.isDigit = true

/-! ## Reading digits -/

/-- Digits are taken up to the first other character. -/
theorem cut_digits {ds r : List Char} (hds : ∀ c ∈ ds, c.isDigit = true)
    (hr : ∀ c ∈ r.head?, c.isDigit = false) :
    (ds ++ r).takeWhile Char.isDigit = ds ∧ (ds ++ r).dropWhile Char.isDigit = r := by
  rw [List.takeWhile_append_of_pos hds, List.dropWhile_append_of_pos hds]
  cases r with
  | nil => simp
  | cons c r =>
    have hc : c.isDigit = false := hr c rfl
    simp [hc]

theorem isDigits_iff {ds : List Char} :
    (ds.isEmpty || !ds.all Char.isDigit) = false ↔ IsDigits ds := by
  rw [Bool.or_eq_false_iff, Bool.not_eq_false', List.all_eq_true, List.isEmpty_eq_false_iff]
  rfl

theorem power?_eq_some_iff {cs ds : List Char} {negative : Bool} :
    power? cs = some (negative, ds) ↔
      ∃ sign : Sign, cs = sign.chars ++ ds ∧ negative = (sign == .minus) ∧ IsDigits ds := by
  constructor
  · intro h
    obtain ⟨sign, hcs, hsign⟩ := exists_sign cs
    unfold power? at h
    dsimp only at h
    split at h
    · cases h
    next hdigits =>
      obtain ⟨rfl, rfl⟩ := (Prod.mk.injEq ..).mp (Option.some.inj h)
      exact ⟨sign, hcs, hsign, isDigits_iff.mp (Bool.eq_false_iff.mpr hdigits)⟩
  · rintro ⟨sign, rfl, rfl, hds⟩
    have hhead : ∀ c ∈ ds.head?, c ≠ '+' ∧ c ≠ '-' := fun c hc =>
      not_sign_of_isDigit (hds.2 c (List.mem_of_mem_head? hc))
    unfold power?
    rw [takeSign_append hhead]
    dsimp only
    rw [isDigits_iff.mpr hds, if_neg Bool.false_ne_true]

/-! ## Reading mantissas -/

theorem IsPower.head {ps power : List Char} {negative : Bool} (h : IsPower ps negative power) :
    ∀ c ∈ ps.head?, c.isDigit = false ∧ c ≠ '.' := by
  cases h with
  | absent => simp
  | present he hds =>
    rintro c ⟨⟩
    rcases he with rfl | rfl <;> decide

theorem IsMantissa.head {ms whole fraction : List Char} (h : IsMantissa ms whole fraction)
    (r : List Char) : ∀ c ∈ (ms ++ r).head?, c ≠ '+' ∧ c ≠ '-' := by
  have digit {ds : List Char} (hds : IsDigits ds) (r : List Char) :
      ∀ c ∈ (ds ++ r).head?, c ≠ '+' ∧ c ≠ '-' := by
    obtain ⟨hne, hds⟩ := hds
    cases ds with
    | nil => exact absurd rfl hne
    | cons d ds =>
      rintro c ⟨⟩
      exact not_sign_of_isDigit (hds _ List.mem_cons_self)
  cases h with
  | whole hds => exact digit hds r
  | point hds hfs =>
    rw [List.append_assoc]
    exact digit hds _
  | fraction hfs =>
    rintro c ⟨⟩
    decide

theorem takeFraction_of_head {r : List Char} (h : ∀ c ∈ r.head?, c ≠ '.') :
    takeFraction r = ([], r) := by
  unfold takeFraction
  split
  next => exact absurd rfl (h '.' rfl)
  next => rfl

/-- A mantissa is cut off where its digits end. -/
theorem IsMantissa.cut {ms whole fraction r : List Char} (h : IsMantissa ms whole fraction)
    (hr : ∀ c ∈ r.head?, c.isDigit = false ∧ c ≠ '.') :
    (ms ++ r).takeWhile Char.isDigit = whole ∧
      takeFraction ((ms ++ r).dropWhile Char.isDigit) = (fraction, r) := by
  have hdigit : ∀ c ∈ r.head?, c.isDigit = false := fun c hc => (hr c hc).1
  have hpoint {fs : List Char} (r : List Char) :
      ∀ c ∈ ('.' :: (fs ++ r)).head?, c.isDigit = false := by
    rintro c ⟨⟩
    rfl
  cases h with
  | whole hds =>
    obtain ⟨htake, hdrop⟩ := cut_digits hds.2 hdigit
    refine ⟨htake, ?_⟩
    rw [hdrop]
    exact takeFraction_of_head fun c hc => (hr c hc).2
  | point hds hfs =>
    rw [List.append_assoc, List.cons_append]
    obtain ⟨htake, hdrop⟩ := cut_digits hds.2 (hpoint r)
    obtain ⟨htake', hdrop'⟩ := cut_digits hfs hdigit
    refine ⟨htake, ?_⟩
    rw [hdrop]
    exact congrArg₂ Prod.mk htake' hdrop'
  | fraction hfs =>
    obtain ⟨htake, hdrop⟩ := cut_digits hfs.2 hdigit
    exact ⟨rfl, congrArg₂ Prod.mk htake hdrop⟩

/-- What is read as a mantissa is one. -/
theorem exists_isMantissa {cs whole fraction rest : List Char}
    (hwhole : cs.takeWhile Char.isDigit = whole)
    (hfraction : takeFraction (cs.dropWhile Char.isDigit) = (fraction, rest))
    (h : (whole.isEmpty && fraction.isEmpty) = false) :
    ∃ ms, cs = ms ++ rest ∧ IsMantissa ms whole fraction := by
  have hcs := cs.takeWhile_append_dropWhile (p := Char.isDigit)
  have hdigits : ∀ c ∈ whole, c.isDigit = true := by
    subst hwhole
    exact fun c hc => List.mem_takeWhile_imp hc
  rw [hwhole] at hcs
  generalize cs.dropWhile Char.isDigit = r at hcs hfraction
  subst hcs
  unfold takeFraction at hfraction
  split at hfraction
  next r =>
    obtain ⟨rfl, rfl⟩ := (Prod.mk.injEq ..).mp hfraction
    have hr := r.takeWhile_append_dropWhile (p := Char.isDigit)
    have hdigits' : ∀ c ∈ r.takeWhile Char.isDigit, c.isDigit = true :=
      fun c hc => List.mem_takeWhile_imp hc
    by_cases hne : whole = []
    · subst hne
      refine ⟨'.' :: r.takeWhile Char.isDigit, ?_, .fraction ⟨by simpa using h, hdigits'⟩⟩
      rw [List.nil_append, List.cons_append, hr]
    · refine ⟨whole ++ '.' :: r.takeWhile Char.isDigit, ?_, .point ⟨hne, hdigits⟩ hdigits'⟩
      rw [List.append_assoc, List.cons_append, hr]
  next =>
    obtain ⟨rfl, rfl⟩ := (Prod.mk.injEq ..).mp hfraction
    exact ⟨whole, rfl, .whole ⟨by simpa using h, hdigits⟩⟩

/-- A text is read as a numeral if it spells one. -/
theorem parts?_eq_some_iff {cs : List Char} {p : Parts} : parts? cs = some p ↔ Spells cs p := by
  constructor
  · intro h
    obtain ⟨sign, hcs, hsign⟩ := exists_sign cs
    unfold parts? at h
    generalize takeSign cs = taken at h hcs hsign
    obtain ⟨negative, r⟩ := taken
    dsimp only at h hcs hsign
    subst hcs hsign
    generalize hwhole : r.takeWhile Char.isDigit = whole at h
    generalize hfraction : takeFraction (r.dropWhile Char.isDigit) = taken at h
    obtain ⟨fraction, rest⟩ := taken
    dsimp only at h
    split at h
    · cases h
    next hne =>
      obtain ⟨ms, rfl, hmantissa⟩ := exists_isMantissa hwhole hfraction (Bool.eq_false_iff.mpr hne)
      split at h
      next =>
        obtain rfl := Option.some.inj h
        exact .intro sign hmantissa .absent
      next e t =>
        split at h
        next he =>
          obtain ⟨⟨negative, ds⟩, hpower, rfl⟩ := Option.map_eq_some_iff.mp h
          obtain ⟨sign', rfl, rfl, hds⟩ := power?_eq_some_iff.mp hpower
          exact .intro sign hmantissa (.present (by simpa using he) hds)
        next => cases h
  · rintro @⟨sign, ms, ps, whole, fraction, power, negative, hmantissa, hpower⟩
    obtain ⟨htake, hfraction⟩ := hmantissa.cut hpower.head
    have hne : (whole.isEmpty && fraction.isEmpty) = false := by
      cases hmantissa with
      | whole hds => rw [List.isEmpty_eq_false_iff.mpr hds.1, Bool.false_and]
      | point hds hfs => rw [List.isEmpty_eq_false_iff.mpr hds.1, Bool.false_and]
      | fraction hfs => rw [List.isEmpty_eq_false_iff.mpr hfs.1, Bool.and_false]
    unfold parts?
    rw [takeSign_append (hmantissa.head ps)]
    dsimp only
    rw [htake, hfraction]
    dsimp only
    rw [hne, if_neg Bool.false_ne_true]
    cases hpower with
    | absent => rfl
    | @present e sign' _ he hds =>
      have hread := power?_eq_some_iff.mpr ⟨sign', rfl, rfl, hds⟩
      dsimp only
      rw [if_pos (by simpa using he), hread]
      rfl

end Numeral

end DriverDesk
