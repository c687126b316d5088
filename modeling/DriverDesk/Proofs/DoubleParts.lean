import DriverDesk.Decimal.Basic
import Mathlib

/-!
# The parts of a double

A double as the library computes with it is packed into its bits and unpacked from them;
`Binary.ofFloat?` reads the bits directly. Both see the same sign, mantissa and exponent, in
the one form that is canonical, and a finite double is told by them.
-/

namespace DriverDesk

open Float.Model Float.Model.UnpackedFloat

/-- The form in which doubles are given: 53 binary digits, fewer only at the least exponent. -/
structure IsCanonical (m : Nat) (e : Int) : Prop where
  fits : m < 2 ^ 53
  least : -1074 ≤ e
  full : e = -1074 ∨ 2 ^ 52 ≤ m

/-- The finite doubles among the canonical numbers; all others have greater exponents. -/
def Binary.IsDouble (b : Binary) : Prop := IsCanonical b.mantissa b.exponent ∧ b.exponent ≤ 971

/-! ## The fields of the bits -/

theorem toNat_unpackMantissa (b : BitVec Format.binary64.numBits) :
    (unpackMantissa b).toNat = b.toNat % twoTo 52 := by
  rw [unpackMantissa, BitVec.toNat_cast, BitVec.extractLsb, BitVec.extractLsb'_toNat]
  rfl

theorem toNat_unpackExponent (b : BitVec Format.binary64.numBits) :
    (unpackExponent b).toNat = b.toNat / twoTo 52 % twoTo 11 := by
  rw [unpackExponent, BitVec.toNat_cast, BitVec.extractLsb, BitVec.extractLsb'_toNat,
    Nat.shiftRight_eq_div_pow]
  rfl

theorem toNat_unpackSign (b : BitVec Format.binary64.numBits) :
    (unpackSign b).toNat = b.toNat / twoTo 63 := by
  have hb : b.toNat < 2 ^ 64 := b.isLt
  rw [unpackSign, BitVec.toNat_cast, BitVec.extractLsb, BitVec.extractLsb'_toNat,
    Nat.shiftRight_eq_div_pow]
  show b.toNat / 2 ^ 63 % 2 ^ 1 = b.toNat / 2 ^ 63
  omega

theorem negative_ofBitVec (s : BitVec 1) : (Sign.ofBitVec s == .negative) = (s.toNat == 1) := by
  have hs : s.toNat < 2 := s.isLt
  unfold Sign.ofBitVec
  split
  next h => rw [h]; rfl
  next h =>
    have hne : s.toNat ≠ 0 := fun h' => h (BitVec.eq_of_toNat_eq h')
    obtain hone : s.toNat = 1 := by omega
    rw [hone]
    rfl

/-- The leading digit is not among the bits. -/
theorem toNat_one_append (m : BitVec 52) : (1#1 ++ m).toNat = twoTo 52 + m.toNat := by
  rw [BitVec.toNat_append, ← Nat.shiftLeft_add_eq_or_of_lt m.isLt]
  rfl

theorem toNat_packComponents (s : Sign) (e : BitVec 11) (m : BitVec 52) :
    (packComponents .binary64 s e m).toNat =
      2 ^ 63 * s.toBitVec.toNat + 2 ^ 52 * e.toNat + m.toNat := by
  show (s.toBitVec ++ e ++ m : BitVec 64).toNat = _
  rw [BitVec.toNat_append, ← Nat.shiftLeft_add_eq_or_of_lt m.isLt, BitVec.toNat_append,
    ← Nat.shiftLeft_add_eq_or_of_lt e.isLt, Nat.shiftLeft_eq, Nat.shiftLeft_eq]
  omega

theorem exists_fields (x : Float) :
    ∃ s e m, s < 2 ∧ e < 2 ^ 11 ∧ m < 2 ^ 52 ∧ x.toBits.toNat = 2 ^ 63 * s + 2 ^ 52 * e + m := by
  have hx : x.toBits.toNat < 2 ^ 64 := x.toBits.toBitVec.isLt
  exact ⟨x.toBits.toNat / 2 ^ 63, x.toBits.toNat / 2 ^ 52 % 2 ^ 11, x.toBits.toNat % 2 ^ 52,
    by omega, by omega, by omega, by omega⟩

theorem eq_of_toBits {x y : Float} (h : x.toBits.toNat = y.toBits.toNat) : x = y := by
  obtain ⟨⟨x, _⟩⟩ := x
  obtain ⟨⟨y, _⟩⟩ := y
  obtain rfl : x = y := UInt64.toNat_inj.mp h
  rfl

namespace Binary

/-! ## Reading -/

/-- The parts of an unpacked double; none if it is infinite or undefined. -/
def ofUnpacked? : UnpackedFloat → Option Binary
  | .zero s => some ⟨s == .negative, 0, -1074⟩
  | .finite s m e _ => some ⟨s == .negative, m, e⟩
  | .infinity _ | .notANumber => none

theorem ofFloat?_eq (x : Float) : ofFloat? x = ofUnpacked? x.toModel.unpack := by
  have hfraction := toNat_unpackMantissa x.toBits.toBitVec
  have hfield := toNat_unpackExponent x.toBits.toBitVec
  have hsign := negative_ofBitVec (@unpackSign .binary64 x.toBits.toBitVec)
  rw [toNat_unpackSign] at hsign
  show _ = ofUnpacked? (UnpackedFloat.unpack .binary64 x.toBits.toBitVec)
  unfold ofFloat? UnpackedFloat.unpack
  dsimp only
  rw [← UInt64.toNat_toBitVec, ← hfraction, ← hfield, ← hsign]
  generalize @unpackExponent .binary64 x.toBits.toBitVec = field
  have hspecial : field = -1#11 ↔ field.toNat = 2047 := by
    rw [← BitVec.toNat_inj]
    rfl
  have hlow : field = 0#11 ↔ field.toNat = 0 := by
    rw [← BitVec.toNat_inj]
    rfl
  by_cases hinfinite : field.toNat = 2047
  · rw [if_pos hinfinite, if_pos (hspecial.mpr hinfinite)]
    split <;> rfl
  rw [if_neg hinfinite, if_neg (mt hspecial.mp hinfinite)]
  by_cases hsmall : field.toNat = 0
  · rw [if_pos hsmall, if_pos (hlow.mpr hsmall)]
    split
    next hzero => rw [hzero]; rfl
    next => rw [hsmall]; rfl
  · rw [if_neg hsmall, if_neg (mt hlow.mp hsmall)]
    show _ = some (Binary.mk _ (1#1 ++ @unpackMantissa .binary64 _).toNat _)
    rw [toNat_one_append]
    rfl

/-- The parts of a double by the three fields of its bits. -/
theorem ofFloat?_of_fields {x : Float} {s e m : Nat} (he : e < 2 ^ 11) (hm : m < 2 ^ 52)
    (hx : x.toBits.toNat = 2 ^ 63 * s + 2 ^ 52 * e + m) :
    ofFloat? x = if e = 2047 then none
      else if e = 0 then some ⟨s == 1, m, -1074⟩
      else some ⟨s == 1, 2 ^ 52 + m, (e : Int) - 1075⟩ := by
  have hsign : (2 ^ 63 * s + 2 ^ 52 * e + m) / Nat.pow 2 63 = s := by
    show _ / 2 ^ 63 = s
    omega
  have hfield : (2 ^ 63 * s + 2 ^ 52 * e + m) / Nat.pow 2 52 % Nat.pow 2 11 = e := by
    show _ / 2 ^ 52 % 2 ^ 11 = e
    omega
  have hfraction : (2 ^ 63 * s + 2 ^ 52 * e + m) % Nat.pow 2 52 = m := by
    show _ % 2 ^ 52 = m
    omega
  unfold ofFloat?
  dsimp only
  rw [hx, hsign, hfield, hfraction]
  rfl

/-- The parts of a finite double are canonical, and they tell its bits. -/
theorem of_ofFloat? {x : Float} {b : Binary} (h : ofFloat? x = some b) :
    b.IsDouble ∧ x.toBits.toNat = 2 ^ 63 * b.negative.toNat +
      if b.mantissa < 2 ^ 52 then b.mantissa
      else 2 ^ 52 * (b.exponent + 1075).toNat + (b.mantissa - 2 ^ 52) := by
  obtain ⟨s, e, m, hs, he, hm, hbits⟩ := exists_fields x
  have hsign : (s == 1).toNat = s := by
    obtain rfl | rfl : s = 0 ∨ s = 1 := by omega
    · rfl
    · rfl
  rw [ofFloat?_of_fields he hm hbits] at h
  split at h
  · cases h
  split at h
  · obtain rfl := Option.some.inj h
    dsimp only
    rw [hsign, if_pos hm]
    exact ⟨⟨⟨by dsimp only; omega, Int.le_refl _, .inl rfl⟩, by dsimp only; omega⟩, by omega⟩
  · obtain rfl := Option.some.inj h
    dsimp only
    rw [hsign, if_neg (by omega)]
    exact ⟨⟨⟨by dsimp only; omega, by dsimp only; omega, .inr (by dsimp only; omega)⟩,
      by dsimp only; omega⟩, by omega⟩

theorem isDouble_of_ofFloat? {x : Float} {b : Binary} (h : ofFloat? x = some b) : b.IsDouble :=
  (of_ofFloat? h).1

/-- Finite doubles with the same parts are the same. -/
theorem ofFloat?_inj {x y : Float} {b : Binary} (hx : ofFloat? x = some b)
    (hy : ofFloat? y = some b) : x = y :=
  eq_of_toBits ((of_ofFloat? hx).2.trans (of_ofFloat? hy).2.symm)

/-! ## Writing -/

theorem ofFloat?_components {x : Float} {s : Sign} {e : BitVec 11} {m : BitVec 52}
    (hx : x.toBits.toBitVec = packComponents .binary64 s e m) :
    ofFloat? x = if e.toNat = 2047 then none
      else if e.toNat = 0 then some ⟨s == .negative, m.toNat, -1074⟩
      else some ⟨s == .negative, 2 ^ 52 + m.toNat, (e.toNat : Int) - 1075⟩ := by
  have hsign : (s.toBitVec.toNat == 1) = (s == .negative) := by cases s <;> rfl
  have hbits : x.toBits.toNat = _ := (congrArg BitVec.toNat hx).trans (toNat_packComponents s e m)
  rw [ofFloat?_of_fields e.isLt m.isLt hbits, hsign]

/-- A double beyond the greatest exponent becomes infinite. -/
theorem ofFloat?_pack_beyond {s : Sign} {m : Nat} {e : Int} (hm : 0 < m) (he : 972 ≤ e) :
    ofFloat? (.ofModel (Float.Model.pack (.finite s m e hm))) = none := by
  have hbits : (Float.ofModel (Float.Model.pack (.finite s m e hm))).toBits.toBitVec =
      UnpackedFloat.pack .binary64 (.finite s m e hm) := rfl
  rw [UnpackedFloat.pack] at hbits
  dsimp only at hbits
  rw [if_pos (by show 2 ^ 11 ≤ (e + 1023 + 52).toNat + 1; omega)] at hbits
  exact ofFloat?_components hbits

theorem ofFloat?_pack_finite {s : Sign} {m : Nat} {e : Int} (hm : 0 < m) (h : IsCanonical m e)
    (he : e ≤ 971) :
    ofFloat? (.ofModel (Float.Model.pack (.finite s m e hm))) = some ⟨s == .negative, m, e⟩ := by
  obtain ⟨hfits, hleast, hfull⟩ := h
  have hbiased : (e + (Format.binary64.exponentBias : Int) +
      (Format.binary64.mantissaBitsWithoutImplicit : Int)).toNat = (e + 1075).toNat := by
    show (e + 1023 + 52).toNat = _
    omega
  have hdigits : m.log2 + 1 = Format.binary64.mantissaBits ↔ 2 ^ 52 ≤ m := by
    have hmost := (Nat.log2_lt (k := 53) (by omega : m ≠ 0)).mpr hfits
    rw [← Nat.le_log2 (by omega)]
    show m.log2 + 1 = 53 ↔ _
    omega
  have hbits : (Float.ofModel (Float.Model.pack (.finite s m e hm))).toBits.toBitVec =
      UnpackedFloat.pack .binary64 (.finite s m e hm) := rfl
  rw [UnpackedFloat.pack] at hbits
  dsimp only at hbits
  rw [hbiased, if_neg (by show ¬ 2 ^ 11 ≤ _; omega)] at hbits
  by_cases hbig : 2 ^ 52 ≤ m
  · have hfraction : 2 ^ 52 + (BitVec.ofNat 52 m).toNat = m := by
      rw [BitVec.toNat_ofNat]
      omega
    have hfield : (BitVec.ofNat 11 (e + 1075).toNat).toNat = (e + 1075).toNat := by
      rw [BitVec.toNat_ofNat]
      omega
    rw [if_pos (hdigits.mpr hbig)] at hbits
    have hread := ofFloat?_components hbits
    rwa [hfield, if_neg (by omega), if_neg (by omega), hfraction,
      show ((e + 1075).toNat : Int) - 1075 = e by omega] at hread
  · have hfraction : (BitVec.ofNat 52 m).toNat = m := by
      rw [BitVec.toNat_ofNat]
      omega
    obtain rfl : e = -1074 := by omega
    rw [if_neg (mt hdigits.mp hbig)] at hbits
    have hread := ofFloat?_components hbits
    rwa [hfraction] at hread

/-- A double that is written is read back. -/
theorem ofFloat?_pack {u : UnpackedFloat} (h : ∀ b, ofUnpacked? u = some b → b.IsDouble) :
    ofFloat? (.ofModel (Float.Model.pack u)) = ofUnpacked? u := by
  cases u with
  | zero s => exact ofFloat?_components (s := s) (e := 0) (m := 0) rfl
  | infinity s => exact ofFloat?_components (s := s) (e := -1) (m := 0) rfl
  | notANumber => exact ofFloat?_components (s := .positive) (e := -1) (m := 1 <<< 51) rfl
  | finite s m e hm => exact ofFloat?_pack_finite hm (h _ rfl).1 (h _ rfl).2

/-! ## Signs -/

/-- The number with the other sign. -/
def negated (b : Binary) : Binary := { b with negative := !b.negative }

theorem ofUnpacked?_neg (u : UnpackedFloat) : ofUnpacked? u.neg = (ofUnpacked? u).map negated := by
  have hsign (s : Sign) : (-s == .negative) = !(s == .negative) := by cases s <;> rfl
  cases u with
  | zero s => exact congrArg some (congrArg (Binary.mk · 0 (-1074)) (hsign s))
  | finite s m e hm => exact congrArg some (congrArg (Binary.mk · m e) (hsign s))
  | infinity s => rfl
  | notANumber => rfl

theorem ofFloat?_neg (x : Float) : ofFloat? (-x) = (ofFloat? x).map negated := by
  have hneg : -x = .ofModel (Float.Model.pack x.toModel.unpack.neg) := rfl
  rw [hneg, ofFloat?_pack, ofUnpacked?_neg, ← ofFloat?_eq]
  intro b hb
  rw [ofUnpacked?_neg, ← ofFloat?_eq, Option.map_eq_some_iff] at hb
  obtain ⟨c, hc, rfl⟩ := hb
  exact (isDouble_of_ofFloat? hc : c.IsDouble)

/-- What the library computes with for a positive double. -/
theorem unpack_of_ofFloat? {x : Float} {m : Nat} {e : Int} (h : ofFloat? x = some ⟨false, m, e⟩)
    (hm : 0 < m) : x.toModel.unpack = .finite .positive m e hm := by
  rw [ofFloat?_eq] at h
  cases hu : x.toModel.unpack with
  | zero s =>
    rw [hu] at h
    obtain ⟨-, rfl, -⟩ := (Binary.mk.injEq ..).mp (Option.some.inj h)
    exact absurd hm (Nat.lt_irrefl 0)
  | finite s m' e' hm' =>
    rw [hu] at h
    obtain ⟨hs, rfl, rfl⟩ := (Binary.mk.injEq ..).mp (Option.some.inj h)
    cases s with
    | positive => rfl
    | negative => cases hs
  | infinity s => rw [hu] at h; cases h
  | notANumber => rw [hu] at h; cases h

end Binary

end DriverDesk
