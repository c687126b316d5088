import DriverDesk.Color
import DriverDesk.Proofs.Subjects

/-!
# The notation of colours

`Spells` relates hexadecimal digits to the channels that they write, pair by pair. It has the way
a pair may be written as a parameter: by two digits, or also by a plus sign and one digit, which
the reader of a number lets through.
-/

namespace DriverDesk

namespace Text

/-! ## Slices of ASCII texts -/

variable {cs : List Char}

theorem isAscii_iff : isAscii cs = true ↔ ∀ c ∈ cs, c.toNat < 0x80 := by
  simp [isAscii]

theorem utf8Size_of_lt {c : Char} (h : c.toNat < 0x80) : c.utf8Size = 1 :=
  Char.utf8Size_eq_one_iff.mpr (UInt32.le_iff_toNat_le.mpr (Nat.le_of_lt_succ h))

theorem octetCount_of_isAscii (h : isAscii cs = true) : octetCount cs = cs.length := by
  rw [isAscii_iff] at h
  induction cs with
  | nil => rfl
  | cons c cs ih =>
    obtain ⟨hc, hcs⟩ := List.forall_mem_cons.mp h
    rw [octetCount, ih hcs, utf8Size_of_lt hc, List.length_cons, Nat.add_comm]

theorem cutAt?_of_isAscii {front behind : List Char} (h : isAscii front = true) :
    cutAt? front.length (front ++ behind) = some (front, behind) := by
  rw [isAscii_iff] at h
  induction front with
  | nil => unfold cutAt?; rfl
  | cons c front ih =>
    obtain ⟨hc, hfront⟩ := List.forall_mem_cons.mp h
    rw [List.cons_append, List.length_cons, cutAt?, utf8Size_of_lt hc, if_pos (by omega),
      Nat.add_sub_cancel, ih hfront, Option.map_some]

theorem slice?_of_isAscii {front between behind : List Char}
    (h : isAscii (front ++ between ++ behind) = true) :
    slice? (front ++ between ++ behind) front.length (front.length + between.length) =
      some between := by
  simp only [isAscii, List.all_append, Bool.and_eq_true] at h
  obtain ⟨⟨hfront, hbetween⟩, -⟩ := h
  rw [slice?, if_neg (by omega), List.append_assoc, cutAt?_of_isAscii hfront,
    Nat.add_sub_cancel_left]
  dsimp only [bind, Option.bind]
  rw [cutAt?_of_isAscii hbetween]

end Text

namespace Hex

/-! ## Digits -/

/-- A character is the digit of a value, in one letter case or the other. -/
def IsDigit (c : Char) (n : Nat) : Prop :=
  "0123456789abcdef".toList[n]? = some c ∨ "0123456789ABCDEF".toList[n]? = some c

instance (c : Char) (n : Nat) : Decidable (IsDigit c n) := inferInstanceAs (Decidable (_ ∨ _))

theorem IsDigit.lt {c : Char} {n : Nat} (h : IsDigit c n) : n < 16 := by
  rcases h with h | h <;> exact (List.getElem?_eq_some_iff.mp h).1

theorem digit?_lower : ∀ n : Fin 16, digit? ("0123456789abcdef".toList[n]) = some n.val := by
  decide

theorem digit?_upper : ∀ n : Fin 16, digit? ("0123456789ABCDEF".toList[n]) = some n.val := by
  decide

theorem isDigit_of_digit? : ∀ k < 0x80, ∀ n ∈ digit? (Char.ofNat k), IsDigit (Char.ofNat k) n := by
  decide +kernel

theorem digit?_eq_none_of_le {c : Char} (h : 0x80 ≤ c.toNat) : digit? c = none := by
  have hbeyond : ∀ d : Char, d.toNat < 0x80 → decide (c ≤ d) = false := by
    intro d hd
    rw [decide_eq_false_iff_not, Char.le_def, UInt32.le_iff_toNat_le]
    exact Nat.not_le.mpr (Nat.lt_of_lt_of_le hd h)
  simp only [digit?, hbeyond '9' (by decide), hbeyond 'f' (by decide), hbeyond 'F' (by decide),
    Bool.and_false, Bool.false_eq_true, if_false]

theorem digit?_eq_some_iff {c : Char} {n : Nat} : digit? c = some n ↔ IsDigit c n := by
  constructor
  · intro h
    have hc : c.toNat < 0x80 := Nat.lt_of_not_le fun hle => by
      rw [digit?_eq_none_of_le hle] at h
      cases h
    have hsmall := isDigit_of_digit? c.toNat hc n
    rw [Char.ofNat_toNat] at hsmall
    exact hsmall h
  · rintro (h | h)
    · obtain ⟨hn, rfl⟩ := List.getElem?_eq_some_iff.mp h
      exact digit?_lower ⟨n, hn⟩
    · obtain ⟨hn, rfl⟩ := List.getElem?_eq_some_iff.mp h
      exact digit?_upper ⟨n, hn⟩

theorem IsDigit.toNat_lt {c : Char} {n : Nat} (h : IsDigit c n) : c.toNat < 0x80 :=
  Nat.lt_of_not_le fun hle => by
    cases (digit?_eq_none_of_le hle).symm.trans (digit?_eq_some_iff.mpr h)

theorem not_isDigit_plus (n : Nat) : ¬IsDigit '+' n := fun h => by
  cases (show digit? '+' = none by decide).symm.trans (digit?_eq_some_iff.mpr h)

theorem digit?_toLower_of_lt :
    ∀ k < 0x80, digit? (Char.ofNat k).toLower = digit? (Char.ofNat k) := by
  decide +kernel

/-- The letter case of a digit does not matter. -/
theorem digit?_toLower (c : Char) : digit? c.toLower = digit? c := by
  rcases Nat.lt_or_ge c.toNat 0x80 with hc | hc
  · have hsmall := digit?_toLower_of_lt c.toNat hc
    rwa [Char.ofNat_toNat] at hsmall
  · rw [Text.toLower_eq_self (by omega)]

/-! ## Pairs of digits -/

/-- A channel written by two digits. -/
def Digits (a b : Char) (v : UInt8) : Prop :=
  ∃ high low, IsDigit a high ∧ IsDigit b low ∧ v.toNat = 16 * high + low

/-- A channel as the reader of a number takes it: by two digits, or by a plus sign and one. -/
def Signed (a b : Char) (v : UInt8) : Prop := Digits a b v ∨ a = '+' ∧ IsDigit b v.toNat

theorem octet?_eq_some_iff {cs : List Char} {v : UInt8} :
    octet? cs = some v ↔ dropPlus cs ≠ [] ∧ value? (dropPlus cs) = some v.toNat := by
  unfold octet?
  dsimp only
  generalize dropPlus cs = ds
  cases ds with
  | nil => exact ⟨nofun, fun h => absurd rfl h.1⟩
  | cons d ds =>
    cases hvalue : value? (d :: ds) with
    | none => exact ⟨nofun, fun h => nomatch h.2⟩
    | some n =>
      change (if n < 256 then some (UInt8.ofNat n) else none) = some v ↔ _
      have hlt : v.toNat < 256 := v.toNat_lt
      split
      next hn =>
        rw [Option.some.injEq, Option.some.injEq, ← UInt8.toNat_inj, UInt8.toNat_ofNat_of_lt' hn]
        exact ⟨fun h => ⟨List.cons_ne_nil d ds, h⟩, And.right⟩
      next hn =>
        rw [Option.some.injEq]
        exact ⟨nofun, fun h => by omega⟩

theorem value?_singleton (a : Char) : value? [a] = digit? a := by
  unfold value?
  cases h : digit? a <;> simp [h]

theorem value?_pair {a b : Char} {n : Nat} : value? [a, b] = some n ↔
    ∃ high low, IsDigit a high ∧ IsDigit b low ∧ n = 16 * high + low := by
  simp only [← digit?_eq_some_iff]
  unfold value?
  cases ha : digit? a <;> cases hb : digit? b <;> simp [ha, hb, eq_comm]

theorem octet?_pair {a b : Char} {v : UInt8} : octet? [a, b] = some v ↔ Signed a b v := by
  rw [octet?_eq_some_iff]
  by_cases hplus : a = '+'
  · subst hplus
    have hdigits : ¬Digits '+' b v := fun ⟨high, _, hhigh, _⟩ => not_isDigit_plus high hhigh
    simp only [dropPlus, value?_singleton, digit?_eq_some_iff, Signed, hdigits, false_or, true_and]
    exact and_iff_right (List.cons_ne_nil b [])
  · have hdrop : dropPlus [a, b] = [a, b] := by
      unfold dropPlus
      split
      next heq => exact absurd (List.cons.inj heq).1 hplus
      next => rfl
    rw [hdrop, value?_pair]
    simp [Signed, Digits, hplus]

/-- Characters write channels, a pair of them for each channel. -/
inductive Spells (P : Char → Char → UInt8 → Prop) : List Char → List UInt8 → Prop where
  | nil : Spells P [] []
  | cons {a b : Char} {v : UInt8} {ds : List Char} {vs : List UInt8} (pair : P a b v)
      (rest : Spells P ds vs) : Spells P (a :: b :: ds) (v :: vs)

variable {ds : List Char} {vs : List UInt8}

theorem Spells.imp {P Q : Char → Char → UInt8 → Prop} (h : Spells P ds vs)
    (himp : ∀ a ∈ ds, ∀ b v, P a b v → Q a b v) : Spells Q ds vs := by
  induction h with
  | nil => exact .nil
  | cons pair _ ih =>
    exact .cons (himp _ List.mem_cons_self _ _ pair) (ih fun a ha =>
      himp a (List.mem_cons_of_mem _ (List.mem_cons_of_mem _ ha)))

theorem Spells.length_eq {P : Char → Char → UInt8 → Prop} (h : Spells P ds vs) :
    ds.length = 2 * vs.length := by
  induction h with
  | nil => rfl
  | cons _ _ ih =>
    simp only [List.length_cons, ih]
    omega

/-- Without a plus sign there are digits only. -/
theorem spells_signed_iff (hplus : '+' ∉ ds) : Spells Signed ds vs ↔ Spells Digits ds vs := by
  constructor
  · intro h
    refine h.imp fun a ha b v hv => ?_
    rcases hv with hv | ⟨rfl, -⟩
    · exact hv
    · exact absurd ha hplus
  · exact fun h => h.imp fun _ _ _ _ => .inl

/-- A character is a digit of some value. -/
def IsHex (c : Char) : Prop := ∃ n, IsDigit c n

theorem Spells.isHex (h : Spells Digits ds vs) : ∀ c ∈ ds, IsHex c := by
  induction h with
  | nil => nofun
  | cons pair _ ih =>
    obtain ⟨high, low, hhigh, hlow, -⟩ := pair
    exact List.forall_mem_cons.mpr ⟨⟨high, hhigh⟩, List.forall_mem_cons.mpr ⟨⟨low, hlow⟩, ih⟩⟩

/-- An even number of digits writes channels, half as many. -/
theorem exists_spells {n : Nat} (hlen : ds.length = 2 * n) (h : ∀ c ∈ ds, IsHex c) :
    ∃ vs, vs.length = n ∧ Spells Digits ds vs := by
  induction n generalizing ds with
  | zero =>
    obtain rfl := List.length_eq_zero_iff.mp hlen
    exact ⟨[], rfl, .nil⟩
  | succ n ih =>
    match ds, hlen, h with
    | a :: b :: ds, hlen, h =>
      obtain ⟨⟨high, hhigh⟩, h⟩ := List.forall_mem_cons.mp h
      obtain ⟨⟨low, hlow⟩, h⟩ := List.forall_mem_cons.mp h
      obtain ⟨vs, hvs, hspells⟩ := ih (by simp only [List.length_cons] at hlen; omega) h
      have hvalue : (UInt8.ofNat (16 * high + low)).toNat = 16 * high + low :=
        UInt8.toNat_ofNat_of_lt' (by have := hhigh.lt; have := hlow.lt; simp [UInt8.size]; omega)
      exact ⟨_ :: vs, by rw [List.length_cons, hvs], .cons ⟨high, low, hhigh, hlow, hvalue⟩ hspells⟩

theorem Spells.isAscii (h : Spells Signed ds vs) : Text.isAscii ds = true := by
  rw [Text.isAscii_iff]
  induction h with
  | nil => nofun
  | cons pair _ ih =>
    rcases pair with ⟨_, _, hhigh, hlow, -⟩ | ⟨rfl, hlow⟩
    · exact List.forall_mem_cons.mpr ⟨hhigh.toNat_lt, List.forall_mem_cons.mpr ⟨hlow.toNat_lt, ih⟩⟩
    · exact List.forall_mem_cons.mpr ⟨by decide, List.forall_mem_cons.mpr ⟨hlow.toNat_lt, ih⟩⟩

/-! ## Channels one after the other -/

/-- The channel that two characters write. -/
def pair (a b : Char) : Except Fault UInt8 :=
  match octet? [a, b] with
  | none => .error .malformed
  | some v => .ok v

/-- The channels that characters write, pair by pair. -/
def pairs : List Char → Except Fault (List UInt8)
  | [] => .ok []
  | [_] => .error .malformed
  | a :: b :: ds => do
    let v ← pair a b
    let vs ← pairs ds
    .ok (v :: vs)

theorem pair_eq_ok_iff {a b : Char} {v : UInt8} : pair a b = .ok v ↔ Signed a b v := by
  rw [← octet?_pair, pair]
  cases octet? [a, b] with
  | none => exact ⟨nofun, nofun⟩
  | some w =>
    exact ⟨fun h => congrArg some (Except.ok.inj h), fun h => congrArg _ (Option.some.inj h)⟩

theorem pairs_eq_ok_iff : pairs ds = .ok vs ↔ Spells Signed ds vs := by
  constructor
  · intro h
    fun_induction pairs ds generalizing vs with
    | case1 =>
      cases h
      exact .nil
    | case2 => cases h
    | case3 a b ds ih =>
      cases hv : pair a b with
      | error => rw [hv] at h; cases h
      | ok v =>
        cases hws : pairs ds with
        | error => rw [hv, hws] at h; cases h
        | ok ws =>
          rw [hv, hws] at h
          cases h
          exact .cons (pair_eq_ok_iff.mp hv) (ih hws)
  · intro h
    induction h with
    | nil => rfl
    | cons hv _ ih =>
      rw [pairs, pair_eq_ok_iff.mpr hv, ih]
      rfl

theorem pairs_bind_eq_ok_iff {α : Type} {f : List UInt8 → Except Fault α} {x : α} :
    pairs ds >>= f = .ok x ↔ ∃ vs, Spells Signed ds vs ∧ f vs = .ok x := by
  simp only [← pairs_eq_ok_iff]
  cases pairs ds with
  | error fault => exact ⟨nofun, fun ⟨_, h, _⟩ => nomatch h⟩
  | ok vs => exact ⟨fun h => ⟨vs, rfl, h⟩, fun ⟨_, h, hx⟩ => Except.ok.inj h ▸ hx⟩

theorem pair_ne_slice (a b : Char) (first last : Nat) : pair a b ≠ .error (.slice first last) := by
  unfold pair
  split <;> nofun

theorem pairs_ne_slice (ds : List Char) (first last : Nat) :
    pairs ds ≠ .error (.slice first last) := by
  fun_induction pairs ds with
  | case1 => nofun
  | case2 => nofun
  | case3 a b ds ih =>
    have hpair := pair_ne_slice a b first last
    cases hv : pair a b with
    | error fault =>
      rw [hv] at hpair
      exact fun h => hpair (congrArg _ (Except.error.inj h))
    | ok v =>
      cases hvs : pairs ds with
      | error fault =>
        rw [hvs] at ih
        exact fun h => ih (congrArg _ (Except.error.inj h))
      | ok vs => nofun

theorem pairs_bind_ne_slice {α : Type} {f : List UInt8 → Except Fault α} {first last : Nat}
    (hf : ∀ vs, f vs ≠ .error (.slice first last)) :
    pairs ds >>= f ≠ .error (.slice first last) := by
  have hpairs := pairs_ne_slice ds first last
  cases h : pairs ds with
  | error fault =>
    rw [h] at hpairs
    exact fun h => hpairs (congrArg _ (Except.error.inj h))
  | ok vs => exact hf vs

/-- Where two characters are in an ASCII text, there is a slice of them. -/
theorem channelAt_append (front behind : List Char) {a b : Char}
    (h : Text.isAscii (front ++ [a, b] ++ behind) = true) :
    channelAt (front ++ [a, b] ++ behind) front.length = pair a b := by
  have hslice := Text.slice?_of_isAscii h
  unfold channelAt
  rw [show front.length + 2 = front.length + [a, b].length from rfl, hslice]
  rfl

/-- The characters behind the number sign of a text without the blanks around it. -/
def Behind (s : String) (ds : List Char) : Prop := Text.trim s.toList = '#' :: ds

theorem body_of_behind {s : String} (h : Behind s ds) : body s = .ok ds := by
  rw [body, show Text.trim s.toList = '#' :: ds from h]
  rfl

theorem body_cases (s : String) :
    (∃ ds, Behind s ds ∧ body s = .ok ds) ∨ body s = .error .malformed := by
  unfold body
  split
  next ds hds => exact .inl ⟨ds, hds, rfl⟩
  next => exact .inr rfl

theorem toOption_eq_some_iff {α : Type} {x : Except Fault α} {a : α} :
    x.toOption = some a ↔ x = .ok a := by
  cases x with
  | error => exact ⟨nofun, nofun⟩
  | ok b => exact ⟨fun h => congrArg _ (Option.some.inj h), fun h => congrArg _ (Except.ok.inj h)⟩

/-- What a reader makes of a text: the colour of the pairs behind the number sign, or nothing. -/
def Takes {α : Type} (s : String) (f : List UInt8 → Except Fault α) (x : Except Fault α) : Prop :=
  (∃ ds, Behind s ds ∧ x = pairs ds >>= f) ∨ x = .error .malformed

namespace Takes

variable {α : Type} {s : String} {f : List UInt8 → Except Fault α} {x : Except Fault α} {c : α}

theorem exists_spells (h : Takes s f x) (hx : x = .ok c) :
    ∃ ds vs, Behind s ds ∧ Spells Signed ds vs ∧ f vs = .ok c := by
  rcases h with ⟨ds, hds, hread⟩ | hread
  · rw [hread, pairs_bind_eq_ok_iff] at hx
    obtain ⟨vs, hspells, hvs⟩ := hx
    exact ⟨ds, vs, hds, hspells, hvs⟩
  · rw [hread] at hx
    cases hx

theorem ne_slice {first last : Nat} (h : Takes s f x)
    (hf : ∀ vs, f vs ≠ .error (.slice first last)) : x ≠ .error (.slice first last) := by
  rcases h with ⟨ds, -, hread⟩ | hread
  · rw [hread]
    exact pairs_bind_ne_slice hf
  · rw [hread]
    nofun

end Takes

theorem Behind.unique {s : String} {ds ds' : List Char} (h : Behind s ds) (h' : Behind s ds') :
    ds = ds' := (List.cons.inj (h.symm.trans h')).2

end Hex

open Hex

/-! ## Opaque colours -/

namespace Rgb

variable {s : String} {ds : List Char} {c : Rgb}

/-- The colour of its channels. -/
def ofChannels : List UInt8 → Except Hex.Fault Rgb
  | [r, g, b] => .ok ⟨r, g, b⟩
  | _ => .error .malformed

/-- Six characters of ASCII are read pair by pair. -/
theorem read_of_behind (h : Behind s ds) (hlen : ds.length = 6) (hascii : Text.isAscii ds = true) :
    read s = pairs ds >>= ofChannels := by
  match ds, hlen with
  | [a, b, c, d, e, f], _ =>
    have hcount := Text.octetCount_of_isAscii hascii
    have hr : channelAt [a, b, c, d, e, f] 0 = pair a b := channelAt_append [] [c, d, e, f] hascii
    have hg : channelAt [a, b, c, d, e, f] 2 = pair c d := channelAt_append [a, b] [e, f] hascii
    have hb : channelAt [a, b, c, d, e, f] 4 = pair e f := channelAt_append [a, b, c, d] [] hascii
    unfold read
    rw [body_of_behind h]
    change (if _ then _ else _) = _
    rw [hcount, hascii, if_neg (by simp), hr, hg, hb]
    simp only [pairs]
    cases pair a b <;> cases pair c d <;> cases pair e f <;> rfl

theorem read_of_not (h : ∀ ds, Behind s ds → Text.isAscii ds = true → ds.length ≠ 6) :
    read s = .error .malformed := by
  unfold read
  rcases body_cases s with ⟨ds, hds, hbody⟩ | hbody
  · rw [hbody]
    refine if_pos ?_
    cases hascii : Text.isAscii ds with
    | false => simp
    | true => simp [Text.octetCount_of_isAscii hascii, h ds hds hascii]
  · rw [hbody]
    rfl

theorem ofChannels_eq_ok_iff {vs : List UInt8} : ofChannels vs = .ok c ↔ vs = [c.r, c.g, c.b] := by
  unfold ofChannels
  split
  next r g b =>
    rw [Except.ok.injEq]
    cases c
    simp
  next hne => exact ⟨nofun, fun h => absurd h (hne _ _ _)⟩

theorem takes (s : String) : Takes s ofChannels (read s) := by
  by_cases h : ∃ ds, Behind s ds ∧ Text.isAscii ds = true ∧ ds.length = 6
  · obtain ⟨ds, hds, hascii, hlen⟩ := h
    exact .inl ⟨ds, hds, read_of_behind hds hlen hascii⟩
  · exact .inr (read_of_not fun ds hds hascii hlen => h ⟨ds, hds, hascii, hlen⟩)

theorem ofHex?_eq_some_iff :
    ofHex? s = some c ↔ ∃ ds, Behind s ds ∧ Spells Signed ds [c.r, c.g, c.b] := by
  rw [ofHex?, toOption_eq_some_iff]
  constructor
  · intro h
    obtain ⟨ds, vs, hds, hspells, hvs⟩ := (takes s).exists_spells h
    rw [ofChannels_eq_ok_iff.mp hvs] at hspells
    exact ⟨ds, hds, hspells⟩
  · rintro ⟨ds, hds, hspells⟩
    rw [read_of_behind hds hspells.length_eq hspells.isAscii, pairs_bind_eq_ok_iff]
    exact ⟨_, hspells, rfl⟩

theorem read_ne_slice (s : String) (first last : Nat) :
    read s ≠ .error (.slice first last) := by
  refine (takes s).ne_slice fun vs => ?_
  unfold ofChannels
  split <;> nofun

end Rgb

/-! ## Colours with opacity -/

namespace Rgba

variable {s : String} {ds : List Char} {c : Rgba}

/-- The colour of its channels. -/
def ofChannels : List UInt8 → Except Hex.Fault Rgba
  | [r, g, b] => .ok ⟨r, g, b, 255⟩
  | [r, g, b, a] => .ok ⟨r, g, b, a⟩
  | _ => .error .malformed

theorem ofChannels_eq_ok_iff {vs : List UInt8} : ofChannels vs = .ok c ↔
    vs = [c.r, c.g, c.b] ∧ c.a = 255 ∨ vs = [c.r, c.g, c.b, c.a] := by
  obtain ⟨r, g, b, a⟩ := c
  unfold ofChannels
  split
  next r' g' b' => simp [eq_comm, and_assoc]
  next r' g' b' a' => simp
  next hthree hfour =>
    refine ⟨nofun, ?_⟩
    rintro (⟨h, -⟩ | h)
    · exact absurd h (hthree _ _ _)
    · exact absurd h (hfour _ _ _ _)

/-- Six or eight characters of ASCII are read pair by pair. -/
theorem read_of_behind (h : Behind s ds) (hlen : ds.length = 6 ∨ ds.length = 8)
    (hascii : Text.isAscii ds = true) : read s = pairs ds >>= ofChannels := by
  have hcount := Text.octetCount_of_isAscii hascii
  unfold read
  rw [body_of_behind h]
  change (if _ then _ else _) = _
  rw [hcount, hascii, if_neg (by decide)]
  rcases hlen with hlen | hlen
  · rw [if_pos hlen]
    match ds, hlen with
    | [a, b, c, d, e, f], _ =>
      rw [show channelAt [a, b, c, d, e, f] 0 = pair a b from
          channelAt_append [] [c, d, e, f] hascii,
        show channelAt [a, b, c, d, e, f] 2 = pair c d from
          channelAt_append [a, b] [e, f] hascii,
        show channelAt [a, b, c, d, e, f] 4 = pair e f from
          channelAt_append [a, b, c, d] [] hascii]
      simp only [pairs]
      cases pair a b <;> cases pair c d <;> cases pair e f <;> rfl
  · rw [if_neg (by omega), if_pos hlen]
    match ds, hlen with
    | [a, b, c, d, e, f, g, h], _ =>
      rw [show channelAt [a, b, c, d, e, f, g, h] 0 = pair a b from
          channelAt_append [] [c, d, e, f, g, h] hascii,
        show channelAt [a, b, c, d, e, f, g, h] 2 = pair c d from
          channelAt_append [a, b] [e, f, g, h] hascii,
        show channelAt [a, b, c, d, e, f, g, h] 4 = pair e f from
          channelAt_append [a, b, c, d] [g, h] hascii,
        show channelAt [a, b, c, d, e, f, g, h] 6 = pair g h from
          channelAt_append [a, b, c, d, e, f] [] hascii]
      simp only [pairs]
      cases pair a b <;> cases pair c d <;> cases pair e f <;> cases pair g h <;> rfl

theorem read_of_not (h : ∀ ds, Behind s ds → Text.isAscii ds = true →
    ds.length ≠ 6 ∧ ds.length ≠ 8) : read s = .error .malformed := by
  unfold read
  rcases body_cases s with ⟨ds, hds, hbody⟩ | hbody
  · rw [hbody]
    change (if _ then _ else _) = _
    cases hascii : Text.isAscii ds with
    | false => rfl
    | true =>
      obtain ⟨hsix, height⟩ := h ds hds hascii
      rw [Text.octetCount_of_isAscii hascii, if_neg (by decide), if_neg hsix, if_neg height]
  · rw [hbody]
    rfl

theorem takes (s : String) : Takes s ofChannels (read s) := by
  by_cases h : ∃ ds, Behind s ds ∧ Text.isAscii ds = true ∧ (ds.length = 6 ∨ ds.length = 8)
  · obtain ⟨ds, hds, hascii, hlen⟩ := h
    exact .inl ⟨ds, hds, read_of_behind hds hlen hascii⟩
  · exact .inr (read_of_not fun ds hds hascii =>
      not_or.mp fun hlen => h ⟨ds, hds, hascii, hlen⟩)

theorem ofHex?_eq_some_iff :
    ofHex? s = some c ↔ ∃ ds, Behind s ds ∧
      (Spells Signed ds [c.r, c.g, c.b] ∧ c.a = 255 ∨ Spells Signed ds [c.r, c.g, c.b, c.a]) := by
  rw [ofHex?, toOption_eq_some_iff]
  constructor
  · intro h
    obtain ⟨ds, vs, hds, hspells, hvs⟩ := (takes s).exists_spells h
    rcases ofChannels_eq_ok_iff.mp hvs with ⟨rfl, halpha⟩ | rfl
    · exact ⟨ds, hds, .inl ⟨hspells, halpha⟩⟩
    · exact ⟨ds, hds, .inr hspells⟩
  · rintro ⟨ds, hds, ⟨hspells, halpha⟩ | hspells⟩
    · rw [read_of_behind hds (.inl hspells.length_eq) hspells.isAscii, pairs_bind_eq_ok_iff]
      exact ⟨_, hspells, ofChannels_eq_ok_iff.mpr (.inl ⟨rfl, halpha⟩)⟩
    · rw [read_of_behind hds (.inr hspells.length_eq) hspells.isAscii, pairs_bind_eq_ok_iff]
      exact ⟨_, hspells, rfl⟩

theorem read_ne_slice (s : String) (first last : Nat) :
    read s ≠ .error (.slice first last) := by
  refine (takes s).ne_slice fun vs => ?_
  unfold ofChannels
  split <;> nofun

/-- Six digits mean the opaque colour that they mean without opacity. -/
theorem ofHex?_of_length (h : Behind s ds) (hlen : ds.length = 6) :
    ofHex? s = (Rgb.ofHex? s).map fun c => ⟨c.r, c.g, c.b, 255⟩ := by
  ext c
  rw [ofHex?_eq_some_iff, Option.map_eq_some_iff]
  simp only [Rgb.ofHex?_eq_some_iff]
  constructor
  · rintro ⟨ds', hds', ⟨hspells, halpha⟩ | hspells⟩
    · exact ⟨⟨c.r, c.g, c.b⟩, ⟨ds', hds', hspells⟩, by rw [← halpha]⟩
    · obtain rfl := h.unique hds'
      have hlen' := hspells.length_eq
      rw [hlen] at hlen'
      cases hlen'
  · rintro ⟨c, ⟨ds', hds', hspells⟩, rfl⟩
    exact ⟨ds', hds', .inl ⟨hspells, rfl⟩⟩

end Rgba

/-! ## Letter case -/

namespace Hex

variable {s : String} {ds : List Char} {vs : List UInt8}

theorem toLower_eq_iff {c d : Char} (h : d.toNat < 65) : c.toLower = d ↔ c = d := by
  rw [← Char.toNat_inj, ← Char.toNat_inj, Text.toNat_toLower]
  split <;> omega

theorem behind_asciiLower : Behind (Text.asciiLower s) ds ↔
    ∃ ds', Behind s ds' ∧ ds'.map Char.toLower = ds := by
  unfold Behind
  rw [Text.toList_asciiLower, Text.trim_map_toLower, List.map_eq_cons_iff]
  simp only [toLower_eq_iff (show '#'.toNat < 65 by decide)]
  constructor
  · rintro ⟨_, ds', htrim, rfl, hds⟩
    exact ⟨ds', htrim, hds⟩
  · rintro ⟨ds', htrim, hds⟩
    exact ⟨_, ds', htrim, rfl, hds⟩

theorem isDigit_toLower {c : Char} {n : Nat} : IsDigit c.toLower n ↔ IsDigit c n := by
  rw [← digit?_eq_some_iff, digit?_toLower, digit?_eq_some_iff]

theorem signed_toLower {a b : Char} {v : UInt8} : Signed a.toLower b.toLower v ↔ Signed a b v := by
  simp only [Signed, Digits, isDigit_toLower, toLower_eq_iff (show '+'.toNat < 65 by decide)]

theorem spells_map {P : Char → Char → UInt8 → Prop} {f : Char → Char} :
    Spells P (ds.map f) vs ↔ Spells (fun a b => P (f a) (f b)) ds vs := by
  constructor
  · intro h
    generalize hcs : ds.map f = cs at h
    induction h generalizing ds with
    | nil =>
      obtain rfl := List.map_eq_nil_iff.mp hcs
      exact .nil
    | cons pair _ ih =>
      obtain ⟨a, ds, rfl, rfl, hbehind⟩ := List.map_eq_cons_iff.mp hcs
      obtain ⟨b, ds, rfl, rfl, hrest⟩ := List.map_eq_cons_iff.mp hbehind
      exact .cons pair (ih hrest)
  · intro h
    induction h with
    | nil => exact .nil
    | cons pair _ ih => exact .cons pair ih

theorem spells_map_toLower : Spells Signed (ds.map Char.toLower) vs ↔ Spells Signed ds vs := by
  have hsigned : (fun a b => Signed (Char.toLower a) (Char.toLower b)) = Signed := by
    funext a b v
    exact propext signed_toLower
  rw [spells_map, hsigned]

/-- What stands behind the number sign is the same up to the letter case. -/
theorem exists_behind_asciiLower {P : List Char → Prop}
    (hP : ∀ ds, P (ds.map Char.toLower) ↔ P ds) :
    (∃ ds, Behind (Text.asciiLower s) ds ∧ P ds) ↔ ∃ ds, Behind s ds ∧ P ds := by
  simp only [behind_asciiLower]
  constructor
  · rintro ⟨_, ⟨ds, hds, rfl⟩, h⟩
    exact ⟨ds, hds, (hP ds).mp h⟩
  · rintro ⟨ds, hds, h⟩
    exact ⟨_, ⟨ds, hds, rfl⟩, (hP ds).mpr h⟩

end Hex

theorem Rgb.ofHex?_asciiLower (s : String) : Rgb.ofHex? (Text.asciiLower s) = Rgb.ofHex? s := by
  ext c
  rw [ofHex?_eq_some_iff, ofHex?_eq_some_iff]
  exact exists_behind_asciiLower fun ds => spells_map_toLower

theorem Rgba.ofHex?_asciiLower (s : String) : Rgba.ofHex? (Text.asciiLower s) = Rgba.ofHex? s := by
  ext c
  rw [ofHex?_eq_some_iff, ofHex?_eq_some_iff]
  refine exists_behind_asciiLower fun ds => ?_
  rw [spells_map_toLower, spells_map_toLower]

/-! ## Writing -/

namespace Hex

variable {s : String} {ds : List Char} {vs : List UInt8}

/-- The digits of channels, a pair for each. -/
def digitsOf (vs : List UInt8) : List Char :=
  vs.flatMap fun v => [Nat.digitChar (v.toNat / 16), Nat.digitChar (v.toNat % 16)]

theorem isDigit_digitChar : ∀ n < 16, IsDigit (Nat.digitChar n) n := by decide

theorem spells_digitsOf (vs : List UInt8) : Spells Digits (digitsOf vs) vs := by
  induction vs with
  | nil => exact .nil
  | cons v vs ih =>
    have hlt : v.toNat < 256 := v.toNat_lt
    exact .cons ⟨_, _, isDigit_digitChar _ (by omega), isDigit_digitChar _ (by omega), by omega⟩ ih

theorem isBlank_lower : ∀ n : Fin 16, Text.isBlank ("0123456789abcdef".toList[n]) = false := by
  decide

theorem isBlank_upper : ∀ n : Fin 16, Text.isBlank ("0123456789ABCDEF".toList[n]) = false := by
  decide

theorem IsDigit.isBlank {c : Char} {n : Nat} (h : IsDigit c n) : Text.isBlank c = false := by
  rcases h with h | h
  · obtain ⟨hn, rfl⟩ := List.getElem?_eq_some_iff.mp h
    exact isBlank_lower ⟨n, hn⟩
  · obtain ⟨hn, rfl⟩ := List.getElem?_eq_some_iff.mp h
    exact isBlank_upper ⟨n, hn⟩

/-- Digits behind a number sign have no blanks around them. -/
theorem behind_ofList (h : ∀ c ∈ ds, IsHex c) : Behind (String.ofList ('#' :: ds)) ds := by
  obtain ⟨blanks, hblanks, hds⟩ := Text.exists_trimEnd ds
  have hnone : blanks = [] := by
    refine List.eq_nil_iff_forall_not_mem.mpr fun c hc => ?_
    obtain ⟨n, hn⟩ := h c (hds ▸ List.mem_append_right _ hc)
    exact Bool.noConfusion (hn.isBlank.symm.trans (hblanks c hc))
  rw [hnone, List.append_nil] at hds
  rw [Behind, String.toList_ofList]
  exact (Text.trim_append_cons (by decide) [] ds).trans (congrArg ('#' :: ·) hds.symm)

end Hex

/-- A colour in hexadecimal. -/
def Rgb.hex (c : Rgb) : String := String.ofList ('#' :: digitsOf [c.r, c.g, c.b])

def Rgba.hex (c : Rgba) : String := String.ofList ('#' :: digitsOf [c.r, c.g, c.b, c.a])

theorem Rgb.ofHex?_hex (c : Rgb) : Rgb.ofHex? c.hex = some c := by
  have hspells := spells_digitsOf [c.r, c.g, c.b]
  exact ofHex?_eq_some_iff.mpr
    ⟨_, behind_ofList hspells.isHex, hspells.imp fun _ _ _ _ => .inl⟩

theorem Rgba.ofHex?_hex (c : Rgba) : Rgba.ofHex? c.hex = some c := by
  have hspells := spells_digitsOf [c.r, c.g, c.b, c.a]
  exact ofHex?_eq_some_iff.mpr
    ⟨_, behind_ofList hspells.isHex, .inr (hspells.imp fun _ _ _ _ => .inl)⟩

/-! ## The two notations -/

namespace Hex

variable {s : String} {ds : List Char} {vs : List UInt8}

/-- No plus sign stands behind the number sign. -/
def Unsigned (s : String) : Prop := ∀ ds, Behind s ds → '+' ∉ ds

theorem rgb_of_unsigned (h : Unsigned s) {c : Rgb} : Rgb.ofHex? s = some c ↔
    ∃ ds, Behind s ds ∧ Spells Digits ds [c.r, c.g, c.b] := by
  rw [Rgb.ofHex?_eq_some_iff]
  exact exists_congr fun ds => and_congr_right fun hds => spells_signed_iff (h ds hds)

theorem rgba_of_unsigned (h : Unsigned s) {c : Rgba} : Rgba.ofHex? s = some c ↔
    ∃ ds, Behind s ds ∧
      (Spells Digits ds [c.r, c.g, c.b] ∧ c.a = 255 ∨ Spells Digits ds [c.r, c.g, c.b, c.a]) := by
  rw [Rgba.ofHex?_eq_some_iff]
  refine exists_congr fun ds => and_congr_right fun hds => ?_
  rw [spells_signed_iff (h ds hds), spells_signed_iff (h ds hds)]

theorem rgb_isSome_iff (h : Unsigned s) : (Rgb.ofHex? s).isSome ↔
    ∃ ds, Behind s ds ∧ ds.length = 6 ∧ ∀ d ∈ ds, IsHex d := by
  rw [Option.isSome_iff_exists]
  simp only [rgb_of_unsigned h]
  constructor
  · rintro ⟨c, ds, hds, hspells⟩
    exact ⟨ds, hds, hspells.length_eq, hspells.isHex⟩
  · rintro ⟨ds, hds, hlen, hhex⟩
    obtain ⟨vs, hvs, hspells⟩ := exists_spells (n := 3) hlen hhex
    match vs, hvs with
    | [r, g, b], _ => exact ⟨⟨r, g, b⟩, ds, hds, hspells⟩

theorem rgba_isSome_iff (h : Unsigned s) : (Rgba.ofHex? s).isSome ↔
    ∃ ds, Behind s ds ∧ (ds.length = 6 ∨ ds.length = 8) ∧ ∀ d ∈ ds, IsHex d := by
  rw [Option.isSome_iff_exists]
  simp only [rgba_of_unsigned h]
  constructor
  · rintro ⟨c, ds, hds, ⟨hspells, -⟩ | hspells⟩
    · exact ⟨ds, hds, .inl hspells.length_eq, hspells.isHex⟩
    · exact ⟨ds, hds, .inr hspells.length_eq, hspells.isHex⟩
  · rintro ⟨ds, hds, hlen | hlen, hhex⟩
    · obtain ⟨vs, hvs, hspells⟩ := exists_spells (n := 3) hlen hhex
      match vs, hvs with
      | [r, g, b], _ => exact ⟨⟨r, g, b, 255⟩, ds, hds, .inl ⟨hspells, rfl⟩⟩
    · obtain ⟨vs, hvs, hspells⟩ := exists_spells (n := 4) hlen hhex
      match vs, hvs with
      | [r, g, b, a], _ => exact ⟨⟨r, g, b, a⟩, ds, hds, .inr hspells⟩

/-- The two notations of colours. The reader of a channel takes a plus sign for a digit; a text
without one is read as it is written, no text makes a slice fail, and the notation of a colour is
read back. -/
theorem colours_read (s : String) (colour : Rgb) (tint : Rgba) :
    (∀ c, Rgb.ofHex? s = some c ↔ ∃ ds, Behind s ds ∧ Spells Signed ds [c.r, c.g, c.b]) ∧
    (∀ c, Rgba.ofHex? s = some c ↔ ∃ ds, Behind s ds ∧
      (Spells Signed ds [c.r, c.g, c.b] ∧ c.a = 255 ∨ Spells Signed ds [c.r, c.g, c.b, c.a])) ∧
    (Unsigned s →
      ((Rgb.ofHex? s).isSome ↔ ∃ ds, Behind s ds ∧ ds.length = 6 ∧ ∀ d ∈ ds, IsHex d) ∧
      ((Rgba.ofHex? s).isSome ↔
        ∃ ds, Behind s ds ∧ (ds.length = 6 ∨ ds.length = 8) ∧ ∀ d ∈ ds, IsHex d) ∧
      (∀ c, Rgb.ofHex? s = some c ↔ ∃ ds, Behind s ds ∧ Spells Digits ds [c.r, c.g, c.b]) ∧
      ∀ c, Rgba.ofHex? s = some c ↔ ∃ ds, Behind s ds ∧
        (Spells Digits ds [c.r, c.g, c.b] ∧ c.a = 255 ∨
          Spells Digits ds [c.r, c.g, c.b, c.a])) ∧
    (∀ ds, Behind s ds → ds.length = 6 →
      Rgba.ofHex? s = (Rgb.ofHex? s).map fun c => ⟨c.r, c.g, c.b, 255⟩) ∧
    (∀ t, Text.asciiLower s = Text.asciiLower t →
      Rgb.ofHex? s = Rgb.ofHex? t ∧ Rgba.ofHex? s = Rgba.ofHex? t) ∧
    (∀ first last, Rgb.read s ≠ .error (.slice first last) ∧
      Rgba.read s ≠ .error (.slice first last)) ∧
    Rgb.ofHex? colour.hex = some colour ∧ Rgba.ofHex? tint.hex = some tint := by
  refine ⟨fun c => Rgb.ofHex?_eq_some_iff, fun c => Rgba.ofHex?_eq_some_iff, fun h =>
    ⟨rgb_isSome_iff h, rgba_isSome_iff h, fun c => rgb_of_unsigned h, fun c => rgba_of_unsigned h⟩,
    fun ds => Rgba.ofHex?_of_length, fun t h => ⟨?_, ?_⟩,
    fun first last => ⟨Rgb.read_ne_slice s first last, Rgba.read_ne_slice s first last⟩,
    colour.ofHex?_hex, tint.ofHex?_hex⟩
  · rw [← Rgb.ofHex?_asciiLower s, h, Rgb.ofHex?_asciiLower]
  · rw [← Rgba.ofHex?_asciiLower s, h, Rgba.ofHex?_asciiLower]

/-- Three pairs of a plus sign and a digit are read as a colour, though no six digits stand behind
the number sign; so are four. -/
theorem plus_taken_for_digit :
    (Rgb.ofHex? "#+F+F+F" = some ⟨15, 15, 15⟩ ∧ ¬∃ ds, Behind "#+F+F+F" ds ∧ ∀ d ∈ ds, IsHex d) ∧
    (Rgba.ofHex? "#+F+F+F+F" = some ⟨15, 15, 15, 15⟩ ∧
      ¬∃ ds, Behind "#+F+F+F+F" ds ∧ ∀ d ∈ ds, IsHex d) := by
  have hplus : ¬IsHex '+' := fun ⟨n, hn⟩ => not_isDigit_plus n hn
  refine ⟨⟨by decide, fun ⟨ds, hds, hhex⟩ => ?_⟩, by decide, fun ⟨ds, hds, hhex⟩ => ?_⟩
  · have hbehind : Behind "#+F+F+F" "+F+F+F".toList := by unfold Behind; decide
    exact hplus (hhex '+' (hbehind.unique hds ▸ by decide))
  · have hbehind : Behind "#+F+F+F+F" "+F+F+F+F".toList := by unfold Behind; decide
    exact hplus (hhex '+' (hbehind.unique hds ▸ by decide))

end Hex

end DriverDesk
