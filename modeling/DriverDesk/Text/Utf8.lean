/-!
# UTF-8

Octets read as UTF-8. `scan` yields a character for each well-formed sequence
and `none` for each maximal ill-formed one, so a strict reader asks that no
`none` occurs and a replacing reader writes U+FFFD in its place.
-/

namespace DriverDesk.Text.Utf8

/-- Whether an octet continues a sequence. -/
def isTail (b : UInt8) : Bool := 0x80 ≤ b && b ≤ 0xBF

/-- Whether `b` may follow the lead of a three-octet sequence: neither an
overlong form nor a surrogate begins with the pair. -/
def secondOfThree (lead b : UInt8) : Bool :=
  if lead = 0xE0 then 0xA0 ≤ b && b ≤ 0xBF
  else if lead = 0xED then 0x80 ≤ b && b ≤ 0x9F
  else isTail b

/-- Whether `b` may follow the lead of a four-octet sequence: neither an
overlong form nor a value above U+10FFFF begins with the pair. -/
def secondOfFour (lead b : UInt8) : Bool :=
  if lead = 0xF0 then 0x90 ≤ b && b ≤ 0xBF
  else if lead = 0xF4 then 0x80 ≤ b && b ≤ 0x8F
  else isTail b

/-- The six payload bits of a continuing octet. -/
def payload (b : UInt8) : Nat := b.toNat % 64

/-- What the sequence led by `b` and continued in `r` reads as, and the number
of octets of `r` it takes. An ill-formed sequence takes the octets that could
still have become a character. -/
def unit (b : UInt8) (r : List UInt8) : Option Char × Nat :=
  if b < 0x80 then (some (Char.ofNat b.toNat), 0)
  else if 0xC2 ≤ b && b ≤ 0xDF then
    match r with
    | b1 :: _ =>
      if isTail b1 then (some (Char.ofNat ((b.toNat - 0xC0) * 64 + payload b1)), 1)
      else (none, 0)
    | [] => (none, 0)
  else if 0xE0 ≤ b && b ≤ 0xEF then
    match r with
    | b1 :: b2 :: _ =>
      if secondOfThree b b1 then
        if isTail b2 then
          (some (Char.ofNat (((b.toNat - 0xE0) * 64 + payload b1) * 64 + payload b2)), 2)
        else (none, 1)
      else (none, 0)
    | [b1] => (none, if secondOfThree b b1 then 1 else 0)
    | [] => (none, 0)
  else if 0xF0 ≤ b && b ≤ 0xF4 then
    match r with
    | b1 :: b2 :: b3 :: _ =>
      if secondOfFour b b1 then
        if isTail b2 then
          if isTail b3 then
            (some (Char.ofNat ((((b.toNat - 0xF0) * 64 + payload b1) * 64
              + payload b2) * 64 + payload b3)), 3)
          else (none, 2)
        else (none, 1)
      else (none, 0)
    | [b1, b2] => (none, if secondOfFour b b1 then if isTail b2 then 2 else 1 else 0)
    | [b1] => (none, if secondOfFour b b1 then 1 else 0)
    | [] => (none, 0)
  else (none, 0)

/-- Read the octets after the first `skip`. -/
def scanFrom : Nat → List UInt8 → List (Option Char)
  | _, [] => []
  | skip + 1, _ :: r => scanFrom skip r
  | 0, b :: r => (unit b r).1 :: scanFrom (unit b r).2 r

/-- Read octets as UTF-8, one `none` for each maximal ill-formed sequence. -/
def scan (bs : List UInt8) : List (Option Char) := scanFrom 0 bs

/-- The text of well-formed octets. -/
def read? (bs : List UInt8) : Option (List Char) :=
  if (scan bs).all Option.isSome then some ((scan bs).filterMap id) else none

/-- The text with U+FFFD for each maximal ill-formed sequence. -/
def readLossy (bs : List UInt8) : List Char := (scan bs).map (·.getD '\ufffd')

theorem readLossy_of_read? {bs : List UInt8} {cs : List Char} (h : read? bs = some cs) :
    readLossy bs = cs := by
  unfold read? at h
  split at h
  · rename_i ha
    cases h
    unfold readLossy
    generalize scan bs = us at ha ⊢
    induction us with
    | nil => rfl
    | cons u r ih =>
      cases u with
      | none => simp at ha
      | some c => simp_all
  · cases h

end DriverDesk.Text.Utf8
