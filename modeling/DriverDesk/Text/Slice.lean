/-!
# Slices

The part of a text between two positions, which are counted in octets. There is none where a
position lies behind the end of the text or inside a character.
-/

namespace DriverDesk.Text

/-- The number of octets of a text. -/
def octetCount : List Char → Nat
  | [] => 0
  | c :: r => c.utf8Size + octetCount r

def isAscii (cs : List Char) : Bool := cs.all fun c => c.toNat < 0x80

/-- What stands in front of a position and what stands behind it. -/
def cutAt? : Nat → List Char → Option (List Char × List Char)
  | 0, cs => some ([], cs)
  | _ + 1, [] => none
  | n + 1, c :: r =>
    if c.utf8Size ≤ n + 1 then
      (cutAt? (n + 1 - c.utf8Size) r).map fun p => (c :: p.1, p.2)
    else none

/-- What stands between two positions. -/
def slice? (cs : List Char) (first last : Nat) : Option (List Char) :=
  if last < first then none
  else do
    let (_, behind) ← cutAt? first cs
    let (between, _) ← cutAt? (last - first) behind
    some between

end DriverDesk.Text
