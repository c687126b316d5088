/-!
# Blanks

The characters with the Unicode property White_Space, and text with the blanks
at its ends removed. `trim` keeps what stands between the first and the last
character that is not blank.
-/

namespace DriverDesk.Text

/-- The property White_Space as closed ranges of code points, in increasing order. -/
def blankRanges : List (Nat × Nat) :=
  [(0x09, 0x0D), (0x20, 0x20), (0x85, 0x85), (0xA0, 0xA0), (0x1680, 0x1680),
   (0x2000, 0x200A), (0x2028, 0x2029), (0x202F, 0x202F), (0x205F, 0x205F),
   (0x3000, 0x3000)]

/-- Whether a character has the property White_Space. -/
def isBlank (c : Char) : Bool :=
  blankRanges.any fun r => r.1 ≤ c.toNat && c.toNat ≤ r.2

def trimStart (cs : List Char) : List Char := cs.dropWhile isBlank

def trimEnd (cs : List Char) : List Char := (cs.reverse.dropWhile isBlank).reverse

def trim (cs : List Char) : List Char := trimEnd (trimStart cs)

/-- Text without its blanks, wherever they stand. -/
def compact (cs : List Char) : List Char := cs.filter fun c => !isBlank c

theorem trimStart_append_of_blank {g : List Char} (hg : ∀ c ∈ g, isBlank c) (cs : List Char) :
    trimStart (g ++ cs) = trimStart cs := by
  induction g with
  | nil => rfl
  | cons a r ih =>
    have ha : isBlank a = true := hg a (by simp)
    simp only [trimStart, List.cons_append, List.dropWhile_cons, ha, ↓reduceIte]
    exact ih fun c hc => hg c (by simp [hc])

theorem trimEnd_append_of_blank {g : List Char} (hg : ∀ c ∈ g, isBlank c) (cs : List Char) :
    trimEnd (cs ++ g) = trimEnd cs := by
  have h := trimStart_append_of_blank (g := g.reverse) (by simpa using hg) cs.reverse
  simp only [trimStart] at h
  simp [trimEnd, List.reverse_append, h]

end DriverDesk.Text
