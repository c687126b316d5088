/-!
# Powers

Powers of two and ten as natural numbers.
-/

namespace DriverDesk

/-- The power of two with a given exponent. -/
abbrev twoTo (n : Nat) : Nat := Nat.pow 2 n

/-- The power of ten with a given exponent. -/
abbrev tenTo (n : Nat) : Nat := Nat.pow 10 n

end DriverDesk
