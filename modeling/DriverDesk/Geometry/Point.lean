/-!
# Points and vectors

Points of the plane, in pixels or on the panel, and vectors of eye space: `x` to
the right, `y` up, `z` ahead.
-/

namespace DriverDesk

/-- A point of the plane. -/
structure Point (K : Type) where
  x : K
  y : K
  deriving DecidableEq, Repr, Inhabited

/-- A vector of eye space. -/
structure Vec (K : Type) where
  x : K
  y : K
  z : K
  deriving DecidableEq, Repr, Inhabited

namespace Point

variable {K : Type}

/-- The point with both coordinates equal. -/
def both (v : K) : Point K := ⟨v, v⟩

/-- The origin. -/
def zero [OfScientific K] : Point K := ⟨0.0, 0.0⟩

end Point

namespace Vec

variable {K : Type}

def zero [OfScientific K] : Vec K := ⟨0.0, 0.0, 0.0⟩

def add [Add K] (a b : Vec K) : Vec K := ⟨a.x + b.x, a.y + b.y, a.z + b.z⟩

def scale [Mul K] (a : Vec K) (k : K) : Vec K := ⟨a.x * k, a.y * k, a.z * k⟩

end Vec

end DriverDesk
