import DriverDesk.Element.Basic

/-!
# Cars

The elements of each car of a train, in the order they are drawn. A table of cars
grows when an element is added to a car it does not hold yet.
-/

namespace DriverDesk

/-- What a builder asks for. -/
inductive Step (K : Type) where
  /-- A new element. -/
  | element (e : Element K)
  /-- One more state of the last element. -/
  | state (s : ElementState K)

/-- The elements of each car. -/
structure Cars (K : Type) where
  cars : List (List (Element K))

namespace Cars

variable {K : Type}

/-- A number of cars without elements. -/
def empty (n : Nat) : Cars K := ⟨List.replicate n []⟩

/-- The elements of a car; none for a car that is not held. -/
def elements (t : Cars K) (car : Nat) : List (Element K) := t.cars[car]?.getD []

/-- The table with at least the given number of cars. -/
def upTo (t : Cars K) (n : Nat) : Cars K := ⟨t.cars ++ List.replicate (n - t.cars.length) []⟩

/-- Change the elements of a car. -/
def update (t : Cars K) (car : Nat) (f : List (Element K) → List (Element K)) : Cars K :=
  ⟨(t.upTo (car + 1)).cars.modify car f⟩

/-- The index of the last element of a car. -/
def last? (t : Cars K) (car : Nat) : Option Nat :=
  match t.elements car with
  | [] => none
  | es => some (es.length - 1)

/-- Add an element to a car, and its index there. -/
def append (t : Cars K) (car : Nat) (e : Element K) : Nat × Cars K :=
  ((t.elements car).length, t.update car (· ++ [e]))

/-- Add a state to an element of a car, if there is such an element. -/
def appendState (t : Cars K) (car element : Nat) (s : ElementState K) : Cars K :=
  t.update car (·.modify element (·.addState s))

/-- Carry out steps for a car, and count the elements added. A state without an
element to belong to is passed over. -/
def apply (t : Cars K) (car : Nat) : List (Step K) → Nat × Cars K
  | [] => (0, t)
  | .element e :: r =>
    let (n, t) := apply (t.append car e).2 car r
    (n + 1, t)
  | .state s :: r =>
    match t.last? car with
    | some i => apply (t.appendState car i s) car r
    | none => apply t car r

/-- Carry out lists of steps one after the other, and count the elements added. -/
def applyAll (t : Cars K) (car : Nat) : List (List (Step K)) → Nat × Cars K
  | [] => (0, t)
  | steps :: r =>
    let (n, t) := t.apply car steps
    let (m, t) := applyAll t car r
    (n + m, t)

end Cars

end DriverDesk
