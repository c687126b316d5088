import DriverDesk.Proofs.Placement

/-!
# The order of states

A state goes to the element that is last when its step is carried out, and that element changes
from step to step. Read from their end, steps tell the same without a table: an element comes
with the states up to the next one, and the states in front of the first element are for the
element the car ends with, or for none. `Cars.Continues` says what a run makes of a table.
-/

namespace DriverDesk

variable {K : Type}

namespace Step

/-! ## The states of steps -/

/-- The states that a step brings. -/
def states : Step K → List (ElementState K)
  | .element e => e.states
  | .state s => [s]

/-- The states that steps bring. -/
def statesOf (steps : List (Step K)) : List (ElementState K) := steps.flatMap states

theorem statesOf_cons (step : Step K) (steps : List (Step K)) :
    statesOf (step :: steps) = step.states ++ statesOf steps := List.flatMap_cons

theorem statesOf_append (l₁ l₂ : List (Step K)) :
    statesOf (l₁ ++ l₂) = statesOf l₁ ++ statesOf l₂ :=
  List.flatMap_append

theorem states_place {es : List (Element K)} (hes : es ≠ []) (step : Step K) :
    (place es step).flatMap (·.states) = es.flatMap (·.states) ++ step.states := by
  cases step with
  | element e => simp [place, states]
  | state s =>
    obtain ⟨init, last, rfl⟩ := (List.eq_nil_or_concat es).resolve_left hes
    rw [List.concat_eq_append, place_append (List.cons_ne_nil last [])]
    simp [place, states, Element.addState]

theorem states_placeAll {es : List (Element K)} (hes : es ≠ []) (steps : List (Step K)) :
    (placeAll es steps).flatMap (·.states) = es.flatMap (·.states) ++ statesOf steps := by
  induction steps generalizing es with
  | nil => simp [statesOf]
  | cons step steps ih =>
    rw [placeAll_cons, ih (place_ne_nil hes step), states_place hes, statesOf_cons,
      List.append_assoc]

/-- The steps from the first element on. -/
def opened (steps : List (Step K)) : List (Step K) := steps.dropWhile (!·.isElement)

/-- Without an element to take them, the states in front of the first one are lost. -/
theorem states_made (steps : List (Step K)) :
    (made steps).flatMap (·.states) = statesOf (opened steps) := by
  induction steps with
  | nil => rfl
  | cons step r ih =>
    cases step with
    | element e =>
      have hplace : place [] (.element e) = [e] := rfl
      have hopened : opened (.element e :: r) = .element e :: r := rfl
      rw [made, placeAll_cons, hplace, states_placeAll (List.cons_ne_nil e []), hopened,
        statesOf_cons, states, List.flatMap_singleton]
    | state s => exact ih

theorem Assembled.opened_eq {P : Element K → Prop} {steps : List (Step K)}
    (h : Assembled P steps) : opened steps = steps := by
  cases steps with
  | nil => rfl
  | cons step r =>
    cases step with
    | element e => rfl
    | state s => exact absurd rfl (h.opens s r)

/-- Assembled steps make elements with the states they bring, in the order of the steps. -/
theorem Assembled.states_made {P : Element K → Prop} {steps : List (Step K)}
    (h : Assembled P steps) : (made steps).flatMap (·.states) = statesOf steps := by
  rw [Step.states_made, h.opened_eq]

end Step

/-! ## Steps read from their end -/

namespace Element

/-- Add states behind the others. -/
def addStates (e : Element K) (ss : List (ElementState K)) : Element K :=
  { e with states := e.states ++ ss }

theorem addStates_nil (e : Element K) : e.addStates [] = e := by
  rw [addStates, List.append_nil]

theorem addStates_addState (e : Element K) (s : ElementState K) (ss : List (ElementState K)) :
    (e.addState s).addStates ss = e.addStates (s :: ss) := by
  simp only [addStates, addState, List.append_assoc, List.singleton_append]

end Element

namespace Step

/-- The states in front of the first element. -/
def leading : List (Step K) → List (ElementState K)
  | [] => []
  | .element _ :: _ => []
  | .state s :: r => s :: leading r

/-- The elements of steps, each with the states up to the next one. -/
def grouped : List (Step K) → List (Element K)
  | [] => []
  | .element e :: r => e.addStates (leading r) :: grouped r
  | .state _ :: r => grouped r

/-- A car that ends with an element: the leading states are its own, and the elements of the
steps follow it. -/
theorem placeAll_concat (front : List (Element K)) (last : Element K) (steps : List (Step K)) :
    placeAll (front ++ [last]) steps = front ++ last.addStates (leading steps) :: grouped steps := by
  -- The last element is general, since each step hands the next one another last element.
  induction steps generalizing front last with
  | nil => rw [placeAll_nil, leading, Element.addStates_nil, grouped]
  | cons step r ih =>
    rw [placeAll_cons]
    cases step with
    | element e =>
      rw [place, ih, leading, Element.addStates_nil, grouped, List.append_assoc,
        List.singleton_append]
    | state s =>
      have hplace : place (front ++ [last]) (.state s) = front ++ [last.addState s] :=
        place_append (List.cons_ne_nil last []) front (.state s)
      rw [hplace, ih, Element.addStates_addState, leading, grouped]

theorem made_eq_grouped (steps : List (Step K)) : made steps = grouped steps := by
  induction steps with
  | nil => rfl
  | cons step r ih =>
    cases step with
    | element e => exact placeAll_concat [] e r
    | state s => exact ih

end Step

/-! ## A table of cars -/

namespace Cars

/-- The states of the elements of a car, one after the other. -/
def states (t : Cars K) (car : Nat) : List (ElementState K) := (t.elements car).flatMap (·.states)

theorem states_apply (t : Cars K) (car : Nat) (steps : List (Step K)) :
    (t.apply car steps).2.states car = t.states car ++
      Step.statesOf (if (t.elements car).isEmpty then Step.opened steps else steps) := by
  rw [states, states, elements_apply]
  cases t.elements car with
  | nil => exact Step.states_made steps
  | cons e es => exact Step.states_placeAll (List.cons_ne_nil e es) steps

theorem lt_length_of_last? {t : Cars K} {car i : Nat} (h : t.last? car = some i) :
    car < t.cars.length := by
  rcases Nat.lt_or_ge car t.cars.length with hcar | hcar
  · exact hcar
  · have hes : t.elements car = [] := by rw [elements, List.getElem?_eq_none hcar, Option.getD_none]
    rw [last?, hes] at h
    cases h

/-- Only an element makes a table longer: a state goes to a car that is there already. -/
theorem length_apply (t : Cars K) (car : Nat) (steps : List (Step K)) :
    (t.apply car steps).2.cars.length =
      if (t.apply car steps).1 = 0 then t.cars.length else max t.cars.length (car + 1) := by
  induction steps generalizing t with
  | nil => rfl
  | cons step r ih =>
    cases step with
    | element e =>
      simp only [apply, ih, append, length_update]
      split <;> simp
    | state s =>
      rw [apply]
      cases hlast : t.last? car with
      | none => exact ih t
      | some i =>
        have hlength : (t.appendState car i s).cars.length = t.cars.length :=
          (length_update t car _).trans (Nat.max_eq_left (lt_length_of_last? hlast))
        exact hlength ▸ ih (t.appendState car i s)

/-- What steps for a car make of a table, and the count they return. -/
structure Continues (car : Nat) (before : Cars K) (steps : List (Step K)) (count : Nat)
    (after : Cars K) : Prop where
  /-- Behind the old states stand those of the steps in their order: all of them, or those from
  the first element on if there was no element to take the others. -/
  states : after.states car = before.states car ++
    Step.statesOf (if (before.elements car).isEmpty then Step.opened steps else steps)
  counted : count = steps.countP Step.isElement
  grown : (after.elements car).length = (before.elements car).length + count
  fresh : before.elements car = [] → after.elements car = Step.grouped steps
  /-- Of the old elements only the last one changes, by the states in front of the first new
  element. -/
  extended : ∀ front last, before.elements car = front ++ [last] →
    after.elements car = front ++ last.addStates (Step.leading steps) :: Step.grouped steps
  elsewhere : ∀ other, other ≠ car → after.elements other = before.elements other
  /-- The table grows up to the car when the car gets an element, and not otherwise. -/
  length : after.cars.length =
    if count = 0 then before.cars.length else max before.cars.length (car + 1)

/-- Carrying out steps loses no state that has an element to go to, repeats and exchanges none,
and may be done in parts. -/
theorem apply_continues (t : Cars K) (car : Nat) (steps : List (Step K)) :
    let run := t.apply car steps
    Continues car t steps run.1 run.2 ∧
    ∀ more, t.apply car (steps ++ more) =
      (run.1 + (run.2.apply car more).1, (run.2.apply car more).2) := by
  refine ⟨{
    states := states_apply t car steps
    counted := apply_fst t car steps
    grown := ?_
    fresh := fun hes => ?_
    extended := fun front last hes => ?_
    elsewhere := (changedAt_apply t car steps).elsewhere
    length := length_apply t car steps }, apply_append t car steps⟩
  · rw [elements_apply, Step.length_placeAll, apply_fst]
  · rw [elements_apply, hes]
    exact Step.made_eq_grouped steps
  · rw [elements_apply, hes, Step.placeAll_concat]

example (a b c : ElementState K) :
    (((empty 1).apply 0 [.element (.single .background a), .element (.single .digitalNumber b),
      .state c]).2.elements 0).map (·.states) = [[a], [b, c]] := rfl

end Cars

end DriverDesk
