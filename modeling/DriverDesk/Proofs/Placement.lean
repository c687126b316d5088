import DriverDesk.Element.Cars

/-!
# Placing steps

What steps make of the elements of a car. `placeAll es steps` is the car whose
elements were `es` once the steps are carried out, and carrying them out on a table
changes that car and no other. Steps are `Assembled` when they begin with an
element: what they make then stands behind `es`, and `es` stays as it was.
-/

namespace DriverDesk

variable {K : Type}

/-! ## One car -/

namespace Step

/-- The elements of a car after one step. -/
def place (es : List (Element K)) : Step K → List (Element K)
  | .element e => es ++ [e]
  | .state s => es.modify (es.length - 1) (·.addState s)

/-- The elements of a car after some steps. -/
def placeAll (es : List (Element K)) (steps : List (Step K)) : List (Element K) :=
  steps.foldl place es

/-- The elements that steps make by themselves. -/
def made (steps : List (Step K)) : List (Element K) := placeAll [] steps

def isElement : Step K → Bool
  | .element _ => true
  | .state _ => false

@[simp] theorem placeAll_nil (es : List (Element K)) : placeAll es [] = es := rfl

@[simp] theorem placeAll_cons (es : List (Element K)) (step : Step K) (steps : List (Step K)) :
    placeAll es (step :: steps) = placeAll (place es step) steps := rfl

theorem placeAll_append (es : List (Element K)) (l₁ l₂ : List (Step K)) :
    placeAll es (l₁ ++ l₂) = placeAll (placeAll es l₁) l₂ := List.foldl_append

theorem length_place (es : List (Element K)) (step : Step K) :
    (place es step).length = es.length + if step.isElement then 1 else 0 := by
  cases step <;> simp [place, isElement]

theorem length_placeAll (es : List (Element K)) (steps : List (Step K)) :
    (placeAll es steps).length = es.length + steps.countP isElement := by
  induction steps generalizing es with
  | nil => simp
  | cons step steps ih =>
    rw [placeAll_cons, ih, length_place, List.countP_cons]
    omega

/-- A step changes nothing in front of the last element. -/
theorem place_append {fs : List (Element K)} (hfs : fs ≠ []) (es : List (Element K))
    (step : Step K) : place (es ++ fs) step = es ++ place fs step := by
  cases step with
  | element e => simp [place]
  | state s =>
    have hlen : 0 < fs.length := List.length_pos_iff.mpr hfs
    simp only [place, List.length_append]
    rw [show es.length + fs.length - 1 = es.length + (fs.length - 1) by omega]
    exact List.modifyTailIdx_add _ _ es fs

theorem place_ne_nil {es : List (Element K)} (hes : es ≠ []) (step : Step K) :
    place es step ≠ [] := by
  cases step <;> simp [place, hes]

theorem placeAll_append_left {fs : List (Element K)} (hfs : fs ≠ []) (es : List (Element K))
    (steps : List (Step K)) : placeAll (es ++ fs) steps = es ++ placeAll fs steps := by
  induction steps generalizing fs with
  | nil => rfl
  | cons step steps ih =>
    rw [placeAll_cons, placeAll_cons, place_append hfs]
    exact ih (place_ne_nil hfs step)

/-! ## Assembled steps -/

/-- Steps that begin with an element, so that every state belongs to one of their own
elements, and whose elements all have `P`. -/
structure Assembled (P : Element K → Prop) (steps : List (Step K)) : Prop where
  opens : ∀ s rest, steps ≠ .state s :: rest
  elements : ∀ e, .element e ∈ steps → P e

namespace Assembled

variable {P : Element K → Prop} {steps l₁ l₂ : List (Step K)}

theorem nil : Assembled P [] where
  opens _ _ h := by cases h
  elements _ h := by cases h

/-- One element, with further states of its own. -/
theorem single {e : Element K} (he : P e) (states : List (ElementState K)) :
    Assembled P (.element e :: states.map .state) := by
  refine ⟨fun _ _ h => by simp at h, fun e' h => ?_⟩
  simp only [List.mem_cons, Step.element.injEq, List.mem_map, reduceCtorEq, and_false,
    exists_false, or_false] at h
  rw [h]; exact he

theorem append (h₁ : Assembled P l₁) (h₂ : Assembled P l₂) : Assembled P (l₁ ++ l₂) := by
  refine ⟨fun s rest h => ?_, fun e he => ?_⟩
  · cases l₁ with
    | nil => exact h₂.opens s rest h
    | cons step l =>
      rw [List.cons_append, List.cons.injEq] at h
      exact h₁.opens s l (by rw [h.1])
  · rcases List.mem_append.mp he with he | he
    · exact h₁.elements e he
    · exact h₂.elements e he

theorem mono {Q : Element K → Prop} (h : Assembled P steps) (himp : ∀ e, P e → Q e) :
    Assembled Q steps := ⟨h.opens, fun e he => himp e (h.elements e he)⟩

/-- Assembled steps leave the elements in front of theirs as they are. -/
theorem placeAll_eq (h : Assembled P steps) (es : List (Element K)) :
    placeAll es steps = es ++ made steps := by
  cases steps with
  | nil => simp [made]
  | cons step steps =>
    cases step with
    | state s => exact absurd rfl (h.opens s steps)
    | element e => exact placeAll_append_left (by simp) es steps

theorem made_append (h : Assembled P l₂) : made (l₁ ++ l₂) = made l₁ ++ made l₂ := by
  rw [made, placeAll_append, h.placeAll_eq]; rfl

/-- Every state stands behind an element of the same steps. -/
theorem owned {before rest : List (Step K)} {s : ElementState K}
    (h : Assembled P (before ++ .state s :: rest)) : ∃ e, .element e ∈ before := by
  cases before with
  | nil => exact absurd rfl (h.opens s rest)
  | cons step before =>
    cases step with
    | state s' => exact absurd rfl (h.opens s' (before ++ .state s :: rest))
    | element e => exact ⟨e, by simp⟩

theorem flatten {batches : List (List (Step K))} (h : ∀ steps ∈ batches, Assembled P steps) :
    Assembled P batches.flatten := by
  induction batches with
  | nil => exact nil
  | cons steps batches ih =>
    rw [List.flatten_cons]
    exact (h steps (by simp)).append (ih fun l hl => h l (by simp [hl]))

/-- What is made by assembled steps one after the other is what each of them makes. -/
theorem made_flatten {batches : List (List (Step K))}
    (h : ∀ steps ∈ batches, Assembled P steps) :
    made batches.flatten = batches.flatMap made := by
  induction batches with
  | nil => rfl
  | cons steps batches ih =>
    have hrest : ∀ l ∈ batches, Assembled P l := fun l hl => h l (by simp [hl])
    rw [List.flatten_cons, (flatten hrest).made_append, ih hrest, List.flatMap_cons]

end Assembled

/-- What holds of the elements of steps whatever their states are holds of what is made. -/
theorem forall_mem_placeAll {P : Element K → Prop} (hadd : ∀ e s, P e → P (e.addState s))
    {es : List (Element K)} {steps : List (Step K)} (hes : ∀ e ∈ es, P e)
    (hsteps : ∀ e, .element e ∈ steps → P e) : ∀ e ∈ placeAll es steps, P e := by
  induction steps generalizing es with
  | nil => exact hes
  | cons step steps ih =>
    refine ih ?_ fun e he => hsteps e (List.mem_cons_of_mem _ he)
    cases step with
    | element e =>
      intro e' he'
      rcases List.mem_append.mp he' with he' | he'
      · exact hes e' he'
      · rw [List.mem_singleton.mp he']; exact hsteps e (by simp)
    | state s =>
      intro e he
      obtain ⟨i, hi⟩ := List.getElem?_of_mem he
      rw [place, List.getElem?_modify] at hi
      obtain ⟨e', he', rfl⟩ := Option.map_eq_some_iff.mp hi
      have hold := hes e' (List.mem_of_getElem? he')
      split
      · exact hadd e' s hold
      · exact hold

end Step

/-! ## A table of cars -/

namespace Cars

@[simp] theorem length_upTo (t : Cars K) (n : Nat) :
    (t.upTo n).cars.length = max t.cars.length n := by
  simp only [upTo, List.length_append, List.length_replicate]; omega

/-- Growing the table shows in no car. -/
@[simp] theorem elements_upTo (t : Cars K) (n car : Nat) :
    (t.upTo n).elements car = t.elements car := by
  unfold elements upTo
  rcases Nat.lt_or_ge car t.cars.length with h | h
  · rw [List.getElem?_append_left h]
  · rw [List.getElem?_append_right h, List.getElem?_eq_none h, List.getElem?_replicate]
    split <;> rfl

@[simp] theorem length_update (t : Cars K) (car : Nat) (f) :
    (t.update car f).cars.length = max t.cars.length (car + 1) := by
  simp [update]

theorem elements_update (t : Cars K) (car : Nat) (f : List (Element K) → List (Element K)) :
    (t.update car f).elements car = f (t.elements car) := by
  have hcar : car < (t.upTo (car + 1)).cars.length := by rw [length_upTo]; omega
  have hes := elements_upTo t (car + 1) car
  unfold elements at hes ⊢
  rw [List.getElem?_eq_getElem hcar, Option.getD_some] at hes
  rw [update, List.getElem?_modify_eq, List.getElem?_eq_getElem hcar, ← hes]
  rfl

theorem elements_update_of_ne (t : Cars K) {car other : Nat} (h : other ≠ car)
    (f : List (Element K) → List (Element K)) :
    (t.update car f).elements other = t.elements other := by
  rw [← elements_upTo t (car + 1) other]
  unfold elements update
  rw [List.getElem?_modify_ne _ _ h.symm]

theorem last?_eq (t : Cars K) (car : Nat) :
    t.last? car =
      if (t.elements car).isEmpty then none else some ((t.elements car).length - 1) := by
  unfold last?
  cases t.elements car <;> rfl

/-- What a change of one car leaves of a table: it may have grown, and every other car
holds what it held. -/
structure ChangedAt (car : Nat) (before after : Cars K) : Prop where
  grows : before.cars.length ≤ after.cars.length
  within : after.cars.length ≤ max before.cars.length (car + 1)
  elsewhere : ∀ other, other ≠ car → after.elements other = before.elements other

namespace ChangedAt

variable {car : Nat} {t₁ t₂ t₃ : Cars K}

theorem refl (t : Cars K) : ChangedAt car t t := ⟨Nat.le_refl _, by omega, fun _ _ => rfl⟩

theorem trans (h₁ : ChangedAt car t₁ t₂) (h₂ : ChangedAt car t₂ t₃) : ChangedAt car t₁ t₃ := by
  refine ⟨Nat.le_trans h₁.grows h₂.grows, ?_, fun other ho => ?_⟩
  · have := h₁.within; have := h₂.within; omega
  · rw [h₂.elsewhere other ho, h₁.elsewhere other ho]

theorem update (t : Cars K) (car : Nat) (f) : ChangedAt car t (t.update car f) :=
  ⟨by rw [length_update]; omega, Nat.le_of_eq (length_update t car f),
    fun _ h => elements_update_of_ne t h f⟩

end ChangedAt

theorem apply_append (t : Cars K) (car : Nat) (l₁ l₂ : List (Step K)) :
    t.apply car (l₁ ++ l₂) =
      ((t.apply car l₁).1 + ((t.apply car l₁).2.apply car l₂).1,
        ((t.apply car l₁).2.apply car l₂).2) := by
  induction l₁ generalizing t with
  | nil => simp [apply]
  | cons step l₁ ih =>
    cases step with
    | element e =>
      simp only [List.cons_append, apply, ih]
      congr 1; omega
    | state s =>
      simp only [List.cons_append, apply]
      split <;> exact ih _

/-- Carrying out lists of steps is carrying out their concatenation. -/
theorem applyAll_eq (t : Cars K) (car : Nat) (batches : List (List (Step K))) :
    t.applyAll car batches = t.apply car batches.flatten := by
  induction batches generalizing t with
  | nil => rfl
  | cons steps batches ih => rw [applyAll, List.flatten_cons, apply_append, ← ih]

/-- The count that carrying out steps returns. -/
theorem apply_fst (t : Cars K) (car : Nat) (steps : List (Step K)) :
    (t.apply car steps).1 = steps.countP Step.isElement := by
  induction steps generalizing t with
  | nil => rfl
  | cons step steps ih =>
    cases step with
    | element e =>
      rw [List.countP_cons_of_pos rfl]
      simp only [apply, ih]
    | state s =>
      rw [List.countP_cons_of_neg (by simp [Step.isElement]), apply]
      split <;> exact ih _

theorem elements_apply (t : Cars K) (car : Nat) (steps : List (Step K)) :
    (t.apply car steps).2.elements car = Step.placeAll (t.elements car) steps := by
  induction steps generalizing t with
  | nil => rfl
  | cons step steps ih =>
    cases step with
    | element e =>
      simp only [apply, append, Step.placeAll_cons, Step.place]
      rw [ih, elements_update]
    | state s =>
      simp only [apply, Step.placeAll_cons, Step.place, last?_eq]
      cases hes : t.elements car with
      | nil => simp [ih, hes]
      | cons e es =>
        simp only [List.isEmpty_cons, Bool.false_eq_true, if_false]
        rw [ih, appendState, elements_update, hes]

theorem changedAt_apply (t : Cars K) (car : Nat) (steps : List (Step K)) :
    ChangedAt car t (t.apply car steps).2 := by
  induction steps generalizing t with
  | nil => exact .refl t
  | cons step steps ih =>
    cases step with
    | element e => exact (ChangedAt.update t car _).trans (ih _)
    | state s =>
      simp only [apply]
      split
      · exact (ChangedAt.update t car _).trans (ih _)
      · exact ih t

end Cars

end DriverDesk
