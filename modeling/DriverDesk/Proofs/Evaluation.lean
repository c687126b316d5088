import Mathlib
import DriverDesk.Proofs.Exact
import DriverDesk.Proofs.Postfix

/-!
# Values of expressions

What an expression is worth while the train runs, read exactly. Words are run from left to
right on a stack with its top in front. An expression that computes a value has one in every
state of the train, and running a concatenation runs its parts in turn.
-/

namespace DriverDesk

/-- What expressions read of a running train. -/
structure Train where
  valueOf : String → ℝ
  pluginState : ℝ → ℝ
  leftDoors : ℝ → ℝ
  rightDoors : ℝ → ℝ

open Classical in
/-- The stack behind an operator; none if operands are missing. A remainder is not
negative. -/
noncomputable def Operator.run? (train : Train) : Operator → List ℝ → Option (List ℝ)
  | abs, a :: s => some (|a| :: s)
  | floor, a :: s => some ((⌊a⌋ : ℝ) :: s)
  | ceiling, a :: s => some ((⌈a⌉ : ℝ) :: s)
  | increment, a :: s => some ((a + 1) :: s)
  | decrement, a :: s => some ((a - 1) :: s)
  | pluginState, a :: s => some (train.pluginState a :: s)
  | leftDoorsIndex, a :: s => some (train.leftDoors a :: s)
  | rightDoorsIndex, a :: s => some (train.rightDoors a :: s)
  | add, b :: a :: s => some ((a + b) :: s)
  | subtract, b :: a :: s => some ((a - b) :: s)
  | multiply, b :: a :: s => some ((a * b) :: s)
  | modulo, b :: a :: s => some ((a - |b| * ⌊a / |b|⌋) :: s)
  | quotient, b :: a :: s => some ((⌊a / b⌋ : ℝ) :: s)
  | equal, b :: a :: s => some ((if a = b then 1 else 0) :: s)
  | notEqual, b :: a :: s => some ((if a = b then 0 else 1) :: s)
  | greater, b :: a :: s => some ((if b < a then 1 else 0) :: s)
  | greaterOrEqual, b :: a :: s => some ((if b ≤ a then 1 else 0) :: s)
  | duplicate, a :: s => some (a :: a :: s)
  | swap, b :: a :: s => some (a :: b :: s)
  | mulAdd, c :: b :: a :: s => some ((a * b + c) :: s)
  | choose, c :: b :: a :: s => some ((if a = 0 then c else b) :: s)
  | _, _ => none

/-- An operator whose operands are there takes them and leaves its results. -/
theorem Operator.run?_of_takes (train : Train) (op : Operator) {s : List ℝ}
    (h : op.takes ≤ s.length) :
    ∃ s', op.run? train s = some s' ∧ s'.length = s.length - op.takes + op.leaves := by
  rcases s with _ | ⟨a, _ | ⟨b, _ | ⟨c, s⟩⟩⟩ <;> cases op <;>
    simp_all [Operator.takes, Operator.leaves, Operator.run?]

namespace Expr

variable (train : Train)

/-- The stack behind an expression. -/
noncomputable def run? : Expr ℝ → List ℝ → Option (List ℝ)
  | [], s => some s
  | .number x :: e, s => run? e (x :: s)
  | .integer n :: e, s => run? e ((n : ℝ) :: s)
  | .name v :: e, s => run? e (train.valueOf v :: s)
  | .operator op :: e, s => (op.run? train s).bind (run? e)

/-- The value of an expression: what it leaves on the empty stack, if that is one number. -/
noncomputable def value? (e : Expr ℝ) : Option ℝ :=
  match e.run? train [] with
  | some [x] => some x
  | _ => none

theorem run?_append (e f : Expr ℝ) (s : List ℝ) :
    (e ++ f).run? train s = (e.run? train s).bind (f.run? train) := by
  induction e generalizing s with
  | nil => rfl
  | cons w e ih =>
    cases w with
    | operator op =>
      simp only [List.cons_append, run?, Option.bind_assoc]
      congr 1
      exact funext ih
    | number x => exact ih (x :: s)
    | integer n => exact ih ((n : ℝ) :: s)
    | name v => exact ih (train.valueOf v :: s)

/-- The heights of the stack are as foretold. -/
theorem run?_of_depthFrom? {e : Expr ℝ} {s : List ℝ} {m : Nat}
    (h : depthFrom? s.length e = some m) : ∃ s', e.run? train s = some s' ∧ s'.length = m := by
  induction e generalizing s with
  | nil => exact ⟨s, rfl, Option.some.inj h⟩
  | cons w e ih =>
    cases w with
    | operator op =>
      rw [depthFrom?] at h
      split at h
      next htakes =>
        obtain ⟨s', hs', hlength⟩ := op.run?_of_takes train htakes
        rw [← hlength] at h
        simpa [run?, hs'] using ih h
      next => cases h
    | number x => exact ih (s := x :: s) h
    | integer n => exact ih (s := (n : ℝ) :: s) h
    | name v => exact ih (s := train.valueOf v :: s) h

variable {train}

theorem value?_eq_some {e : Expr ℝ} {x : ℝ} :
    e.value? train = some x ↔ e.run? train [] = some [x] := by
  unfold value?
  constructor
  · intro h
    split at h
    next hrun => cases h; exact hrun
    next => cases h
  · intro h
    rw [h]

/-- An expression that computes a value has one. -/
theorem Computes.value {e : Expr ℝ} (h : e.Computes) (train : Train) :
    ∃ x, e.value? train = some x := by
  obtain ⟨s, hs, hlength⟩ := run?_of_depthFrom? train (s := []) h.depth
  obtain ⟨x, rfl⟩ := List.length_eq_one_iff.mp hlength
  exact ⟨x, value?_eq_some.mpr hs⟩

/-- What stands behind an expression works on its value. -/
theorem value?_append {e f : Expr ℝ} {x y : ℝ} (he : e.value? train = some x)
    (hf : f.run? train [x] = some [y]) : (e ++ f).value? train = some y := by
  rw [value?_eq_some] at he ⊢
  rw [run?_append, he]
  exact hf

/-- In every state of the train, the expression is worth what `f` makes of the subject. -/
def Follows (e subject : Expr ℝ) (f : ℝ → ℝ) : Prop :=
  ∀ train, ∃ v, subject.value? train = some v ∧ e.value? train = some (f v)

namespace Follows

variable {e subject tail : Expr ℝ} {f g : ℝ → ℝ}

theorem refl (h : subject.Computes) : subject.Follows subject id := fun train => by
  obtain ⟨v, hv⟩ := h.value train
  exact ⟨v, hv, hv⟩

theorem append (h : e.Follows subject f) (htail : ∀ train v, tail.run? train [v] = some [g v]) :
    (e ++ tail).Follows subject (g ∘ f) := fun train => by
  obtain ⟨v, hv, he⟩ := h train
  exact ⟨v, hv, value?_append he (htail train (f v))⟩

end Follows

end Expr

end DriverDesk
