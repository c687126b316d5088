import Mathlib
import DriverDesk.Proofs.Evaluation
import DriverDesk.Proofs.ReadBack
import DriverDesk.Proofs.Vocabulary

/-!
# Values of texts

The text of an expression run word by word, without the expression: a word that is the symbol of
an operator is run, one that spells a number stands for that number, and any other is a variable
of the train. That is what running the words of the expression gives.
-/

namespace DriverDesk

namespace Expr

/-- The stack behind the words of a text. -/
noncomputable def runWords? (train : Train) : List String → List ℝ → Option (List ℝ)
  | [], s => some s
  | w :: ws, s =>
    match Operator.ofSymbol? w with
    | some op => (op.run? train s).bind (runWords? train ws)
    | none =>
      match Numeral.read? w.toList with
      | some d => runWords? train ws ((d.rational : ℝ) :: s)
      | none => runWords? train ws (train.valueOf w :: s)

/-- The number on a stack of one. -/
def single? : List ℝ → Option ℝ
  | [x] => some x
  | _ => none

/-- The value of a text: what its words leave on the empty stack, if that is one number. -/
noncomputable def textValue? (train : Train) (text : String) : Option ℝ :=
  (runWords? train (Text.words text) []).bind single?

end Expr

/-! ## Words -/

namespace Word

/-- A word whose number, if it is one, is the one that its text spells. -/
noncomputable def exact : Word Float → Word ℝ
  | number x =>
    match Numeral.read? (Decimal.floatText x).toList with
    | some d => number d.rational
    | none => name (Decimal.floatText x)
  | integer n => integer n
  | name s => name s
  | operator op => operator op

/-- The text of an integer spells it. -/
theorem read?_toString (n : ℤ) :
    ∃ d, Numeral.read? (toString n).toList = some d ∧ d.rational = n := by
  obtain ⟨p, hspells, hsign, hvalue⟩ :=
    Numeral.exists_spells_positional (decide (n < 0)) n.natAbs 0
  simp only [decide_eq_true_eq] at hspells
  refine ⟨p.value, ?_, ?_⟩
  · rw [toString_eq_positional, String.toList_ofList, Numeral.read?,
      Numeral.parts?_eq_some_iff.mpr hspells, Option.map_some]
  · rw [Decimal.rational, hsign, hvalue, zpow_zero, mul_one, signed, Nat.cast_natAbs]
    rcases lt_or_ge n 0 with hneg | hpos
    · rw [if_pos (decide_eq_true hneg), abs_of_neg hneg]
      push_cast
      exact neg_neg _
    · rw [if_neg (by simpa using hpos), abs_of_nonneg hpos]

/-- The variables of the train are no numbers. -/
theorem read?_variable {s : String} (h : s ∈ Expr.trainVariables) :
    Numeral.read? s.toList = none := by
  have hall : (Expr.trainVariables.all fun s => (Numeral.read? s.toList).isNone) = true := by
    decide +kernel
  exact Option.isNone_iff_eq_none.mp (List.all_eq_true.mp hall s h)

end Word

namespace Expr

variable {train : Train}

/-- The words of a text do to the stack what the words of the expression do. -/
theorem runWords?_text {e : Expr Float} (h : ∀ s, .name s ∈ e → s ∈ trainVariables)
    (s : List ℝ) : runWords? train (e.map Word.text) s = run? train (e.map Word.exact) s := by
  induction e generalizing s with
  | nil => rfl
  | cons w e ih =>
    have he := ih fun s hs => h s (List.mem_cons_of_mem _ hs)
    rw [List.map_cons, List.map_cons, runWords?]
    cases w with
    | number x =>
      rw [Word.text, (Word.isOperand_floatText x).plain, Word.exact]
      dsimp only
      split
      next d hd => exact he _
      next => exact he _
    | integer n =>
      obtain ⟨d, hd, hvalue⟩ := Word.read?_toString n
      rw [Word.text, (Word.isOperand_toString n).plain, hd]
      dsimp only
      rw [he, hvalue, Rat.cast_intCast]
      rfl
    | name v =>
      have hv := h v List.mem_cons_self
      rw [Word.text, (Word.isOperand_variable hv).plain, Word.read?_variable hv]
      exact he _
    | operator op =>
      rw [Word.text, op.ofSymbol?_symbol]
      exact congrArg (Option.bind (op.run? train s)) (funext he)

theorem value?_eq (e : Expr ℝ) : e.value? train = (e.run? train []).bind single? := by
  unfold value?
  rcases e.run? train [] with _ | _ | ⟨x, _ | ⟨y, s⟩⟩ <;> rfl

/-- The value of the text of an expression is that of the expression. -/
theorem textValue?_text {e : Expr Float} (h : ∀ s, .name s ∈ e → s ∈ trainVariables) :
    textValue? train e.text = value? train (e.map Word.exact) := by
  rw [value?_eq, textValue?, words_text h, runWords?_text h]

end Expr

end DriverDesk
