import DriverDesk.Proofs.Postfix
import DriverDesk.Text.Blank

/-!
# The text of expressions

Between the blanks of an expression's text stand the texts of its words, so that the
stack effect of the words can be read off the text: a word that is the symbol of an
operator has the effect of that operator, and any other leaves one value.
-/

namespace DriverDesk

/-! ## Words between blanks -/

namespace Text

/-- What stands between the blanks of a text. -/
def words (text : String) : List String :=
  ((text.toList.splitOnP isBlank).filter (!·.isEmpty)).map String.ofList

/-- Not empty, and without blanks. -/
def IsSolid (w : String) : Prop := w ≠ "" ∧ w.toList.any isBlank = false

instance (w : String) : Decidable (IsSolid w) :=
  inferInstanceAs (Decidable (w ≠ "" ∧ w.toList.any isBlank = false))

theorem IsSolid.not_isBlank {w : String} (h : IsSolid w) : ∀ c ∈ w.toList, isBlank c = false := by
  simpa using h.2

/-- A space ends the word in front of it. -/
theorem words_append {w : String} (h : IsSolid w) (text : String) :
    words (w ++ " " ++ text) = w :: words text := by
  unfold words
  rw [String.toList_append, String.toList_append, List.append_assoc]
  rw [show " ".toList ++ text.toList = ' ' :: text.toList from rfl]
  rw [List.splitOnP_append_cons_of_forall_mem h.not_isBlank ' ' (by decide)]
  simp [h.1]

theorem words_intercalate {ws : List String} (h : ∀ w ∈ ws, IsSolid w) :
    words (String.intercalate " " ws) = ws := by
  induction ws with
  | nil => simp [words]
  | cons w ws ih =>
    have hw := h w (by simp)
    have hws := ih fun v hv => h v (by simp [hv])
    cases ws with
    | nil =>
      rw [String.intercalate_singleton, words, List.splitOnP_eq_singleton hw.not_isBlank]
      simp [hw.1]
    | cons v ws => rw [String.intercalate_cons_cons, words_append hw, hws]

theorem isBlank_of_isDigit {c : Char} (h : c.isDigit = true) : isBlank c = false := by
  have hc : 48 ≤ c.toNat ∧ c.toNat ≤ 57 := by
    simpa [Char.isDigit, UInt32.le_iff_toNat_le] using h
  simp only [isBlank, blankRanges, List.any_cons, List.any_nil, Bool.or_eq_false_iff,
    Bool.and_eq_false_iff, decide_eq_false_iff_not, and_true]
  omega

/-- Made of digits, points and minus signs, with a digit among them. -/
structure IsNumeral (w : String) : Prop where
  chars : ∀ c ∈ w.toList, c.isDigit = true ∨ c = '.' ∨ c = '-'
  digit : ∃ c ∈ w.toList, c.isDigit = true

theorem IsNumeral.isSolid {w : String} (h : IsNumeral w) : IsSolid w := by
  refine ⟨?_, List.any_eq_false.mpr fun c hc => ?_⟩
  · rintro rfl
    obtain ⟨c, hc, -⟩ := h.digit
    cases hc
  · rcases h.chars c hc with hd | rfl | rfl
    · rw [isBlank_of_isDigit hd]; decide
    · decide
    · decide

end Text

/-! ## Operators by their symbols -/

namespace Operator

def all : List Operator :=
  [abs, floor, ceiling, increment, decrement, pluginState, leftDoorsIndex, rightDoorsIndex, add,
   subtract, multiply, modulo, quotient, equal, notEqual, greater, greaterOrEqual, duplicate, swap,
   mulAdd, choose]

/-- The operator that is written as a word. -/
def ofSymbol? (w : String) : Option Operator := all.find? fun op => op.symbol == w

theorem ofSymbol?_symbol (op : Operator) : ofSymbol? op.symbol = some op := by
  cases op <;> decide

theorem isSolid_symbol (op : Operator) : Text.IsSolid op.symbol := by
  cases op <;> decide

theorem symbol_of_ofSymbol? {w : String} {op : Operator} (h : ofSymbol? w = some op) :
    op.symbol = w := by
  simpa using List.find?_some h

theorem symbol_any_isDigit (op : Operator) : op.symbol.toList.any Char.isDigit = false := by
  cases op <;> decide

/-- No number is taken for an operator. -/
theorem ofSymbol?_of_isNumeral {w : String} (h : Text.IsNumeral w) : ofSymbol? w = none := by
  rw [Option.eq_none_iff_forall_ne_some]
  intro op hop
  obtain ⟨c, hc, hd⟩ := h.digit
  rw [← symbol_of_ofSymbol? hop] at hc
  exact List.any_eq_false.mp (symbol_any_isDigit op) c hc hd

end Operator

/-! ## The texts of numbers -/

namespace Decimal

open Text

theorem isDigit_of_mem_digitChars {n : Nat} {c : Char} (h : c ∈ digitChars n) :
    c.isDigit = true := Nat.isDigit_of_mem_toDigits (by decide) (by decide) h

theorem exists_mem_digitChars (n : Nat) : ∃ c, c ∈ digitChars n :=
  List.exists_mem_of_ne_nil _ Nat.toDigits_ne_nil

/-- Positional notation is made of digits and points. -/
theorem mem_positionalChars {n : Nat} {e : Int} {c : Char} (h : c ∈ positionalChars n e) :
    c.isDigit = true ∨ c = '.' := by
  have digit {c : Char} (hc : c ∈ digitChars n) : c.isDigit = true ∨ c = '.' :=
    .inl (isDigit_of_mem_digitChars hc)
  have zero {c : Char} {k : Nat} (hc : c ∈ List.replicate k '0') : c.isDigit = true ∨ c = '.' := by
    rw [List.eq_of_mem_replicate hc]; exact .inl rfl
  unfold positionalChars at h
  dsimp only at h
  split at h
  · rcases List.mem_append.mp h with h | h
    · exact digit h
    · exact zero h
  · split at h
    · simp only [List.mem_append, List.mem_cons] at h
      rcases h with h | rfl | h
      · exact digit (List.mem_of_mem_take h)
      · exact .inr rfl
      · exact digit (List.mem_of_mem_drop h)
    · simp only [List.mem_append, List.mem_cons] at h
      rcases h with rfl | rfl | h | h
      · exact .inl rfl
      · exact .inr rfl
      · exact zero h
      · exact digit h

theorem digitChars_subset_positionalChars (n : Nat) (e : Int) :
    digitChars n ⊆ positionalChars n e := by
  intro c hc
  unfold positionalChars
  dsimp only
  split
  · exact List.mem_append_left _ hc
  · split
    next =>
      rw [← List.take_append_drop ((digitChars n).length - (-e).toNat) (digitChars n)] at hc
      rcases List.mem_append.mp hc with h | h
      · exact List.mem_append_left _ h
      · exact List.mem_append_right _ (List.mem_cons_of_mem _ h)
    next =>
      exact List.mem_cons_of_mem _ (List.mem_cons_of_mem _ (List.mem_append_right _ hc))

/-- Digits and points behind an optional minus sign. -/
theorem isNumeral_positionalChars (negative : Bool) (n : Nat) (e : Int) :
    IsNumeral (String.ofList (if negative then '-' :: positionalChars n e
      else positionalChars n e)) := by
  obtain ⟨d, hd⟩ := exists_mem_digitChars n
  have hdigit := isDigit_of_mem_digitChars hd
  have hmem := digitChars_subset_positionalChars n e hd
  cases negative with
  | false =>
    rw [if_neg (by decide)]
    refine ⟨fun c hc => ?_, d, by simpa using hmem, hdigit⟩
    rw [String.toList_ofList] at hc
    exact (mem_positionalChars hc).imp_right .inl
  | true =>
    rw [if_pos rfl]
    refine ⟨fun c hc => ?_, d, by simp [hmem], hdigit⟩
    rw [String.toList_ofList] at hc
    rcases List.mem_cons.mp hc with rfl | hc
    · exact .inr (.inr rfl)
    · exact (mem_positionalChars hc).imp_right .inl

end Decimal

/-! ## Words that are no operators -/

/-- A solid word that is not the symbol of an operator. -/
structure Word.IsOperand (w : String) : Prop where
  solid : Text.IsSolid w
  plain : Operator.ofSymbol? w = none

namespace Word

instance (w : String) : Decidable (IsOperand w) :=
  decidable_of_iff (Text.IsSolid w ∧ Operator.ofSymbol? w = none)
    ⟨fun h => ⟨h.1, h.2⟩, fun h => ⟨h.1, h.2⟩⟩

theorem isOperand_of_isNumeral {w : String} (h : Text.IsNumeral w) : IsOperand w :=
  ⟨h.isSolid, Operator.ofSymbol?_of_isNumeral h⟩

theorem isOperand_floatText (x : Float) : IsOperand (Decimal.floatText x) := by
  unfold Decimal.floatText
  split
  · split
    · decide
    · split <;> decide
  · split
    · decide
    · exact isOperand_of_isNumeral (Decimal.isNumeral_positionalChars _ _ _)

/-- An integer is written in positional notation. -/
theorem toString_eq_positional (n : Int) :
    toString n = String.ofList (if n < 0 then '-' :: Decimal.positionalChars n.natAbs 0
      else Decimal.positionalChars n.natAbs 0) := by
  cases n with
  | ofNat n =>
    rw [if_neg (by simp)]
    show Nat.repr n = _
    simp [Decimal.positionalChars, Decimal.digitChars, Nat.repr_eq_ofList_toDigits]
  | negSucc n =>
    rw [if_pos (by omega)]
    show "-" ++ Nat.repr (n + 1) = _
    simp [Decimal.positionalChars, Decimal.digitChars, Nat.repr_eq_ofList_toDigits]

theorem isOperand_toString (n : Int) : IsOperand (toString n) := by
  rw [toString_eq_positional]
  simpa using isOperand_of_isNumeral (Decimal.isNumeral_positionalChars (decide (n < 0)) n.natAbs 0)

theorem isOperand_variable {s : String} (h : s ∈ Expr.trainVariables) : IsOperand s := by
  have hall : (Expr.trainVariables.all fun s => IsOperand s) = true := by decide
  simpa using List.all_eq_true.mp hall s h

end Word

/-! ## Reading an expression off its text -/

namespace Expr

/-- The words that may stand in the text of an expression. -/
inductive IsWord : String → Prop where
  | number (x : Float) : IsWord (Decimal.floatText x)
  | integer (n : Int) : IsWord (toString n)
  | name {s : String} : s ∈ trainVariables → IsWord s
  | operator (op : Operator) : IsWord op.symbol

/-- The height of the stack after running words from a given height on; none if an
operator misses operands. -/
def heightAfter? : Nat → List String → Option Nat
  | n, [] => some n
  | n, w :: ws =>
    match Operator.ofSymbol? w with
    | some op => if op.takes ≤ n then heightAfter? (n - op.takes + op.leaves) ws else none
    | none => heightAfter? (n + 1) ws

theorem heightAfter?_cons_of_isOperand {w : String} (h : Word.IsOperand w) (n : Nat)
    (ws : List String) : heightAfter? n (w :: ws) = heightAfter? (n + 1) ws := by
  rw [heightAfter?, h.plain]

/-- A text that is a well-formed program for one value. -/
structure IsProgram (text : String) : Prop where
  words : ∀ w ∈ Text.words text, IsWord w
  height : heightAfter? 0 (Text.words text) = some 1

variable {e : Expr Float}

theorem isWord_text {w : Word Float} (h : ∀ s, w = .name s → s ∈ trainVariables) :
    IsWord w.text := by
  cases w with
  | number x => exact .number x
  | integer n => exact .integer n
  | name s => exact .name (h s rfl)
  | operator op => exact .operator op

theorem IsWord.isSolid {w : String} (h : IsWord w) : Text.IsSolid w := by
  cases h with
  | number x => exact (Word.isOperand_floatText x).solid
  | integer n => exact (Word.isOperand_toString n).solid
  | name hs => exact (Word.isOperand_variable hs).solid
  | operator op => exact op.isSolid_symbol

/-- The text of an expression falls apart into the texts of its words. -/
theorem words_text (h : ∀ s, .name s ∈ e → s ∈ trainVariables) :
    Text.words e.text = e.map Word.text := by
  refine Text.words_intercalate fun w hw => ?_
  obtain ⟨v, hv, rfl⟩ := List.mem_map.mp hw
  exact (isWord_text fun s hs => h s (hs ▸ hv)).isSolid

/-- The texts of words do to the stack what the words do. -/
theorem heightAfter?_text (h : ∀ s, .name s ∈ e → s ∈ trainVariables) (n : Nat) :
    heightAfter? n (e.map Word.text) = depthFrom? n e := by
  induction e generalizing n with
  | nil => rfl
  | cons w e ih =>
    have he := ih fun s hs => h s (List.mem_cons_of_mem _ hs)
    rw [List.map_cons]
    cases w with
    | number x =>
      rw [Word.text, heightAfter?_cons_of_isOperand (Word.isOperand_floatText x), he]; rfl
    | integer i =>
      rw [Word.text, heightAfter?_cons_of_isOperand (Word.isOperand_toString i), he]; rfl
    | name s =>
      have hs := Word.isOperand_variable (h s (by simp))
      rw [Word.text, heightAfter?_cons_of_isOperand hs, he]; rfl
    | operator op =>
      rw [heightAfter?, Word.text, op.ofSymbol?_symbol]
      simp only [depthFrom?, he]

/-- The text of an expression that computes a value is a program for one. -/
theorem Turns.isProgram (h : e.Computes) : IsProgram e.text := by
  have hwords := words_text h.reads
  refine ⟨fun w hw => ?_, ?_⟩
  · rw [hwords] at hw
    obtain ⟨v, hv, rfl⟩ := List.mem_map.mp hw
    exact isWord_text fun s hs => h.reads s (hs ▸ hv)
  · rw [hwords, heightAfter?_text h.reads]
    exact h.depth

end Expr

end DriverDesk
