import DriverDesk.Arith
import DriverDesk.Decimal.Positional

/-!
# Postfix expressions

The expressions that bind an element to the state of the train. An expression is
a list of words; the words before an operator leave its operands on a stack. The
text of an expression is its words with a space between neighbours.
-/

namespace DriverDesk

/-- The operators, with the stack each expects and leaves. -/
inductive Operator where
  | abs
  | floor
  | ceiling
  /-- One more. -/
  | increment
  /-- One less. -/
  | decrement
  /-- The plugin state of an index. -/
  | pluginState
  | leftDoorsIndex
  | rightDoorsIndex
  | add
  | subtract
  | multiply
  | modulo
  | quotient
  | equal
  | notEqual
  | greater
  | greaterOrEqual
  /-- The top once more. -/
  | duplicate
  /-- The top two in the other order. -/
  | swap
  /-- `a b c` becomes `a · b + c`. -/
  | mulAdd
  /-- `a b c` becomes `b` if `a` is not zero, `c` otherwise. -/
  | choose
  deriving DecidableEq, Repr

/-- A word of an expression. -/
inductive Word (K : Type) where
  | number (x : K)
  | integer (n : Int)
  /-- A variable of the running train. -/
  | name (s : String)
  | operator (op : Operator)
  deriving DecidableEq, Repr

/-- A postfix expression. -/
abbrev Expr (K : Type) := List (Word K)

namespace Operator

def symbol : Operator → String
  | abs => "abs"
  | floor => "floor"
  | ceiling => "ceiling"
  | increment => "++"
  | decrement => "--"
  | pluginState => "pluginstate"
  | leftDoorsIndex => "leftdoorsindex"
  | rightDoorsIndex => "rightdoorsindex"
  | add => "+"
  | subtract => "-"
  | multiply => "*"
  | modulo => "mod"
  | quotient => "quotient"
  | equal => "=="
  | notEqual => "!="
  | greater => ">"
  | greaterOrEqual => ">="
  | duplicate => "~"
  | swap => "<>"
  | mulAdd => "fma"
  | choose => "?"

/-- The number of operands. -/
def takes : Operator → Nat
  | abs | floor | ceiling | increment | decrement | pluginState | leftDoorsIndex
  | rightDoorsIndex | duplicate => 1
  | add | subtract | multiply | modulo | quotient | equal | notEqual | greater
  | greaterOrEqual | swap => 2
  | mulAdd | choose => 3

/-- The number of results. -/
def leaves : Operator → Nat
  | duplicate | swap => 2
  | _ => 1

end Operator

namespace Word

/-- The text of a word whose numbers are doubles. -/
def text : Word Float → String
  | number x => Decimal.floatText x
  | integer n => toString n
  | name s => s
  | operator op => op.symbol

end Word

namespace Expr

/-- The text of an expression. -/
def text (e : Expr Float) : String := String.intercalate " " (e.map Word.text)

/-- The height of the stack after an expression that starts at a given height;
none if an operator misses operands. -/
def depthFrom? {K : Type} : Nat → Expr K → Option Nat
  | n, [] => some n
  | n, .operator op :: r => if op.takes ≤ n then depthFrom? (n - op.takes + op.leaves) r else none
  | n, _ :: r => depthFrom? (n + 1) r

end Expr

end DriverDesk
