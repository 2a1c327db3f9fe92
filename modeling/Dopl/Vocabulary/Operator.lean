/-! # Operators

Operators are written as a word between two dots. All but the negation join two operands; the minus
sign and the negation may stand before one. -/

namespace Dopl

/-- An operator. -/
inductive Operator where
  /-- Addition. -/
  | plus
  /-- Subtraction, or change of sign. -/
  | minus
  /-- Multiplication. -/
  | mul
  /-- Division. -/
  | div
  /-- Conjunction. -/
  | and
  /-- Disjunction. -/
  | or
  /-- Negation. -/
  | not
  /-- Equality. -/
  | eq
  /-- Inequality. -/
  | ne
  /-- Strictly less. -/
  | lt
  /-- Strictly greater. -/
  | gt
  /-- Less or equal. -/
  | le
  /-- Greater or equal. -/
  | ge
deriving DecidableEq, Repr

/-- The families of operators. -/
inductive OperatorClass where
  /-- Works on numbers. -/
  | arithmetic
  /-- Works on truth values. -/
  | logic
  /-- Compares two values. -/
  | relation
deriving DecidableEq, Repr

/-- The label of the family in tables. -/
def OperatorClass.label : OperatorClass → String
  | .arithmetic => "ARITH"
  | .logic => "LOGIC"
  | .relation => "REL"

namespace Operator

/-- The operators, in the order of their codes. -/
def all : List Operator :=
  [.plus, .minus, .mul, .div, .and, .or, .not, .eq, .ne, .lt, .gt, .le, .ge]

/-- The operator as a program writes it. -/
def text : Operator → String
  | .plus => ".plus."
  | .minus => ".minus."
  | .mul => ".mul."
  | .div => ".div."
  | .and => ".and."
  | .or => ".or."
  | .not => ".not."
  | .eq => ".eq."
  | .ne => ".ne."
  | .lt => ".lt."
  | .gt => ".gt."
  | .le => ".le."
  | .ge => ".ge."

/-- The label of the operator in tables, in capitals. -/
def label : Operator → String
  | .plus => "PLUS"
  | .minus => "MINUS"
  | .mul => "MUL"
  | .div => "DIV"
  | .and => "AND"
  | .or => "OR"
  | .not => "NOT"
  | .eq => "EQ"
  | .ne => "NE"
  | .lt => "LT"
  | .gt => "GT"
  | .le => "LE"
  | .ge => "GE"

/-- The code of the operator: its place among the operators. -/
def code (operator : Operator) : Nat :=
  all.idxOf operator

/-- The operator that a word is. -/
def ofText? (word : String) : Option Operator :=
  all.find? fun operator => operator.text == word

/-- A word is an operator iff it is that operator's text. -/
theorem ofText?_eq_some_iff (word : String) (operator : Operator) :
    ofText? word = some operator ↔ word = operator.text := by
  constructor
  · intro found
    have same := List.find?_some found
    simpa using (beq_iff_eq.mp same).symm
  · rintro rfl
    cases operator <;> rfl

/-- The family of the operator. -/
def operatorClass : Operator → OperatorClass
  | .plus | .minus | .mul | .div => .arithmetic
  | .and | .or | .not => .logic
  | .eq | .ne | .lt | .gt | .le | .ge => .relation

/-- The number of operands the operator joins. -/
def arity : Operator → Nat
  | .not => 1
  | _ => 2

/-- Whether the operator may stand between two operands. -/
def isBinary (operator : Operator) : Bool :=
  operator.arity == 2

/-- Whether the operator may stand before an operand. -/
def isUnary : Operator → Bool
  | .minus | .not => true
  | _ => false

/-- Whether the operator makes the expression it joins logical, whatever its operands. -/
def yieldsLogical (operator : Operator) : Bool :=
  operator.operatorClass != .arithmetic

/-- It does so iff it works on truth values or compares. -/
theorem yieldsLogical_iff (operator : Operator) :
    operator.yieldsLogical = true ↔
      operator.operatorClass = .logic ∨ operator.operatorClass = .relation := by
  rw [yieldsLogical, bne_iff_ne]
  cases operator.operatorClass <;> decide

end Operator

end Dopl
