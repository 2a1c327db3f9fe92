import Dopl.Checker.State
import Dopl.Grammar.Program

/-! # Expressions and statements from left to right

The type of an expression is defined as a whole, and its terms are counted from the first one on, as
statements are. Read from left to right it comes to the same:

* **`combine`** — the type so far, joined with one operator and term more.
* **`joinedType_cons`**, **`joinedType_concat`** — the whole from its first step, and from its last.
* **`joinedType_append`**, **`joinedType_of_perm`** — a left part first, and another order.
* **`Expression.concat`** — an expression with one operator and term more is an expression.
* **`Statements.concat`** — statements with one statement more are statements. -/

namespace Dopl.Checker

/-- The type that stands left of the next operand, from the type so far and the operator between. -/
def leftType (type : ValueType) (operator : Operator) : ValueType :=
  if operator.yieldsLogical then .logical else type

/-- The type so far, joined by an operator with an operand of a type. -/
def combine (type : ValueType) (operator : Operator) (operand : ValueType) : ValueType :=
  ({ left := some (leftType type operator) } : Awaiting).absorb operand

/-- A logical operator joins to a logical value. -/
theorem combine_of_yieldsLogical {type operand : ValueType} {operator : Operator}
    (yields : operator.yieldsLogical = true) : combine type operator operand = .logical := by
  simp [combine, leftType, Awaiting.absorb, yields]

/-- Another operator keeps the type on its left, unless a character joins what is not logical. -/
theorem combine_of_arithmetic {type operand : ValueType} {operator : Operator}
    (yields : operator.yieldsLogical = false) :
    combine type operator operand =
      if type ≠ .logical ∧ operand = .character then .character else type := by
  simp [combine, leftType, Awaiting.absorb, yields]

end Dopl.Checker

namespace Dopl.Grammar

open Checker

/-- A term alone keeps its type. -/
@[simp] theorem joinedType_nil (type : ValueType) : joinedType type [] = type := by
  cases type <;> rfl

/-- The first operator and its term are joined first. -/
theorem joinedType_cons (type operand : ValueType) (operator : Operator)
    (pairs : List (Operator × ValueType)) :
    joinedType type ((operator, operand) :: pairs) =
      joinedType (combine type operator operand) pairs := by
  cases yields : operator.yieldsLogical with
  | true =>
      rw [combine_of_yieldsLogical yields, joinedType, if_pos, joinedType, if_pos (.inl rfl)]
      exact .inr ⟨_, List.mem_cons_self, yields⟩
  | false =>
      rw [combine_of_arithmetic yields]
      simp only [joinedType, List.mem_cons, exists_eq_or_imp, yields]
      -- `Prod.exists` would split the pairs under a condition that then is not decidable any more.
      cases type <;> cases operand <;> simp [-Prod.exists]

/-- The last operator and its term are joined last. -/
theorem joinedType_concat (type operand : ValueType) (operator : Operator)
    (pairs : List (Operator × ValueType)) :
    joinedType type (pairs ++ [(operator, operand)]) =
      combine (joinedType type pairs) operator operand := by
  induction pairs generalizing type with
  | nil => rw [List.nil_append, joinedType_cons, joinedType_nil, joinedType_nil]
  | cons pair rest induction =>
      rw [List.cons_append, joinedType_cons, joinedType_cons, induction]

/-- A left part may be joined first, and the rest to its type. -/
theorem joinedType_append (type : ValueType) (pairs others : List (Operator × ValueType)) :
    joinedType type (pairs ++ others) = joinedType (joinedType type pairs) others := by
  induction pairs generalizing type with
  | nil => rw [List.nil_append, joinedType_nil]
  | cons pair rest induction => rw [List.cons_append, joinedType_cons, joinedType_cons, induction]

/-- The order of the operators with the terms behind them does not matter. -/
theorem joinedType_of_perm (type : ValueType) {pairs others : List (Operator × ValueType)}
    (perm : others.Perm pairs) : joinedType type others = joinedType type pairs := by
  unfold joinedType
  simp only [perm.mem_iff]

variable {symbols : SymbolTable}

/-- Operators with terms behind them go on with one operator and term more. -/
theorem Operands.concat {lexemes : List Lexeme} {pairs : List (Operator × ValueType)}
    (operands : Operands symbols lexemes pairs) {operator : Operator} {right : List Lexeme}
    {operand : ValueType} (joins : operator.isBinary = true) (term : Term symbols right operand) :
    Operands symbols (lexemes ++ .operator operator :: right) (pairs ++ [(operator, operand)]) :=
  match operands with
  | .nil => by
      have last := Operands.cons joins term .nil
      rw [List.append_nil] at last
      exact last
  | .cons before first rest => by
      rw [List.append_assoc]
      exact .cons before first (rest.concat joins term)

/-- A term alone is an expression. -/
theorem Expression.single {lexemes : List Lexeme} {type : ValueType}
    (term : Term symbols lexemes type) : Expression symbols lexemes type := by
  have expression := Expression.join term .nil
  rw [List.append_nil, joinedType_nil] at expression
  exact expression

/-- An expression goes on with one operator and term more. -/
theorem Expression.concat {lexemes right : List Lexeme} {type operand : ValueType}
    (left : Expression symbols lexemes type) {operator : Operator}
    (joins : operator.isBinary = true) (term : Term symbols right operand) :
    Expression symbols (lexemes ++ .operator operator :: right)
      (combine type operator operand) := by
  cases left with
  | join first operands =>
      rw [List.append_assoc, ← joinedType_concat]
      exact .join first (operands.concat joins term)

/-- Statements go on with one statement more. -/
theorem Statements.concat {lexemes last : List Lexeme} (statements : Statements symbols lexemes)
    (statement : Statement symbols last) : Statements symbols (lexemes ++ last) :=
  match statements with
  | .nil => by
      have single := Statements.cons statement .nil
      rw [List.append_nil] at single
      exact single
  | .cons first rest => by
      rw [List.append_assoc]
      exact .cons first (rest.concat statement)

end Dopl.Grammar
