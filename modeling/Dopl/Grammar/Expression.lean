import Dopl.SymbolTable
import Dopl.Token
import Dopl.Vocabulary.Word

/-! # Terms and expressions

Which lists of lexemes are terms and expressions, and of which type, given the declared symbols. The
type of an expression is given as a whole, not built up from left to right:

* **`joinedType`** — the type of terms joined by operators.
* **`Term`**, **`Operands`**, **`Expression`** — a term, operators each with the term behind it, and
  a term with operators and terms behind it. -/

namespace Dopl.Grammar

/-- The type of an expression, from the type of its first term and the operators with the types of
the terms behind them: logical if the first term is or if some operator makes it so, otherwise a
character if some term is one, and an integer if none is. -/
def joinedType (first : ValueType) (rest : List (Operator × ValueType)) : ValueType :=
  if first = .logical ∨ ∃ pair ∈ rest, pair.1.yieldsLogical then .logical
  else if first = .character ∨ ∃ pair ∈ rest, pair.2 = .character then .character
  else .integer

mutual

/-- The lexemes are a term of the type. -/
inductive Term (symbols : SymbolTable) : List Lexeme → ValueType → Prop where
  /-- An integer constant. -/
  | integer : Term symbols [.integer] .integer
  /-- A character constant. -/
  | character {text : String} :
      isCharacterConstant text = true → Term symbols [.character text] .character
  /-- A declared name has its declared type. -/
  | name {name : String} {symbol : Symbol} :
      symbols.lookup name = some symbol → Term symbols [.name name] symbol.type
  /-- A minus sign keeps the type. -/
  | minus {lexemes : List Lexeme} {type : ValueType} :
      Term symbols lexemes type → Term symbols (.operator .minus :: lexemes) type
  /-- A negation is logical. -/
  | not {lexemes : List Lexeme} {type : ValueType} :
      Term symbols lexemes type → Term symbols (.operator .not :: lexemes) .logical
  /-- Parentheses keep the type. -/
  | parentheses {lexemes : List Lexeme} {type : ValueType} :
      Expression symbols lexemes type →
        Term symbols (.separator .opening :: lexemes ++ [.separator .closing]) type

/-- The lexemes are binary operators, each with a term behind it. -/
inductive Operands (symbols : SymbolTable) :
    List Lexeme → List (Operator × ValueType) → Prop where
  /-- No operator. -/
  | nil : Operands symbols [] []
  /-- One operator and its term before the others. -/
  | cons {operator : Operator} {lexemes rest : List Lexeme} {type : ValueType}
      {pairs : List (Operator × ValueType)} :
      operator.isBinary = true → Term symbols lexemes type → Operands symbols rest pairs →
        Operands symbols (.operator operator :: lexemes ++ rest) ((operator, type) :: pairs)

/-- The lexemes are an expression of the type. -/
inductive Expression (symbols : SymbolTable) : List Lexeme → ValueType → Prop where
  /-- A term, and operators with terms behind it. -/
  | join {lexemes rest : List Lexeme} {type : ValueType} {pairs : List (Operator × ValueType)} :
      Term symbols lexemes type → Operands symbols rest pairs →
        Expression symbols (lexemes ++ rest) (joinedType type pairs)

end

end Dopl.Grammar
