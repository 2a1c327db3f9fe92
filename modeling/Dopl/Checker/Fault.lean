import Dopl.Diagnostic
import Dopl.SymbolTable
import Dopl.Token

/-! # Why tokens are refused

The causes for which the checker refuses a token list, with the area each belongs to and its
wording. The place of a fault is not part of it: it is the position at which the run stopped. -/

namespace Dopl

/-- Why the checker refuses. -/
inductive CheckFault where
  /-- A keyword was required. -/
  | keywordRequired (keyword : Keyword) (got : Token)
  /-- A separator was required. -/
  | separatorRequired (separator : Separator) (got : Token)
  /-- A token of some kind was required. -/
  | kindRequired (kind : TokenKind) (got : Token)
  /-- The program goes on after its end. -/
  | afterFinish (got : Token)
  /-- No statement starts with the token. -/
  | notStatement (got : Token)
  /-- No term starts with the token. -/
  | notTerm (got : Token)
  /-- Neither a binary operator nor the end of the expression. -/
  | operatorRequired (got : Token)
  /-- A quoted text that is not one character. -/
  | badCharacter (text : String)
  /-- A name that is not declared. -/
  | undeclared (name : String)
  /-- No token is left. -/
  | endOfInput
  /-- A group of declarations without a name. -/
  | noName
  /-- A comma before the end of a group. -/
  | trailingComma
  /-- A comma that follows no name. -/
  | strayComma
  /-- A name that is not an identifier. -/
  | badName (name : String)
  /-- Two names without a comma between them. -/
  | missingComma (name : String)
  /-- A name declared before. -/
  | redeclared (name : String)
  /-- A token that has no place in a group of declarations. -/
  | notDeclaration (got : Token)
  /-- An assignment of a value of another type. -/
  | cannotAssign (value : ValueType) (target : Symbol)
  /-- A condition that is not a truth value. -/
  | notLogical (type : ValueType)
deriving DecidableEq, Repr

namespace CheckFault

/-- The area the fault belongs to. -/
def area : CheckFault → CheckArea
  | .noName | .trailingComma | .strayComma | .badName _ | .missingComma _ | .redeclared _
  | .notDeclaration _ => .declaration
  | .cannotAssign .. | .notLogical _ => .typing
  | .keywordRequired .. | .separatorRequired .. | .kindRequired .. | .afterFinish _
  | .notStatement _ | .notTerm _ | .operatorRequired _ | .badCharacter _ | .undeclared _
  | .endOfInput => .grammar

/-- The wording of the fault. A required word is named by its label; a token in its place is shown
by its text alone, elsewhere with its kind. -/
def text : CheckFault → String
  | .keywordRequired keyword got =>
    "Keyword not match: Keyword." ++ keyword.label ++ " required, got " ++ got.text
  | .separatorRequired separator got =>
    "Separator not match: Separator." ++ separator.label ++ " required, got " ++ got.text
  | .kindRequired kind got =>
    "Token not match: TokenType." ++ kind.label ++ " required, got " ++ got.shown
  | .afterFinish got => "Unexpected token after finish: " ++ got.shown
  | .notStatement got => "Unrecognized statement: " ++ got.shown
  | .notTerm got => "Not a term: " ++ got.shown
  | .operatorRequired got => "Binary operator required, got " ++ got.shown
  | .badCharacter text => "Bad character constant " ++ text
  | .undeclared name => "Undeclared identifier " ++ name
  | .endOfInput => "Unexpected end of input"
  | .noName => "No identifier declared"
  | .trailingComma => "Trailing comma"
  | .strayComma => "Comma without identifier"
  | .badName name => "Invalid identifier " ++ name
  | .missingComma name => "Missing comma before " ++ name
  | .redeclared name => "Identifier " ++ name ++ " already declared"
  | .notDeclaration got => "Unrecognized token in declaration: " ++ got.shown
  | .cannotAssign value target =>
    "Cannot assign " ++ value.text ++ " to " ++ target.type.text ++ " " ++ target.name
  | .notLogical type => "Condition is " ++ type.text ++ ", logical required"

/-- The fault as it is reported at a position. -/
def placedAt (fault : CheckFault) (position : Int) : Diagnostic :=
  .checking fault.area fault.text position

end CheckFault

end Dopl
