import Dopl.Checker.Fault
import Dopl.Checker.State
import Dopl.Vocabulary.Word

/-! # One token

**`step`** says what the checker does with the next token in a state: it takes the token and waits
for something else, takes it and stops, or stops without taking it. A stop is a success, with the
type of the value if an expression or term was read alone, or the fault of the token.

The grammar, with types worked out from left to right:

* program: `start`, groups of declarations, statements, `finish`
* group: a type keyword, names with commas between them, `;`
* statement: `name <- expression ;`, `if condition then statements endif ;` with
  `else statements` before `endif` if wanted, `print expression ;`,
  `loopif condition do statements endloop ;`
* expression: terms with binary operators between them; operators are not ranked
* term: unary operators, then a constant, a declared name or an expression in parentheses -/

namespace Dopl.Checker

/-- What becomes of a rule that is over. -/
inductive Answer where
  /-- It is complete, with the type of its value if it has one. -/
  | accepted (type : Option ValueType)
  /-- The tokens are refused. -/
  | refused (fault : CheckFault)
deriving DecidableEq, Repr

/-- What the checker does with a token. -/
inductive Move where
  /-- Takes the token and goes on. -/
  | take (state : State) (symbols : SymbolTable)
  /-- Takes the token and stops. -/
  | takeLast (answer : Answer)
  /-- Stops without the token. -/
  | leave (answer : Answer)
deriving DecidableEq, Repr

namespace Move

/-- Refuses the token, which is not taken. -/
def refuse (fault : CheckFault) : Move :=
  .leave (.refused fault)

/-- Refuses the token after taking it. -/
def refuseTaken (fault : CheckFault) : Move :=
  .takeLast (.refused fault)

end Move

/-! ## Required tokens -/

/-- Takes a keyword that has to stand here. -/
def requireKeyword (keyword : Keyword) (token : Token) (move : Move) : Move :=
  if token.lexeme = .keyword keyword then move else .refuse (.keywordRequired keyword token)

/-- Takes a separator that has to stand here. -/
def requireSeparator (separator : Separator) (token : Token) (move : Move) : Move :=
  if token.lexeme = .separator separator then move
  else .refuse (.separatorRequired separator token)

/-! ## Statements -/

/-- Takes the semicolon that ends a statement. -/
def endStatement (nest : Nest) (symbols : SymbolTable) (token : Token) : Move :=
  requireSeparator .semicolon token
    (if nest.isList then .take (.statement nest) symbols else .takeLast (.accepted none))

/-- Meets a keyword that ends the list of statements at a place. The innermost open body says which
keyword it has to be; outside all bodies it is the last keyword of a program, and a list alone ends
before any of them. -/
def endList (nest : Nest) (symbols : SymbolTable) (token : Token) : Move :=
  match nest.bodies with
  | [] =>
    match nest.outermost with
    | .program => requireKeyword .finish token (.take .trailer symbols)
    | .statements | .statement => .leave (.accepted none)
  | body :: bodies =>
    let outside : Nest := { nest with bodies := bodies }
    match body with
    | .consequent =>
      if token.lexeme = .keyword .else_ then
        .take (.statement (outside.enter .alternative)) symbols
      else requireKeyword .endif token (.take (.semicolon outside) symbols)
    | .alternative => requireKeyword .endif token (.take (.semicolon outside) symbols)
    | .loop => requireKeyword .endloop token (.take (.semicolon outside) symbols)

/-- Meets the start of a statement, or the end of the list it belongs to. -/
def stepStatement (nest : Nest) (symbols : SymbolTable) (token : Token) : Move :=
  match token.lexeme with
  | .name name =>
    match symbols.lookup name with
    | some symbol => .take (.arrow symbol nest) symbols
    | none => .refuseTaken (.undeclared name)
  | .keyword keyword =>
    if nest.isList && keyword.endsStatements then endList nest symbols token
    else
      match keyword with
      | .if_ => .take (.term { purpose := .branch nest }) symbols
      | .print => .take (.term { purpose := .output nest }) symbols
      | .loopif => .take (.term { purpose := .loop nest }) symbols
      | _ => .refuse (.notStatement token)
  | _ => .refuse (.notStatement token)

/-! ## Declarations -/

/-- Meets a token of a group of declarations. -/
def stepGroup (type : ValueType) (phase : GroupPhase) (alone : Bool) (symbols : SymbolTable)
    (token : Token) : Move :=
  match token.lexeme with
  | .separator .semicolon =>
    match phase with
    | .empty => .refuseTaken .noName
    | .afterComma => .refuseTaken .trailingComma
    | .afterName => if alone then .takeLast (.accepted none) else .take .declarations symbols
  | .separator .comma =>
    match phase with
    | .afterName => .take (.group type .afterComma alone) symbols
    | .empty | .afterComma => .refuseTaken .strayComma
  | .name name =>
    if !isIdentifier name then .refuseTaken (.badName name)
    else if phase = .afterName then .refuseTaken (.missingComma name)
    else
      match symbols.declare? name type with
      | some declared => .take (.group type .afterName alone) declared
      | none => .refuseTaken (.redeclared name)
  | _ => .refuse (.notDeclaration token)

/-! ## Expressions -/

/-- Takes the token that completes an operand of a type. -/
def supply (reading : Reading) (primary : ValueType) (symbols : SymbolTable) : Move :=
  let type := reading.innermost.absorb primary
  if reading.enclosing.isEmpty && reading.purpose == .term then .takeLast (.accepted (some type))
  else .take (.operator type reading.enclosing reading.purpose) symbols

/-- Meets an operand. -/
def stepOperand (reading : Reading) (symbols : SymbolTable) (token : Token) : Move :=
  match token.lexeme with
  | .integer => supply reading .integer symbols
  | .character text =>
    if isCharacterConstant text then supply reading .character symbols
    else .refuseTaken (.badCharacter text)
  | .name name =>
    match symbols.lookup name with
    | some symbol => supply reading symbol.type symbols
    | none => .refuseTaken (.undeclared name)
  | .separator .opening =>
    .take (.term ⟨{}, reading.innermost :: reading.enclosing, reading.purpose⟩) symbols
  | _ => .refuse (.notTerm token)

/-- Meets an operator before an operand, or the operand. -/
def stepTerm (reading : Reading) (symbols : SymbolTable) (token : Token) : Move :=
  match token.lexeme with
  | .operator .minus => .take (.term reading) symbols
  | .operator .not =>
    .take (.term ⟨{ reading.innermost with negated := true }, reading.enclosing, reading.purpose⟩)
      symbols
  | _ => stepOperand reading symbols token

/-- Meets the end of an expression of a type. -/
def endExpression (type : ValueType) (enclosing : List Awaiting) (purpose : Purpose)
    (symbols : SymbolTable) (token : Token) : Move :=
  match enclosing with
  | awaiting :: outer =>
    requireSeparator .closing token
      (supply ⟨awaiting, outer, purpose⟩ type symbols)
  | [] =>
    match purpose with
    | .term | .expression => .leave (.accepted (some type))
    | .condition => if type = .logical then .leave (.accepted none) else .refuse (.notLogical type)
    | .assignment target nest =>
      if type = target.type then endStatement nest symbols token
      else .refuse (.cannotAssign type target)
    | .output nest => endStatement nest symbols token
    | .branch nest =>
      if type = .logical then
        requireKeyword .then_ token (.take (.statement (nest.enter .consequent)) symbols)
      else .refuse (.notLogical type)
    | .loop nest =>
      if type = .logical then
        requireKeyword .do_ token (.take (.statement (nest.enter .loop)) symbols)
      else .refuse (.notLogical type)

/-- Meets an operator between two terms, or the end of the expression. -/
def stepOperator (type : ValueType) (enclosing : List Awaiting) (purpose : Purpose)
    (symbols : SymbolTable) (token : Token) : Move :=
  if token.endsExpression then endExpression type enclosing purpose symbols token
  else
    match token.lexeme with
    | .operator operator =>
      if operator.isBinary then
        let left := if operator.yieldsLogical then .logical else type
        .take (.term ⟨{ left := some left }, enclosing, purpose⟩) symbols
      else .refuse (.operatorRequired token)
    | _ => .refuse (.operatorRequired token)

/-! ## All states -/

/-- What the checker does with the next token. -/
def step (state : State) (symbols : SymbolTable) (token : Token) : Move :=
  match state with
  | .opening => requireKeyword .start token (.take .declarations symbols)
  | .declarations =>
    match token.valueType? with
    | some type => .take (.group type .empty false) symbols
    | none => stepStatement { outermost := .program } symbols token
  | .groupHead =>
    match token.valueType? with
    | some type => .take (.group type .empty true) symbols
    | none => .refuse (.kindRequired .keyword token)
  | .group type phase alone => stepGroup type phase alone symbols token
  | .statement nest => stepStatement nest symbols token
  | .arrow target nest =>
    if token.lexeme = .assignment then
      .take (.term { purpose := .assignment target nest }) symbols
    else .refuse (.kindRequired .assignment token)
  | .term reading => stepTerm reading symbols token
  | .operand reading => stepOperand reading symbols token
  | .operator type enclosing purpose => stepOperator type enclosing purpose symbols token
  | .semicolon nest => endStatement nest symbols token
  | .trailer =>
    if token.lexeme = .endOfInput then .leave (.accepted none) else .refuse (.afterFinish token)

end Dopl.Checker
