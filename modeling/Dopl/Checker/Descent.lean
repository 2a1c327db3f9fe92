import Dopl.Report

/-! # The rules as procedures

The grammar of the checker once more, with one procedure for each rule, which calls the procedures
of the rules inside its own. A procedure compares the next token with what may stand there, takes it
or not, and fails at the first token that does not fit. On its way it reads tables, lists and values
that need not be there, and its loops need not end:

* **`Failure`** — why a procedure fails: the tokens are refused, the calls are nested too deeply, or
  something is read that is not there.
* **`Store`**, **`Action`** — what the procedures share, and a procedure.
* **`Turn`**, **`Turn.loop`** — a turn of a loop, which gives nothing where the loop ends, and the
  loop of it.
* **`Descent`** — how deep the calls may be nested, with the procedures of the rules and of the
  turns of their loops.
* **`Rule.descend`** — the procedure of a rule; **`descendSource`** — a source checked by it. -/

namespace Dopl.Checker

/-! ## Procedures -/

/-- What is not there. -/
inductive Lack where
  /-- The entry of a table. -/
  | entry
  /-- The item of a list. -/
  | item
  /-- A value that is not set yet. -/
  | value
deriving DecidableEq, Repr

/-- Why a procedure fails. -/
inductive Failure where
  /-- The tokens are refused at a position. -/
  | refused (fault : CheckFault) (position : Nat)
  /-- The calls are nested too deeply. -/
  | tooDeep
  /-- Something is read that is not there. -/
  | lacking (lack : Lack)
deriving DecidableEq, Repr

/-- Some tokens, and how many of them are taken. -/
structure Tape where
  /-- The tokens. -/
  tokens : List Token
  /-- The number of tokens taken. -/
  position : Nat
deriving DecidableEq, Repr

/-- What the procedures share. -/
structure Store where
  /-- The token matched last. -/
  current : Option Token := none
  /-- The next token. -/
  next : Option Token := none
  /-- The tokens that the next one was taken from. -/
  tape : Option Tape := none
  /-- The declared symbols. -/
  symbols : SymbolTable := {}
deriving DecidableEq, Repr

/-- The store at a cursor. -/
def Cursor.store (cursor : Cursor) (symbols : SymbolTable) : Store :=
  { current := cursor.current, next := some cursor.next
    tape := some ⟨cursor.tokens, cursor.position⟩, symbols }

/-- A procedure. It works on the store, and it fails or gives a value, or it does not end. -/
abbrev Action (α : Type) : Type :=
  ExceptT Failure (StateT Store Option) α

/-- How a procedure ends, with the store it leaves, or `none` if it does not end. -/
def Action.result {α : Type} (action : Action α) (store : Store) :
    Option (Except Failure α × Store) :=
  action.run.run store

/-- A turn of a loop. It gives what the next turn starts with, or nothing where the loop ends. -/
abbrev Turn (σ : Type) : Type :=
  σ → Action (Option σ)

/-- The loop of a turn, with what its last turn starts with. -/
def Turn.loop {σ : Type} (turn : Turn σ) (value : σ) : Action σ := do
  match ← turn value with
  | none => pure value
  | some value => turn |>.loop value
partial_fixpoint

/-- How deep procedures may still call each other, if there is a limit at all. -/
abbrev Descent : Type :=
  Option Nat

namespace Descent

/-- Reads something that has to be there. -/
def need {α : Type} (lack : Lack) : Option α → Action α
  | some value => pure value
  | none => throw (.lacking lack)

/-- The token matched last. -/
def currentToken : Action Token := do
  need .value (← get).current

/-- The next token. -/
def nextToken : Action Token := do
  need .value (← get).next

/-- Fails at the position reached. -/
def refuse {α : Type} (fault : CheckFault) : Action α := do
  let position := (← get).tape.elim 0 Tape.position
  throw (.refused fault position)

/-- The room that is left inside a level more. -/
def spend (cost : Nat) (room : Descent) : Action Descent :=
  if room.any fun room => decide (room < cost) then throw .tooDeep
  else pure (room.map fun room => room - cost)

/-! ## Tokens -/

/-- The first token of a tape that is not taken. -/
def lookAhead (tape : Tape) : Action Token :=
  if tape.tokens.length ≤ tape.position then throw (.refused .endOfInput tape.position)
  else need .item tape.tokens[tape.position]?

/-- Takes a token from the tape. -/
def takeToken : Action Token := do
  let tape ← need .value (← get).tape
  let token ← lookAhead tape
  modify fun store => { store with tape := some { tape with position := tape.position + 1 } }
  pure token

/-- Whether the next token is of a kind, with a text that is admitted. -/
def probe (kind : TokenKind) (admits : String → Action Bool) : Action Bool := do
  let next ← nextToken
  if next.kind = kind then admits next.text else pure false

/-- Takes the next token if it is of a kind, with a text that is admitted. -/
def accept (kind : TokenKind) (admits : String → Action Bool) : Action Bool := do
  if ← probe kind admits then
    modify fun store => { store with current := store.next }
    let token ← takeToken
    modify fun store => { store with next := some token }
    pure true
  else pure false

/-- Admits every text. -/
def anyText (_ : String) : Action Bool :=
  pure true

/-- Admits the name of a type. -/
def typeText (text : String) : Action Bool :=
  pure (ValueType.ofText? text).isSome

/-- Admits the word that ends a list of statements. -/
def enderText (text : String) : Action Bool :=
  pure (endsStatements text)

/-- Admits the operators that stand before an operand. -/
def unaryText (text : String) : Action Bool :=
  pure ((Operator.ofText? text).any Operator.isUnary)

/-- Admits the operators that stand between two operands. -/
def binaryText (text : String) : Action Bool := do
  if (Operator.ofText? text).isSome then
    let operator ← need .entry (Operator.ofText? text)
    pure operator.isBinary
  else pure false

/-- Takes the next token if it is a keyword. -/
def acceptKeyword (keyword : Keyword) : Action Bool :=
  accept .keyword fun text => pure (Keyword.ofText? text == some keyword)

/-- Takes the next token if it is a separator. -/
def acceptSeparator (separator : Separator) : Action Bool :=
  accept .separator fun text => pure (Separator.ofText? text == some separator)

/-- Takes the next token, which has to be of a kind, with a text that is admitted. -/
def expectKind (kind : TokenKind) (admits : String → Action Bool) : Action Unit := do
  if ← accept kind admits then pure ()
  else refuse (.kindRequired kind (← nextToken))

/-- Takes the next token, which has to be a keyword. -/
def expectKeyword (keyword : Keyword) : Action Unit := do
  if ← acceptKeyword keyword then pure ()
  else refuse (.keywordRequired keyword (← nextToken))

/-- Takes the next token, which has to be a separator. -/
def expectSeparator (separator : Separator) : Action Unit := do
  if ← acceptSeparator separator then pure ()
  else refuse (.separatorRequired separator (← nextToken))

/-- Whether the next token ends an expression. -/
def probeExpressionEnd : Action Bool := do
  pure (← nextToken).endsExpression

/-! ## Symbols -/

/-- The symbol declared under the text of a token. -/
def lookupSymbol (token : Token) : Action Symbol := do
  match (← get).symbols.lookup token.text with
  | some symbol => pure symbol
  | none => refuse (.undeclared token.text)

/-- Declares a name. -/
def declareSymbol (name : String) (type : ValueType) : Action Unit := do
  match (← get).symbols.declare? name type with
  | some declared => modify fun store => { store with symbols := declared }
  | none => refuse (.redeclared name)

/-! ## Declarations -/

/-- One turn of the loop of a group, by the numbers of its names and commas so far. -/
def declarationTurn (type : ValueType) : Turn (Nat × Nat) := fun counts => do
  let (names, commas) := counts
  if ← acceptSeparator .semicolon then
    if names = 0 then refuse .noName
    else if commas ≠ names - 1 then refuse .trailingComma
    else pure none
  else if ← acceptSeparator .comma then
    if names < commas + 1 then refuse .strayComma
    else pure (some (names, commas + 1))
  else if ← accept .name anyText then
    let token ← currentToken
    if !isIdentifier token.text then refuse (.badName token.text)
    else if 1 < names + 1 - commas then refuse (.missingComma token.text)
    else
      declareSymbol token.text type
      pure (some (names + 1, commas))
  else refuse (.notDeclaration (← nextToken))

/-- A group of declarations. -/
def declaration : Action Unit := do
  expectKind .keyword typeText
  let type ← need .entry (ValueType.ofText? (← currentToken).text)
  let _ ← Turn.loop (declarationTurn type) (0, 0)
  pure ()

/-! ## Expressions -/

/-- One turn of the loop over the operators before an operand, by whether one negates it. -/
def signTurn : Turn Bool := fun negated => do
  if ← accept .operator unaryText then
    let operator ← need .entry (Operator.ofText? (← currentToken).text)
    pure (some (if operator = .not then true else negated))
  else pure none

mutual

/-- A term without operators before it, with its type. -/
def primary (room : Descent) : Action ValueType := do
  if ← accept .integer anyText then pure .integer
  else if ← accept .character anyText then
    let token ← currentToken
    if isCharacterConstant token.text then pure .character
    else refuse (.badCharacter token.text)
  else if ← accept .name anyText then
    let symbol ← lookupSymbol (← currentToken)
    pure symbol.type
  else if ← acceptSeparator .opening then
    let inner ← spend 3 room
    let type ← inner |>.expression
    expectSeparator .closing
    pure type
  else refuse (.notTerm (← nextToken))
partial_fixpoint

/-- A term, with its type. -/
def term (room : Descent) : Action ValueType := do
  let negated ← Turn.loop signTurn false
  let type ← room |>.primary
  pure (if negated then .logical else type)
partial_fixpoint

/-- One turn of the loop of an expression, by the type of what is read of it. -/
def expressionTurn (room : Descent) : Turn ValueType := fun type => do
  if ← probeExpressionEnd then pure none
  else if ← accept .operator binaryText then
    let operator ← need .entry (Operator.ofText? (← currentToken).text)
    let left := if operator.yieldsLogical then .logical else type
    let right ← room |>.term
    pure (some (if left ≠ .logical ∧ right = .character then .character else left))
  else refuse (.operatorRequired (← nextToken))
partial_fixpoint

/-- The loop of an expression. -/
def expressionLoop (room : Descent) (type : ValueType) : Action ValueType := do
  match ← room |>.expressionTurn type with
  | none => pure type
  | some type => room |>.expressionLoop type
partial_fixpoint

/-- An expression, with its type. -/
def expression (room : Descent) : Action ValueType := do
  let type ← room |>.term
  room |>.expressionLoop type
partial_fixpoint

end

/-- A condition. -/
def condition (room : Descent) : Action Unit := do
  let type ← expression room
  if type ≠ .logical then refuse (.notLogical type) else pure ()

/-! ## Statements -/

/-- An assignment, behind its target. -/
def assignment (room : Descent) : Action Unit := do
  let target ← lookupSymbol (← currentToken)
  expectKind .assignment anyText
  let type ← expression room
  if type ≠ target.type then refuse (.cannotAssign type target)
  else expectSeparator .semicolon

/-- An output, behind its keyword. -/
def output (room : Descent) : Action Unit := do
  let _ ← expression room
  expectSeparator .semicolon

mutual

/-- The second body of a branch, if there is one. -/
def alternative (room : Descent) : Action Unit := do
  if ← acceptKeyword .else_ then room |>.statements
  else pure ()
partial_fixpoint

/-- A branch, behind its keyword. -/
def branch (room : Descent) : Action Unit := do
  condition room
  expectKeyword .then_
  let inner ← spend 2 room
  inner |>.statements
  inner |>.alternative
  expectKeyword .endif
  expectSeparator .semicolon
partial_fixpoint

/-- A loop, behind its keyword. -/
def repetition (room : Descent) : Action Unit := do
  condition room
  expectKeyword .do_
  let inner ← spend 2 room
  inner |>.statements
  expectKeyword .endloop
  expectSeparator .semicolon
partial_fixpoint

/-- A statement. -/
def statement (room : Descent) : Action Unit := do
  if ← accept .name anyText then assignment room
  else if ← acceptKeyword .if_ then room |>.branch
  else if ← acceptKeyword .print then output room
  else if ← acceptKeyword .loopif then room |>.repetition
  else refuse (.notStatement (← nextToken))
partial_fixpoint

/-- One turn of the loop over statements. -/
def statementsTurn (room : Descent) : Turn Unit := fun _ => do
  if ← probe .keyword enderText then pure none
  else
    room |>.statement
    pure (some ())
partial_fixpoint

/-- The statements up to a keyword that ends their list. -/
def statements (room : Descent) : Action Unit := do
  match ← room |>.statementsTurn () with
  | none => pure ()
  | some () => room |>.statements
partial_fixpoint

end

/-! ## Programs -/

/-- One turn of the loop over the groups of a program. -/
def programTurn : Turn Unit := fun _ => do
  if ← probe .keyword typeText then
    declaration
    pure (some ())
  else pure none

/-- A whole program. -/
def program (room : Descent) : Action Unit := do
  expectKeyword .start
  let _ ← Turn.loop programTurn ()
  statements room
  expectKeyword .finish
  if ← probe .endOfInput anyText then pure ()
  else refuse (.afterFinish (← nextToken))

end Descent

/-! ## Rules and sources -/

/-- The procedure of a rule, with the type of its value if it has one. -/
def Rule.descend (room : Option Nat) : Rule → Action (Option ValueType)
  | .program => do Descent.program room; pure none
  | .declaration => do Descent.declaration; pure none
  | .statement => do Descent.statement room; pure none
  | .statements => do Descent.statements room; pure none
  | .condition => do Descent.condition room; pure none
  | .expression => do pure (some (← Descent.expression room))
  | .term => do pure (some (← Descent.term room))
  | .primary => do pure (some (← Descent.primary room))

/-- Begins with some tokens, and checks that they are a program. -/
def descendTokens (room : Option Nat) (tokens : List Token) : Action (Option ValueType) := do
  modify fun store => { store with tape := some ⟨Token.withEnd tokens, 0⟩ }
  let first ← Descent.takeToken
  modify fun store => { store with next := some first }
  Rule.program.descend room

/-- Checks a source by the procedures. A refusal and a nesting that is too deep make a verdict,
another failure does not. -/
def descendSource (room : Option Nat) (source : Source) : Option (Except Failure Verdict) := do
  let scanned := scan source
  match scanned.errors[0]? with
  | some _ => pure (.ok .error)
  | none =>
    let (ended, _) ← (descendTokens room scanned.tokens.toList).result {}
    match ended with
    | .ok _ => pure (.ok .ok)
    | .error (.refused _ _) => pure (.ok .error)
    | .error .tooDeep => pure (.ok .error)
    | .error (.lacking lack) => pure (.error (.lacking lack))

end Dopl.Checker
