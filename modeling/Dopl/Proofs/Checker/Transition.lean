import Dopl.Proofs.Checker.EndMark
import Dopl.Proofs.Grammar.LeftToRight
import Dopl.Proofs.Lexeme

/-! # What the checker can do with a token

All the ways to go on, in one relation: the state, the symbols, and what the token taken means. Kind
and text of the token count only through its lexeme.

* **`Transition`** — a token is taken, and the checker waits for something else.
* **`step_eq_take_iff`** — `Transition` holds of exactly the tokens that `step` takes. -/

namespace Dopl.Checker

/-- A negated operand is absorbed as a logical one, whatever its type. -/
theorem absorb_negated (awaiting : Awaiting) (type : ValueType) :
    ({ awaiting with negated := true } : Awaiting).absorb type = awaiting.absorb .logical := by
  obtain ⟨left, negated⟩ := awaiting
  cases negated <;> rfl

namespace Reading

/-- The reading with a negation before its operand. -/
def negate (reading : Reading) : Reading :=
  ⟨{ reading.innermost with negated := true }, reading.enclosing, reading.purpose⟩

/-- The reading inside a parenthesis that stands for its operand. -/
def deepen (reading : Reading) : Reading :=
  ⟨{}, reading.innermost :: reading.enclosing, reading.purpose⟩

/-- Whether the checker waits for more once the operand is read. It does not if a term is read alone
and no parenthesis is open. -/
def GoesOn (reading : Reading) : Prop :=
  (reading.enclosing.isEmpty && reading.purpose == .term) = false

/-- The state behind an operand of a type. -/
def supplied (reading : Reading) (primary : ValueType) : State :=
  .operator (reading.innermost.absorb primary) reading.enclosing reading.purpose

/-- Behind a negated operand the state is the one behind a logical operand. -/
theorem supplied_negate (reading : Reading) (type : ValueType) :
    reading.negate.supplied type = reading.supplied .logical := by
  rw [supplied, negate, absorb_negated]
  rfl

end Reading

/-- The checker takes a token that means something, and goes on. -/
inductive Transition (symbols : SymbolTable) : State → Lexeme → State → SymbolTable → Prop where
  /-- The first keyword opens a program. -/
  | opening : Transition symbols .opening (.keyword .start) .declarations symbols
  /-- A type opens a group of declarations of a program. -/
  | group {keyword : Keyword} {type : ValueType} :
      keyword.valueType? = some type →
        Transition symbols .declarations (.keyword keyword) (.group type .empty false) symbols
  /-- A statement may stand where a group of declarations may. -/
  | statement {lexeme : Lexeme} {state : State} {symbols' : SymbolTable} :
      Transition symbols (.statement ⟨[], .program⟩) lexeme state symbols' →
        Transition symbols .declarations lexeme state symbols'
  /-- A type opens a group of declarations that is read alone. -/
  | groupHead {keyword : Keyword} {type : ValueType} :
      keyword.valueType? = some type →
        Transition symbols .groupHead (.keyword keyword) (.group type .empty true) symbols
  /-- A semicolon behind a name closes a group. -/
  | groupEnd {type : ValueType} :
      Transition symbols (.group type .afterName false) (.separator .semicolon) .declarations
        symbols
  /-- A comma follows a name of a group. -/
  | comma {type : ValueType} {alone : Bool} :
      Transition symbols (.group type .afterName alone) (.separator .comma)
        (.group type .afterComma alone) symbols
  /-- A new identifier is declared. -/
  | name {type : ValueType} {phase : GroupPhase} {alone : Bool} {name : String}
      {declared : SymbolTable} :
      phase ≠ .afterName → isIdentifier name = true → symbols.declare? name type = some declared →
        Transition symbols (.group type phase alone) (.name name) (.group type .afterName alone)
          declared
  /-- A declared name starts an assignment. -/
  | target {nest : Nest} {name : String} {symbol : Symbol} :
      symbols.lookup name = some symbol →
        Transition symbols (.statement nest) (.name name) (.arrow symbol nest) symbols
  /-- A branch starts. -/
  | branch {nest : Nest} :
      Transition symbols (.statement nest) (.keyword .if_) (.term { purpose := .branch nest })
        symbols
  /-- An output starts. -/
  | output {nest : Nest} :
      Transition symbols (.statement nest) (.keyword .print) (.term { purpose := .output nest })
        symbols
  /-- A loop starts. -/
  | loop {nest : Nest} :
      Transition symbols (.statement nest) (.keyword .loopif) (.term { purpose := .loop nest })
        symbols
  /-- The last keyword closes a program. -/
  | finish : Transition symbols (.statement ⟨[], .program⟩) (.keyword .finish) .trailer symbols
  /-- The second body of a branch follows the first. -/
  | alternative {bodies : List Body} {outermost : Outermost} :
      Transition symbols (.statement ⟨.consequent :: bodies, outermost⟩) (.keyword .else_)
        (.statement ⟨.alternative :: bodies, outermost⟩) symbols
  /-- The first body of a branch is its last one. -/
  | endConsequent {bodies : List Body} {outermost : Outermost} :
      Transition symbols (.statement ⟨.consequent :: bodies, outermost⟩) (.keyword .endif)
        (.semicolon ⟨bodies, outermost⟩) symbols
  /-- The second body of a branch ends. -/
  | endAlternative {bodies : List Body} {outermost : Outermost} :
      Transition symbols (.statement ⟨.alternative :: bodies, outermost⟩) (.keyword .endif)
        (.semicolon ⟨bodies, outermost⟩) symbols
  /-- The body of a loop ends. -/
  | endLoop {bodies : List Body} {outermost : Outermost} :
      Transition symbols (.statement ⟨.loop :: bodies, outermost⟩) (.keyword .endloop)
        (.semicolon ⟨bodies, outermost⟩) symbols
  /-- The arrow of an assignment. -/
  | arrow {target : Symbol} {nest : Nest} :
      Transition symbols (.arrow target nest) .assignment
        (.term { purpose := .assignment target nest }) symbols
  /-- A minus sign before an operand. -/
  | minus {reading : Reading} :
      Transition symbols (.term reading) (.operator .minus) (.term reading) symbols
  /-- A negation before an operand. -/
  | not {reading : Reading} :
      Transition symbols (.term reading) (.operator .not) (.term reading.negate) symbols
  /-- An operand may stand where an operator before it may. -/
  | operand {reading : Reading} {lexeme : Lexeme} {state : State} {symbols' : SymbolTable} :
      Transition symbols (.operand reading) lexeme state symbols' →
        Transition symbols (.term reading) lexeme state symbols'
  /-- An integer constant. -/
  | integer {reading : Reading} :
      reading.GoesOn →
        Transition symbols (.operand reading) .integer (reading.supplied .integer) symbols
  /-- A character constant. -/
  | character {reading : Reading} {text : String} :
      isCharacterConstant text = true → reading.GoesOn →
        Transition symbols (.operand reading) (.character text) (reading.supplied .character)
          symbols
  /-- A declared name. -/
  | identifier {reading : Reading} {name : String} {symbol : Symbol} :
      symbols.lookup name = some symbol → reading.GoesOn →
        Transition symbols (.operand reading) (.name name) (reading.supplied symbol.type) symbols
  /-- A parenthesis opens. -/
  | parenthesis {reading : Reading} :
      Transition symbols (.operand reading) (.separator .opening) (.term reading.deepen) symbols
  /-- A binary operator follows a term. -/
  | binary {type : ValueType} {operator : Operator} {enclosing : List Awaiting}
      {purpose : Purpose} :
      operator.isBinary = true →
        Transition symbols (.operator type enclosing purpose) (.operator operator)
          (.term ⟨{ left := some (leftType type operator) }, enclosing, purpose⟩) symbols
  /-- A parenthesis closes. -/
  | closing {type : ValueType} {awaiting : Awaiting} {outer : List Awaiting} {purpose : Purpose} :
      Reading.GoesOn ⟨awaiting, outer, purpose⟩ →
        Transition symbols (.operator type (awaiting :: outer) purpose) (.separator .closing)
          (Reading.supplied ⟨awaiting, outer, purpose⟩ type) symbols
  /-- A semicolon closes an assignment of a value of the target's type. -/
  | assigned {target : Symbol} {nest : Nest} :
      nest.isList = true →
        Transition symbols (.operator target.type [] (.assignment target nest))
          (.separator .semicolon) (.statement nest) symbols
  /-- A semicolon closes an output. -/
  | printed {type : ValueType} {nest : Nest} :
      nest.isList = true →
        Transition symbols (.operator type [] (.output nest)) (.separator .semicolon)
          (.statement nest) symbols
  /-- The first body of a branch opens behind a logical condition. -/
  | consequent {nest : Nest} :
      Transition symbols (.operator .logical [] (.branch nest)) (.keyword .then_)
        (.statement (nest.enter .consequent)) symbols
  /-- The body of a loop opens behind a logical condition. -/
  | repeated {nest : Nest} :
      Transition symbols (.operator .logical [] (.loop nest)) (.keyword .do_)
        (.statement (nest.enter .loop)) symbols
  /-- A semicolon closes a branch or a loop. -/
  | closed {nest : Nest} :
      nest.isList = true →
        Transition symbols (.semicolon nest) (.separator .semicolon) (.statement nest) symbols

/-! ## The tokens that a state takes -/

section

variable {symbols symbols' : SymbolTable} {token : Token} {state state' : State}

/-- A required keyword is taken only if it stands there. -/
theorem requireKeyword_eq_take {keyword : Keyword} {move : Move}
    (taken : requireKeyword keyword token move = .take state' symbols') :
    token.lexeme = .keyword keyword ∧ move = .take state' symbols' := by
  unfold requireKeyword at taken
  split at taken
  · next meaning => exact ⟨meaning, taken⟩
  · cases taken

/-- A required separator is taken only if it stands there. -/
theorem requireSeparator_eq_take {separator : Separator} {move : Move}
    (taken : requireSeparator separator token move = .take state' symbols') :
    token.lexeme = .separator separator ∧ move = .take state' symbols' := by
  unfold requireSeparator at taken
  split at taken
  · next meaning => exact ⟨meaning, taken⟩
  · cases taken

/-- The checker goes on behind the semicolon of a statement only in a list of statements. -/
theorem endStatement_eq_take {nest : Nest}
    (taken : endStatement nest symbols token = .take state' symbols') :
    token.lexeme = .separator .semicolon ∧ nest.isList = true ∧ state' = .statement nest ∧
      symbols' = symbols := by
  obtain ⟨meaning, moved⟩ := requireSeparator_eq_take taken
  split at moved
  · next list =>
    cases moved
    exact ⟨meaning, list, rfl, rfl⟩
  · cases moved

/-- The keywords that end a list of statements, at each place. -/
theorem transition_of_endList {nest : Nest}
    (taken : endList nest symbols token = .take state' symbols') :
    Transition symbols (.statement nest) token.lexeme state' symbols' := by
  obtain ⟨bodies, outermost⟩ := nest
  unfold endList at taken
  dsimp only at taken
  split at taken
  · split at taken
    · obtain ⟨meaning, moved⟩ := requireKeyword_eq_take taken
      cases moved
      rw [meaning]
      exact .finish
    · cases taken
    · cases taken
  · split at taken
    · split at taken
      · next meaning =>
        cases taken
        rw [meaning]
        exact .alternative
      · obtain ⟨meaning, moved⟩ := requireKeyword_eq_take taken
        cases moved
        rw [meaning]
        exact .endConsequent
    · obtain ⟨meaning, moved⟩ := requireKeyword_eq_take taken
      cases moved
      rw [meaning]
      exact .endAlternative
    · obtain ⟨meaning, moved⟩ := requireKeyword_eq_take taken
      cases moved
      rw [meaning]
      exact .endLoop

/-- The tokens a statement or the end of a list may start with. -/
theorem transition_of_stepStatement {nest : Nest}
    (taken : stepStatement nest symbols token = .take state' symbols') :
    Transition symbols (.statement nest) token.lexeme state' symbols' := by
  unfold stepStatement at taken
  split at taken
  · next name meaning =>
    rw [meaning]
    split at taken
    · next symbol found =>
      cases taken
      exact .target found
    · cases taken
  · next keyword meaning =>
    split at taken
    · exact transition_of_endList taken
    · rw [meaning]
      split at taken <;> cases taken
      · exact .branch
      · exact .output
      · exact .loop
  · cases taken

/-- The tokens of a group of declarations. -/
theorem transition_of_stepGroup {type : ValueType} {phase : GroupPhase} {alone : Bool}
    (taken : stepGroup type phase alone symbols token = .take state' symbols') :
    Transition symbols (.group type phase alone) token.lexeme state' symbols' := by
  unfold stepGroup at taken
  split at taken
  · next meaning =>
    rw [meaning]
    split at taken
    · cases taken
    · cases taken
    · split at taken
      · cases taken
      · next together =>
        cases taken
        rw [Bool.not_eq_true] at together
        rw [together]
        exact .groupEnd
  · next meaning =>
    rw [meaning]
    split at taken
    · cases taken
      exact .comma
    · cases taken
    · cases taken
  · next name meaning =>
    rw [meaning]
    split at taken
    · cases taken
    · next identifier =>
      split at taken
      · cases taken
      · next apart =>
        split at taken
        · next declared added =>
          cases taken
          exact .name apart (by simpa using identifier) added
        · cases taken
  · cases taken

/-- The checker goes on behind an operand unless it is a term that is read alone. -/
theorem supply_eq_take {reading : Reading} {primary : ValueType}
    (taken : supply reading primary symbols = .take state' symbols') :
    reading.GoesOn ∧ state' = reading.supplied primary ∧ symbols' = symbols := by
  unfold supply at taken
  dsimp only at taken
  split at taken
  · cases taken
  · next further =>
    cases taken
    exact ⟨by simpa [Reading.GoesOn] using further, rfl, rfl⟩

/-- The tokens an operand may start with. -/
theorem transition_of_stepOperand {reading : Reading}
    (taken : stepOperand reading symbols token = .take state' symbols') :
    Transition symbols (.operand reading) token.lexeme state' symbols' := by
  unfold stepOperand at taken
  split at taken
  · next meaning =>
    obtain ⟨further, rfl, rfl⟩ := supply_eq_take taken
    rw [meaning]
    exact .integer further
  · next text meaning =>
    split at taken
    · next constant =>
      obtain ⟨further, rfl, rfl⟩ := supply_eq_take taken
      rw [meaning]
      exact .character constant further
    · cases taken
  · next name meaning =>
    split at taken
    · next symbol found =>
      obtain ⟨further, rfl, rfl⟩ := supply_eq_take taken
      rw [meaning]
      exact .identifier found further
    · cases taken
  · next meaning =>
    cases taken
    rw [meaning]
    exact .parenthesis
  · cases taken

/-- The tokens a term may start with. -/
theorem transition_of_stepTerm {reading : Reading}
    (taken : stepTerm reading symbols token = .take state' symbols') :
    Transition symbols (.term reading) token.lexeme state' symbols' := by
  unfold stepTerm at taken
  split at taken
  · next meaning =>
    cases taken
    rw [meaning]
    exact .minus
  · next meaning =>
    cases taken
    rw [meaning]
    exact .not
  · exact .operand (transition_of_stepOperand taken)

/-- The tokens that end an expression, by what its value is wanted for. -/
theorem transition_of_endExpression {type : ValueType} {enclosing : List Awaiting}
    {purpose : Purpose}
    (taken : endExpression type enclosing purpose symbols token = .take state' symbols') :
    Transition symbols (.operator type enclosing purpose) token.lexeme state' symbols' := by
  unfold endExpression at taken
  split at taken
  · obtain ⟨meaning, moved⟩ := requireSeparator_eq_take taken
    obtain ⟨further, rfl, rfl⟩ := supply_eq_take moved
    rw [meaning]
    exact .closing further
  · split at taken
    · cases taken
    · cases taken
    · split at taken <;> cases taken
    · split at taken
      · next target nest same =>
        obtain ⟨meaning, list, rfl, rfl⟩ := endStatement_eq_take taken
        rw [meaning, same]
        exact .assigned list
      · cases taken
    · obtain ⟨meaning, list, rfl, rfl⟩ := endStatement_eq_take taken
      rw [meaning]
      exact .printed list
    · split at taken
      · next logical =>
        obtain ⟨meaning, moved⟩ := requireKeyword_eq_take taken
        cases moved
        rw [meaning, logical]
        exact .consequent
      · cases taken
    · split at taken
      · next logical =>
        obtain ⟨meaning, moved⟩ := requireKeyword_eq_take taken
        cases moved
        rw [meaning, logical]
        exact .repeated
      · cases taken

/-- The tokens behind a term. -/
theorem transition_of_stepOperator {type : ValueType} {enclosing : List Awaiting}
    {purpose : Purpose}
    (taken : stepOperator type enclosing purpose symbols token = .take state' symbols') :
    Transition symbols (.operator type enclosing purpose) token.lexeme state' symbols' := by
  unfold stepOperator at taken
  split at taken
  · exact transition_of_endExpression taken
  · split at taken
    · next operator meaning =>
      split at taken
      · next joins =>
        cases taken
        rw [meaning]
        exact .binary joins
      · cases taken
    · cases taken

/-- A token names a type iff it means a keyword that does. -/
theorem valueType?_eq_some {type : ValueType} (named : token.valueType? = some type) :
    ∃ keyword, token.lexeme = .keyword keyword ∧ keyword.valueType? = some type := by
  unfold Token.valueType? at named
  split at named
  · next keyword meaning => exact ⟨keyword, meaning, named⟩
  · cases named

/-- Whatever a state takes to go on is one of the transitions. -/
theorem transition_of_step (taken : step state symbols token = .take state' symbols') :
    Transition symbols state token.lexeme state' symbols' := by
  cases state with
  | opening =>
      obtain ⟨meaning, moved⟩ := requireKeyword_eq_take taken
      cases moved
      rw [meaning]
      exact .opening
  | declarations =>
      simp only [step] at taken
      split at taken
      · next type named =>
        obtain ⟨keyword, meaning, names⟩ := valueType?_eq_some named
        cases taken
        rw [meaning]
        exact .group names
      · exact .statement (transition_of_stepStatement taken)
  | groupHead =>
      simp only [step] at taken
      split at taken
      · next type named =>
        obtain ⟨keyword, meaning, names⟩ := valueType?_eq_some named
        cases taken
        rw [meaning]
        exact .groupHead names
      · cases taken
  | group type phase alone => exact transition_of_stepGroup taken
  | statement nest => exact transition_of_stepStatement taken
  | arrow target nest =>
      simp only [step] at taken
      split at taken
      · next meaning =>
        cases taken
        rw [meaning]
        exact .arrow
      · cases taken
  | term reading => exact transition_of_stepTerm taken
  | operand reading => exact transition_of_stepOperand taken
  | operator type enclosing purpose => exact transition_of_stepOperator taken
  | semicolon nest =>
      obtain ⟨meaning, list, rfl, rfl⟩ := endStatement_eq_take taken
      rw [meaning]
      exact .closed list
  | trailer =>
      simp only [step] at taken
      split at taken <;> cases taken

/-- A keyword that names a type starts no statement and ends no list of statements. -/
theorem valueType?_eq_none_of_statement {nest : Nest}
    (transition : Transition symbols (.statement nest) token.lexeme state' symbols') :
    token.valueType? = none := by
  unfold Token.valueType?
  generalize token.lexeme = lexeme at transition
  cases transition <;> rfl

/-- Inside a body, and in a program, a list ends at a keyword that may end one. -/
theorem stepStatement_of_ender {nest : Nest} {keyword : Keyword}
    (meaning : token.lexeme = .keyword keyword) (list : nest.isList = true)
    (ends : keyword.endsStatements = true) :
    stepStatement nest symbols token = endList nest symbols token := by
  simp only [stepStatement, meaning, list, ends, Bool.and_self, if_true]

/-- An operand is supplied to a reading that goes on. -/
theorem supply_of_goesOn {reading : Reading} {primary : ValueType} (further : reading.GoesOn) :
    supply reading primary symbols = .take (reading.supplied primary) symbols := by
  unfold supply
  rw [if_neg (by rw [Reading.GoesOn] at further; simp [further])]
  rfl

/-- What starts an operand is no operator before one. -/
theorem stepTerm_of_operand {reading : Reading}
    (transition : Transition symbols (.operand reading) token.lexeme state' symbols') :
    stepTerm reading symbols token = stepOperand reading symbols token := by
  unfold stepTerm
  generalize token.lexeme = lexeme at transition
  cases transition <;> rfl

/-- The semicolon of a statement is taken in a list of statements. -/
theorem endStatement_of_semicolon {nest : Nest} (list : nest.isList = true)
    (meaning : token.lexeme = .separator .semicolon) :
    endStatement nest symbols token = .take (.statement nest) symbols := by
  simp only [endStatement, requireSeparator, meaning, list, if_true]

/-- Behind a term, a token that ends an expression ends this one. -/
theorem stepOperator_of_ender {type : ValueType} {enclosing : List Awaiting} {purpose : Purpose}
    (ends : token.endsExpression = true) :
    stepOperator type enclosing purpose symbols token =
      endExpression type enclosing purpose symbols token := by
  rw [stepOperator, if_pos ends]

/-- Every transition is taken. -/
theorem step_of_transition
    (transition : Transition symbols state token.lexeme state' symbols') :
    step state symbols token = .take state' symbols' := by
  generalize meaning : token.lexeme = lexeme at transition
  induction transition with
  | opening => simp only [step, requireKeyword, meaning, if_true]
  | group names => simp only [step, Token.valueType?, meaning, names]
  | statement moved induction =>
      subst meaning
      simp only [step, valueType?_eq_none_of_statement moved]
      exact induction rfl
  | groupHead names => simp only [step, Token.valueType?, meaning, names]
  | groupEnd => simp only [step, stepGroup, meaning, Bool.false_eq_true, if_false]
  | comma => simp only [step, stepGroup, meaning]
  | name apart identifier added =>
      simp only [step, stepGroup, meaning, identifier, apart, added, Bool.not_true,
        Bool.false_eq_true, if_false]
  | target found => simp only [step, stepStatement, meaning, found]
  | branch =>
      simp only [step, stepStatement, meaning, Keyword.endsStatements, Bool.and_false,
        Bool.false_eq_true, if_false]
  | output =>
      simp only [step, stepStatement, meaning, Keyword.endsStatements, Bool.and_false,
        Bool.false_eq_true, if_false]
  | loop =>
      simp only [step, stepStatement, meaning, Keyword.endsStatements, Bool.and_false,
        Bool.false_eq_true, if_false]
  | finish =>
      rw [step, stepStatement_of_ender meaning rfl rfl]
      simp only [endList, requireKeyword, meaning, if_true]
  | alternative =>
      rw [step, stepStatement_of_ender meaning rfl rfl]
      simp only [endList, meaning, if_true]
      rfl
  | endConsequent =>
      rw [step, stepStatement_of_ender meaning rfl rfl]
      simp only [endList, requireKeyword, meaning, if_true, Lexeme.keyword.injEq, reduceCtorEq,
        if_false]
  | endAlternative =>
      rw [step, stepStatement_of_ender meaning rfl rfl]
      simp only [endList, requireKeyword, meaning, if_true]
  | endLoop =>
      rw [step, stepStatement_of_ender meaning rfl rfl]
      simp only [endList, requireKeyword, meaning, if_true]
  | arrow => simp only [step, meaning, if_true]
  | minus => simp only [step, stepTerm, meaning]
  | not =>
      simp only [step, stepTerm, meaning]
      rfl
  | operand moved induction =>
      subst meaning
      rw [step, stepTerm_of_operand moved]
      exact induction rfl
  | integer further => simp only [step, stepOperand, meaning, supply_of_goesOn further]
  | character constant further =>
      simp only [step, stepOperand, meaning, constant, if_true, supply_of_goesOn further]
  | identifier found further =>
      simp only [step, stepOperand, meaning, found, supply_of_goesOn further]
  | parenthesis =>
      simp only [step, stepOperand, meaning]
      rfl
  | binary joins =>
      simp only [step, stepOperator, endsExpression_of_operator meaning, meaning, joins,
        Bool.false_eq_true, if_false, if_true]
      rfl
  | closing further =>
      rw [step, stepOperator_of_ender ((endsExpression_of_separator meaning).trans (by decide))]
      simp only [endExpression, requireSeparator, meaning, if_true, supply_of_goesOn further]
  | assigned list =>
      rw [step, stepOperator_of_ender ((endsExpression_of_separator meaning).trans (by decide))]
      simp only [endExpression, if_true, endStatement_of_semicolon list meaning]
  | printed list =>
      rw [step, stepOperator_of_ender ((endsExpression_of_separator meaning).trans (by decide))]
      simp only [endExpression, endStatement_of_semicolon list meaning]
  | consequent =>
      rw [step, stepOperator_of_ender ((endsExpression_of_keyword meaning).trans (by decide))]
      simp only [endExpression, requireKeyword, meaning, if_true]
  | repeated =>
      rw [step, stepOperator_of_ender ((endsExpression_of_keyword meaning).trans (by decide))]
      simp only [endExpression, requireKeyword, meaning, if_true]
  | closed list => exact endStatement_of_semicolon list meaning

/-- A state takes a token and goes on iff there is a transition for what the token means. -/
theorem step_eq_take_iff :
    step state symbols token = .take state' symbols' ↔
      Transition symbols state token.lexeme state' symbols' :=
  ⟨transition_of_step, step_of_transition⟩

end

end Dopl.Checker
