import Dopl.Checker.Step

/-! # Tokens that are taken and refused

Most faults leave the refused token where it is. A few take it first, because only its text tells
what is wrong with it, or because it has been matched as a part of its group of declarations.

* **`CheckFault.IsMisplaced`** — the faults of a token that has no place in its group.
* **`Refusal`** — all the ways to refuse a token that is taken; **`refusal_of_step`** says so. -/

namespace Dopl

/-- The fault is one of a token that has no place in its group of declarations, and that is taken
all the same. -/
def CheckFault.IsMisplaced : CheckFault → Prop
  | .noName | .trailingComma | .strayComma | .missingComma _ => True
  | _ => False

namespace Checker

/-- A token that means something is taken and refused. -/
inductive Refusal : State → Lexeme → CheckFault → Prop where
  /-- A statement may stand where a group of declarations may. -/
  | declarations {lexeme : Lexeme} {fault : CheckFault} :
      Refusal (.statement ⟨[], .program⟩) lexeme fault → Refusal .declarations lexeme fault
  /-- The target of an assignment is not declared. -/
  | target {nest : Nest} {name : String} :
      Refusal (.statement nest) (.name name) (.undeclared name)
  /-- The token has no place in a group. -/
  | misplaced {type : ValueType} {phase : GroupPhase} {alone : Bool} {lexeme : Lexeme}
      {fault : CheckFault} :
      fault.IsMisplaced → Refusal (.group type phase alone) lexeme fault
  /-- A declared name is no identifier, wherever in its group it stands. -/
  | badName {type : ValueType} {phase : GroupPhase} {alone : Bool} {name : String} :
      Refusal (.group type phase alone) (.name name) (.badName name)
  /-- A name is declared again. -/
  | redeclared {type : ValueType} {phase : GroupPhase} {alone : Bool} {name : String} :
      phase ≠ .afterName → Refusal (.group type phase alone) (.name name) (.redeclared name)
  /-- An operand may stand where an operator before it may. -/
  | term {reading : Reading} {lexeme : Lexeme} {fault : CheckFault} :
      Refusal (.operand reading) lexeme fault → Refusal (.term reading) lexeme fault
  /-- An operand is not declared. -/
  | identifier {reading : Reading} {name : String} :
      Refusal (.operand reading) (.name name) (.undeclared name)
  /-- An operand is no character constant. -/
  | character {reading : Reading} {text : String} :
      Refusal (.operand reading) (.character text) (.badCharacter text)

section

variable {symbols symbols' : SymbolTable} {state' : State} {token : Token} {answer : Answer}
  {fault : CheckFault}

/-! ## Tokens taken last -/

/-- A required keyword is not the last token taken if the checker goes on behind it. -/
theorem requireKeyword_ne_takeLast {keyword : Keyword} :
    requireKeyword keyword token (.take state' symbols') ≠ .takeLast answer := by
  unfold requireKeyword
  split <;> exact nofun

/-- If a token is taken last where a separator is required, it is that one. -/
theorem requireSeparator_eq_takeLast {separator : Separator} {move : Move}
    (taken : requireSeparator separator token move = .takeLast answer) :
    token.lexeme = .separator separator ∧ move = .takeLast answer := by
  unfold requireSeparator at taken
  split at taken
  · next meaning => exact ⟨meaning, taken⟩
  · cases taken

/-- A keyword that ends a list of statements is never taken last. -/
theorem endList_ne_takeLast {nest : Nest} : endList nest symbols token ≠ .takeLast answer := by
  unfold endList
  split
  · split
    · exact requireKeyword_ne_takeLast
    · exact nofun
    · exact nofun
  · dsimp only
    split
    · split
      · exact nofun
      · exact requireKeyword_ne_takeLast
    · exact requireKeyword_ne_takeLast
    · exact requireKeyword_ne_takeLast

/-! ## Tokens taken to be refused -/

/-- The semicolon of a statement is not taken to be refused. -/
theorem endStatement_ne_refuseTaken {nest : Nest} :
    endStatement nest symbols token ≠ .refuseTaken fault := by
  intro refused
  have behind := (requireSeparator_eq_takeLast refused).2
  split at behind <;> cases behind

/-- At the start of a statement, only an undeclared name is. -/
theorem refusal_of_stepStatement {nest : Nest}
    (refused : stepStatement nest symbols token = .refuseTaken fault) :
    Refusal (.statement nest) token.lexeme fault := by
  unfold stepStatement at refused
  split at refused
  · next name meaning =>
    rw [meaning]
    split at refused <;> cases refused
    exact .target
  · split at refused
    · exact absurd refused endList_ne_takeLast
    · split at refused <;> cases refused
  · cases refused

/-- The tokens of a group that are taken and refused. -/
theorem refusal_of_stepGroup {type : ValueType} {phase : GroupPhase} {alone : Bool}
    (refused : stepGroup type phase alone symbols token = .refuseTaken fault) :
    Refusal (.group type phase alone) token.lexeme fault := by
  unfold stepGroup at refused
  split at refused
  · split at refused
    · cases refused
      exact .misplaced trivial
    · cases refused
      exact .misplaced trivial
    · split at refused <;> cases refused
  · split at refused <;> cases refused
    · exact .misplaced trivial
    · exact .misplaced trivial
  · next name meaning =>
    rw [meaning]
    split at refused
    · cases refused
      exact .badName
    · split at refused
      · cases refused
        exact .misplaced trivial
      · next apart =>
        split at refused <;> cases refused
        exact .redeclared apart
  · cases refused

/-- An operand is not refused for what it completes. -/
theorem supply_ne_refuseTaken {reading : Reading} {type : ValueType} :
    supply reading type symbols ≠ .refuseTaken fault := by
  intro refused
  unfold supply at refused
  dsimp only at refused
  split at refused <;> cases refused

/-- The operands that are taken and refused. -/
theorem refusal_of_stepOperand {reading : Reading}
    (refused : stepOperand reading symbols token = .refuseTaken fault) :
    Refusal (.operand reading) token.lexeme fault := by
  unfold stepOperand at refused
  split at refused
  · exact absurd refused supply_ne_refuseTaken
  · next text meaning =>
    rw [meaning]
    split at refused
    · exact absurd refused supply_ne_refuseTaken
    · cases refused
      exact .character
  · next name meaning =>
    rw [meaning]
    split at refused
    · exact absurd refused supply_ne_refuseTaken
    · cases refused
      exact .identifier
  · cases refused
  · cases refused

/-- Before an operand no operator is refused. -/
theorem refusal_of_stepTerm {reading : Reading}
    (refused : stepTerm reading symbols token = .refuseTaken fault) :
    Refusal (.term reading) token.lexeme fault := by
  unfold stepTerm at refused
  split at refused
  · cases refused
  · cases refused
  · exact .term (refusal_of_stepOperand refused)

/-- The end of an expression is not taken to be refused. -/
theorem endExpression_ne_refuseTaken {type : ValueType} {enclosing : List Awaiting}
    {purpose : Purpose} :
    endExpression type enclosing purpose symbols token ≠ .refuseTaken fault := by
  intro refused
  unfold endExpression at refused
  split at refused
  · exact absurd (requireSeparator_eq_takeLast refused).2 supply_ne_refuseTaken
  · split at refused
    · cases refused
    · cases refused
    · split at refused <;> cases refused
    · split at refused
      · exact absurd refused endStatement_ne_refuseTaken
      · cases refused
    · exact absurd refused endStatement_ne_refuseTaken
    · split at refused
      · exact requireKeyword_ne_takeLast refused
      · cases refused
    · split at refused
      · exact requireKeyword_ne_takeLast refused
      · cases refused

/-- Nor is any token behind a term. -/
theorem stepOperator_ne_refuseTaken {type : ValueType} {enclosing : List Awaiting}
    {purpose : Purpose} :
    stepOperator type enclosing purpose symbols token ≠ .refuseTaken fault := by
  intro refused
  unfold stepOperator at refused
  split at refused
  · exact absurd refused endExpression_ne_refuseTaken
  · split at refused
    · split at refused <;> cases refused
    · cases refused

/-- Whatever a state takes to refuse it is one of the refusals. -/
theorem refusal_of_step {state : State} (refused : step state symbols token = .refuseTaken fault) :
    Refusal state token.lexeme fault := by
  cases state with
  | opening => exact absurd refused requireKeyword_ne_takeLast
  | declarations =>
      simp only [step] at refused
      split at refused
      · cases refused
      · exact .declarations (refusal_of_stepStatement refused)
  | groupHead =>
      simp only [step] at refused
      split at refused <;> cases refused
  | group type phase alone => exact refusal_of_stepGroup refused
  | statement nest => exact refusal_of_stepStatement refused
  | arrow target nest =>
      simp only [step] at refused
      split at refused <;> cases refused
  | term reading => exact refusal_of_stepTerm refused
  | operand reading => exact refusal_of_stepOperand refused
  | operator type enclosing purpose => exact absurd refused stepOperator_ne_refuseTaken
  | semicolon nest => exact absurd refused endStatement_ne_refuseTaken
  | trailer =>
      simp only [step] at refused
      split at refused <;> cases refused

end

end Checker

end Dopl
