import Dopl.Proofs.Checker.Path

/-! # Inside a program

From the first keyword of a program on, the checker is never in a state that belongs to a part of
the grammar read alone, so there is one place only where it accepts:

* **`State.InProgram`** — the state belongs to a program; **`inProgram_of_path`** — every state on a
  path from the start of a program does.
* **`Move.Accepts`** — the rule is over, and complete.
* **`accepts_of_inProgram`** — inside a program, only the end mark behind the last keyword is
  accepted. -/

namespace Dopl.Checker

/-- The place of the statement is in a program. -/
def Nest.InProgram (nest : Nest) : Prop :=
  nest.outermost = .program

/-- The value is wanted for a statement of a program. -/
def Purpose.InProgram : Purpose → Prop
  | .term | .expression | .condition => False
  | .assignment _ nest | .output nest | .branch nest | .loop nest => nest.InProgram

/-- The state belongs to a program. -/
def State.InProgram : State → Prop
  | .opening | .declarations | .trailer => True
  | .groupHead => False
  | .group _ _ alone => alone = false
  | .statement nest | .arrow _ nest | .semicolon nest => nest.InProgram
  | .term reading | .operand reading => reading.purpose.InProgram
  | .operator _ _ purpose => purpose.InProgram

/-- A token leads from a program not out of it. -/
theorem inProgram_of_transition {symbols symbols' : SymbolTable} {state state' : State}
    {lexeme : Lexeme} (transition : Transition symbols state lexeme state' symbols')
    (inProgram : state.InProgram) : state'.InProgram := by
  induction transition with
  | opening => trivial
  | group _ => rfl
  | statement _ induction => exact induction rfl
  | groupHead _ => exact inProgram.elim
  | groupEnd => trivial
  | finish => trivial
  | operand _ induction => exact induction inProgram
  | _ => exact inProgram

/-- Tokens lead from a program not out of it. -/
theorem inProgram_of_path {symbols symbols' : SymbolTable} {state state' : State}
    {lexemes : List Lexeme} (path : Path symbols state lexemes state' symbols')
    (inProgram : state.InProgram) : state'.InProgram := by
  induction path with
  | refl => exact inProgram
  | step transition _ induction => exact induction (inProgram_of_transition transition inProgram)

/-! ## Accepting moves -/

/-- The rule is over, and complete. -/
def Move.Accepts : Move → Prop
  | .leave (.accepted _) | .takeLast (.accepted _) => True
  | _ => False

variable {symbols : SymbolTable} {token : Token}

/-- If more than a required keyword is accepted, so is what stands behind it. -/
theorem accepts_of_requireKeyword {keyword : Keyword} {move : Move}
    (accepts : (requireKeyword keyword token move).Accepts) : move.Accepts := by
  unfold requireKeyword at accepts
  split at accepts
  · exact accepts
  · exact accepts.elim

/-- If more than a required separator is accepted, so is what stands behind it. -/
theorem accepts_of_requireSeparator {separator : Separator} {move : Move}
    (accepts : (requireSeparator separator token move).Accepts) : move.Accepts := by
  unfold requireSeparator at accepts
  split at accepts
  · exact accepts
  · exact accepts.elim

/-- In a program any number of statements may stand. -/
theorem isList_of_inProgram {nest : Nest} (inProgram : nest.InProgram) : nest.isList = true := by
  obtain ⟨bodies, outermost⟩ := nest
  obtain rfl : outermost = .program := inProgram
  simp [Nest.isList]

/-- The end of a statement of a program is not the end of the rule. -/
theorem not_accepts_endStatement {nest : Nest} (inProgram : nest.InProgram) :
    ¬(endStatement nest symbols token).Accepts := by
  intro accepts
  have behind := accepts_of_requireSeparator accepts
  rw [isList_of_inProgram inProgram] at behind
  exact behind

/-- Nor is the end of a list of statements of a program. -/
theorem not_accepts_endList {nest : Nest} (inProgram : nest.InProgram) :
    ¬(endList nest symbols token).Accepts := by
  obtain ⟨bodies, outermost⟩ := nest
  obtain rfl : outermost = .program := inProgram
  intro accepts
  unfold endList at accepts
  dsimp only at accepts
  split at accepts
  · exact accepts_of_requireKeyword accepts
  · split at accepts
    · split at accepts
      · exact accepts
      · exact accepts_of_requireKeyword accepts
    · exact accepts_of_requireKeyword accepts
    · exact accepts_of_requireKeyword accepts

/-- Nor is the start of a statement of a program. -/
theorem not_accepts_stepStatement {nest : Nest} (inProgram : nest.InProgram) :
    ¬(stepStatement nest symbols token).Accepts := by
  intro accepts
  unfold stepStatement at accepts
  split at accepts
  · split at accepts <;> exact accepts
  · split at accepts
    · exact not_accepts_endList inProgram accepts
    · split at accepts <;> exact accepts
  · exact accepts

/-- Nor is a token of a group of a program. -/
theorem not_accepts_stepGroup {type : ValueType} {phase : GroupPhase} :
    ¬(stepGroup type phase false symbols token).Accepts := by
  intro accepts
  unfold stepGroup at accepts
  split at accepts
  · split at accepts <;> exact accepts
  · split at accepts <;> exact accepts
  · split at accepts
    · exact accepts
    · split at accepts
      · exact accepts
      · split at accepts <;> exact accepts
  · exact accepts

/-- A value that is wanted for a statement of a program is that of no term read alone. -/
theorem ne_term_of_inProgram {purpose : Purpose} (inProgram : purpose.InProgram) :
    purpose ≠ .term := by
  rintro rfl
  exact inProgram

/-- Nor is an operand, unless a term is read alone. -/
theorem not_accepts_supply {reading : Reading} (other : reading.purpose ≠ .term)
    (type : ValueType) : ¬(supply reading type symbols).Accepts := by
  intro accepts
  unfold supply at accepts
  split at accepts
  · next alone =>
    have same := (Bool.and_eq_true _ _ ▸ alone).2
    exact other (eq_of_beq same)
  · exact accepts

/-- Nor is any token of such an operand. -/
theorem not_accepts_stepOperand {reading : Reading} (other : reading.purpose ≠ .term) :
    ¬(stepOperand reading symbols token).Accepts := by
  intro accepts
  unfold stepOperand at accepts
  split at accepts
  · exact not_accepts_supply other _ accepts
  · split at accepts
    · exact not_accepts_supply other _ accepts
    · exact accepts
  · split at accepts
    · exact not_accepts_supply other _ accepts
    · exact accepts
  · exact accepts
  · exact accepts

/-- Nor is an operator before it. -/
theorem not_accepts_stepTerm {reading : Reading} (other : reading.purpose ≠ .term) :
    ¬(stepTerm reading symbols token).Accepts := by
  intro accepts
  unfold stepTerm at accepts
  split at accepts
  · exact accepts
  · exact accepts
  · exact not_accepts_stepOperand other accepts

/-- Nor is the end of an expression of a program. -/
theorem not_accepts_endExpression {purpose : Purpose} (inProgram : purpose.InProgram)
    (type : ValueType) (enclosing : List Awaiting) :
    ¬(endExpression type enclosing purpose symbols token).Accepts := by
  intro accepts
  unfold endExpression at accepts
  split at accepts
  · have other := ne_term_of_inProgram inProgram
    exact not_accepts_supply other _ (accepts_of_requireSeparator accepts)
  · cases purpose with
    | term => exact inProgram
    | expression => exact inProgram
    | condition => exact inProgram
    | assignment target nest =>
        dsimp only at accepts
        split at accepts
        · exact not_accepts_endStatement inProgram accepts
        · exact accepts
    | output nest => exact not_accepts_endStatement inProgram accepts
    | branch nest =>
        dsimp only at accepts
        split at accepts
        · exact accepts_of_requireKeyword accepts
        · exact accepts
    | loop nest =>
        dsimp only at accepts
        split at accepts
        · exact accepts_of_requireKeyword accepts
        · exact accepts

/-- Nor is a token behind a term of such an expression. -/
theorem not_accepts_stepOperator {purpose : Purpose} (inProgram : purpose.InProgram)
    (type : ValueType) (enclosing : List Awaiting) :
    ¬(stepOperator type enclosing purpose symbols token).Accepts := by
  intro accepts
  unfold stepOperator at accepts
  split at accepts
  · exact not_accepts_endExpression inProgram type enclosing accepts
  · split at accepts
    · split at accepts <;> exact accepts
    · exact accepts

/-- Inside a program, only the end mark behind the last keyword is accepted. -/
theorem accepts_of_inProgram {state : State} (inProgram : state.InProgram)
    (accepts : (step state symbols token).Accepts) :
    state = .trailer ∧ token.lexeme = .endOfInput := by
  cases state with
  | opening => exact (accepts_of_requireKeyword accepts).elim
  | declarations =>
      unfold step at accepts
      dsimp only at accepts
      split at accepts
      · exact accepts.elim
      · have inNest : Nest.InProgram ⟨[], .program⟩ := rfl
        exact (not_accepts_stepStatement inNest accepts).elim
  | groupHead => exact inProgram.elim
  | group type phase alone =>
      obtain rfl : alone = false := inProgram
      exact (not_accepts_stepGroup accepts).elim
  | statement nest => exact (not_accepts_stepStatement inProgram accepts).elim
  | arrow target nest =>
      unfold step at accepts
      dsimp only at accepts
      split at accepts <;> exact accepts.elim
  | term reading =>
      exact (not_accepts_stepTerm (ne_term_of_inProgram inProgram) accepts).elim
  | operand reading =>
      exact (not_accepts_stepOperand (ne_term_of_inProgram inProgram) accepts).elim
  | operator type enclosing purpose =>
      exact (not_accepts_stepOperator inProgram type enclosing accepts).elim
  | semicolon nest => exact (not_accepts_endStatement inProgram accepts).elim
  | trailer =>
      unfold step at accepts
      dsimp only at accepts
      split at accepts
      · next ends => exact ⟨rfl, ends⟩
      · exact accepts.elim

end Dopl.Checker
