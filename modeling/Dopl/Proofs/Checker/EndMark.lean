import Dopl.Checker.Run

/-! # Runs up to the end mark

What a run does with one token, as equations, and why no run gets past the mark at the end of its
stream: no state takes a token of that kind.

* **`run_of_leave`**, **`run_of_takeLast`**, **`run_of_take`** — a run by what its first step does.
* **`exists_taken`** — what a run has taken stands before its end.
* **`EndMarked`** — a list of tokens that ends in an end mark.
* **`step_of_endOfInput`** — every state leaves an end mark where it is;
  **`exists_leave_of_ahead`** — so no run takes the last token of its stream. -/

namespace Dopl.Checker

variable {limit : Option Nat} {state state' : State} {symbols symbols' : SymbolTable}
  {current : Option Token} {before ahead : List Token} {next token : Token} {answer : Answer}

/-! ## A run by its first step -/

/-- A run whose state leaves the next token ends where it is. -/
theorem run_of_leave (left : step state symbols next = .leave answer) :
    run limit state symbols current before next ahead =
      ⟨.answered answer, ⟨current, before, next, ahead⟩, symbols⟩ := by
  unfold run
  rw [left]

/-- A run whose state takes the next token as its last one ends behind it. -/
theorem run_of_takeLast (taken : step state symbols next = .takeLast answer) :
    run limit state symbols current before next (token :: ahead) =
      ⟨.answered answer, ⟨some next, next :: before, token, ahead⟩, symbols⟩ := by
  unfold run
  rw [taken]

/-- A run whose state takes the next token goes on behind it, unless it is too deep there. -/
theorem run_of_take (taken : step state symbols next = .take state' symbols') :
    run limit state symbols current before next (token :: ahead) =
      if (limit.any fun limit => decide (limit < state'.depth)) = true then
        ⟨.tooDeep, ⟨some next, next :: before, token, ahead⟩, symbols'⟩
      else run limit state' symbols' (some next) (next :: before) token ahead := by
  rw [run]
  simp only [taken]

/-- A run takes some tokens, and nothing it has taken is lost. -/
theorem exists_taken (limit : Option Nat) (state : State) (symbols : SymbolTable)
    (current : Option Token) (before : List Token) (next : Token) (ahead : List Token) :
    ∃ taken : List Token,
      (run limit state symbols current before next ahead).cursor.before =
        taken.reverse ++ before := by
  induction ahead generalizing state symbols current before next with
  | nil =>
      unfold run
      split <;> exact ⟨[], rfl⟩
  | cons token rest induction =>
      cases moved : step state symbols next with
      | leave answer =>
          rw [run_of_leave moved]
          exact ⟨[], rfl⟩
      | takeLast answer =>
          rw [run_of_takeLast moved]
          exact ⟨[next], rfl⟩
      | take state' symbols' =>
          rw [run_of_take moved]
          split
          · exact ⟨[next], rfl⟩
          · obtain ⟨taken, behind⟩ := induction state' symbols' (some next) (next :: before) token
            exact ⟨next :: taken, by rw [behind, List.reverse_cons, List.append_assoc]; rfl⟩

/-- A run ends where it started or further on. -/
theorem position_le_run (limit : Option Nat) (state : State) (symbols : SymbolTable)
    (current : Option Token) (before : List Token) (next : Token) (ahead : List Token) :
    before.length + 1 ≤ (run limit state symbols current before next ahead).cursor.position := by
  obtain ⟨taken, behind⟩ := exists_taken limit state symbols current before next ahead
  rw [Cursor.position, behind, List.length_append]
  omega

/-! ## The end mark is never taken -/

/-- A token that marks the end of the input names no type. -/
theorem valueType?_of_endOfInput (marks : token.kind = .endOfInput) :
    token.valueType? = none := by
  simp only [Token.valueType?, Token.lexeme, marks]

/-- A token that marks the end of the input ends no expression. -/
theorem endsExpression_of_endOfInput (marks : token.kind = .endOfInput) :
    token.endsExpression = false := by
  simp [Token.endsExpression, marks]

/-- No state takes a token that marks the end of the input. -/
theorem step_of_endOfInput (state : State) (symbols : SymbolTable)
    (marks : token.kind = .endOfInput) :
    ∃ answer, step state symbols token = .leave answer := by
  have meaning : token.lexeme = .endOfInput := by simp only [Token.lexeme, marks]
  cases state with
  | opening =>
      simp only [step, requireKeyword, meaning, reduceCtorEq, if_false]
      exact ⟨_, rfl⟩
  | declarations =>
      simp only [step, valueType?_of_endOfInput marks, stepStatement, meaning]
      exact ⟨_, rfl⟩
  | groupHead =>
      simp only [step, valueType?_of_endOfInput marks]
      exact ⟨_, rfl⟩
  | group type phase alone =>
      simp only [step, stepGroup, meaning]
      exact ⟨_, rfl⟩
  | statement nest =>
      simp only [step, stepStatement, meaning]
      exact ⟨_, rfl⟩
  | arrow target nest =>
      simp only [step, meaning, reduceCtorEq, if_false]
      exact ⟨_, rfl⟩
  | term reading =>
      simp only [step, stepTerm, stepOperand, meaning]
      exact ⟨_, rfl⟩
  | operand reading =>
      simp only [step, stepOperand, meaning]
      exact ⟨_, rfl⟩
  | operator type enclosing purpose =>
      simp only [step, stepOperator, endsExpression_of_endOfInput marks, meaning]
      exact ⟨_, rfl⟩
  | semicolon nest =>
      simp only [step, endStatement, requireSeparator, meaning, reduceCtorEq, if_false]
      exact ⟨_, rfl⟩
  | trailer =>
      simp only [step, meaning, if_true]
      exact ⟨_, rfl⟩

/-- The tokens end in an end mark. -/
def EndMarked (tokens : List Token) : Prop :=
  (tokens.getLast?.any fun token => token.kind == .endOfInput) = true

/-- With its end mark, every list of tokens ends in one. -/
theorem endMarked_withEnd (tokens : List Token) : EndMarked (Token.withEnd tokens) :=
  Token.getLast?_withEnd tokens

/-- So do the tokens of a cursor at the start of a stream. -/
theorem endMarked_ofTokens (tokens : List Token) : EndMarked (Cursor.ofTokens tokens).tokens := by
  rw [Cursor.tokens_ofTokens]
  exact endMarked_withEnd tokens

/-- A token behind which nothing stands is the end mark. -/
theorem EndMarked.kind_of_singleton (marked : EndMarked [token]) : token.kind = .endOfInput := by
  simpa [EndMarked] using marked

/-- The end mark stays when a token before it is taken. -/
theorem EndMarked.tail (marked : EndMarked (token :: next :: ahead)) :
    EndMarked (next :: ahead) := by
  rw [EndMarked, List.getLast?_cons_cons] at marked
  exact marked

/-- The tokens of a cursor end in an end mark iff those from the next one on do. -/
theorem endMarked_tokens_iff (cursor : Cursor) :
    EndMarked cursor.tokens ↔ EndMarked (cursor.next :: cursor.ahead) := by
  rw [EndMarked, EndMarked, Cursor.tokens, List.getLast?_append, List.getLast?_cons,
    Option.some_or]

/-- Behind the last token of a stream there is none to take, and that one is not taken. -/
theorem exists_leave_of_ahead {cursor : Cursor} (marked : EndMarked cursor.tokens)
    (last : cursor.ahead = []) (state : State) (symbols : SymbolTable) :
    ∃ answer, step state symbols cursor.next = .leave answer := by
  rw [endMarked_tokens_iff, last] at marked
  exact step_of_endOfInput state symbols marked.kind_of_singleton

end Dopl.Checker
