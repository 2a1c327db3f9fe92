import Dopl.Proofs.Checker.Transition

/-! # Paths of the checker

A path is a sequence of transitions, one for each token taken. A run goes along a path and stops
behind it:

* **`Path`** — the lexemes lead from one state to another, and from one symbol table to another;
  **`Path.append_iff`** — a path along two lists of lexemes, and **`Path.unique`** — where it leads.
* **`Stop`** — how a run stops in a state, at a place in the tokens.
* **`exists_path_of_resume`** — every run is a path with a stop behind it.
* **`resume_of_path`** — a run follows every path, unless it gets too deep on it. -/

namespace Dopl.Checker

/-- The lexemes lead from one state and symbol table to another. -/
inductive Path : SymbolTable → State → List Lexeme → State → SymbolTable → Prop where
  /-- No token is taken. -/
  | refl {symbols : SymbolTable} {state : State} : Path symbols state [] state symbols
  /-- One token is taken before the others. -/
  | step {symbols middle symbols' : SymbolTable} {state between state' : State} {lexeme : Lexeme}
      {lexemes : List Lexeme} :
      Transition symbols state lexeme between middle → Path middle between lexemes state' symbols' →
        Path symbols state (lexeme :: lexemes) state' symbols'

namespace Path

variable {symbols middle symbols' : SymbolTable} {state between state' : State} {lexeme : Lexeme}
  {lexemes others : List Lexeme}

/-- A transition is a path. -/
theorem single (transition : Transition symbols state lexeme state' symbols') :
    Path symbols state [lexeme] state' symbols' :=
  .step transition .refl

/-- A path goes on behind a path. -/
theorem append (first : Path symbols state lexemes between middle)
    (second : Path middle between others state' symbols') :
    Path symbols state (lexemes ++ others) state' symbols' := by
  induction first with
  | refl => exact second
  | step transition _ induction => exact .step transition (induction second)

/-- A path goes on by one token more. -/
theorem snoc (first : Path symbols state lexemes between middle)
    (transition : Transition middle between lexeme state' symbols') :
    Path symbols state (lexemes ++ [lexeme]) state' symbols' :=
  first.append (single transition)

/-- Without a token a path leads nowhere else. -/
theorem nil_iff :
    Path symbols state [] state' symbols' ↔ state' = state ∧ symbols' = symbols := by
  constructor
  · intro path
    cases path
    exact ⟨rfl, rfl⟩
  · rintro ⟨rfl, rfl⟩
    exact .refl

/-- A path begins with a transition. -/
theorem cons_iff :
    Path symbols state (lexeme :: lexemes) state' symbols' ↔
      ∃ between middle, Transition symbols state lexeme between middle ∧
        Path middle between lexemes state' symbols' := by
  constructor
  · intro path
    cases path with
    | step transition further => exact ⟨_, _, transition, further⟩
  · rintro ⟨between, middle, transition, further⟩
    exact .step transition further

/-- A path along two lists of lexemes is one behind the other. -/
theorem append_iff :
    Path symbols state (lexemes ++ others) state' symbols' ↔
      ∃ between middle, Path symbols state lexemes between middle ∧
        Path middle between others state' symbols' := by
  constructor
  · intro path
    induction lexemes generalizing symbols state with
    | nil => exact ⟨state, symbols, .refl, path⟩
    | cons lexeme rest induction =>
        obtain ⟨between, middle, transition, further⟩ := cons_iff.mp path
        obtain ⟨last, table, first, second⟩ := induction further
        exact ⟨last, table, .step transition first, second⟩
  · rintro ⟨between, middle, first, second⟩
    exact first.append second

/-- A path along a single lexeme is a transition. -/
theorem singleton_iff :
    Path symbols state [lexeme] state' symbols' ↔
      Transition symbols state lexeme state' symbols' := by
  constructor
  · intro path
    obtain ⟨between, middle, transition, further⟩ := cons_iff.mp path
    obtain ⟨rfl, rfl⟩ := nil_iff.mp further
    exact transition
  · exact single

/-- The lexemes of a path tell where it leads. -/
theorem unique {other : State} {others : SymbolTable}
    (path : Path symbols state lexemes state' symbols')
    (second : Path symbols state lexemes other others) : other = state' ∧ others = symbols' := by
  induction path with
  | refl => exact nil_iff.mp second
  | @step _ _ _ _ _ _ lexeme _ transition _ induction =>
      obtain ⟨between, middle, otherTransition, further⟩ := cons_iff.mp second
      -- Both transitions are the one step that takes a token which means the lexeme.
      have meaning := lexeme.lexeme_token.symm
      rw [meaning] at transition otherTransition
      have same := (step_eq_take_iff.mpr transition).symm.trans
        (step_eq_take_iff.mpr otherTransition)
      cases same
      exact induction further

end Path

/-! ## Runs along paths -/

/-- The run from a state on, at a place in the tokens. -/
def resume (limit : Option Nat) (state : State) (symbols : SymbolTable) (cursor : Cursor) :
    Finish :=
  run limit state symbols cursor.current cursor.before cursor.next cursor.ahead

/-- At the first token, nothing is before the cursor and the whole list is at it or behind. -/
theorem split_ofTokens (tokens : List Token) :
    (Cursor.ofTokens tokens).before = [] ∧
      (Cursor.ofTokens tokens).next :: (Cursor.ofTokens tokens).ahead = Token.withEnd tokens := by
  unfold Cursor.ofTokens
  split
  · next empty => exact absurd empty (Token.withEnd_ne_nil tokens)
  · next marked => exact ⟨rfl, marked.symm⟩

/-- How a run stops in a state, at a place in the tokens. -/
inductive Stop (limit : Option Nat) (state : State) (symbols : SymbolTable) (cursor : Cursor) :
    Finish → Prop where
  /-- The next token is not taken. -/
  | leave {answer : Answer} :
      step state symbols cursor.next = .leave answer →
        Stop limit state symbols cursor ⟨.answered answer, cursor, symbols⟩
  /-- The next token is the last one taken. -/
  | takeLast {answer : Answer} {moved : Cursor} :
      step state symbols cursor.next = .takeLast answer → cursor.advance? = some moved →
        Stop limit state symbols cursor ⟨.answered answer, moved, symbols⟩
  /-- The next token is to be taken, but none stands behind it. -/
  | exhausted :
      (∀ answer, step state symbols cursor.next ≠ .leave answer) → cursor.ahead = [] →
        Stop limit state symbols cursor
          ⟨.answered (.refused .endOfInput), cursor.matchLast, symbols⟩
  /-- The next token is taken, and the nesting gets too deep. -/
  | tooDeep {state' : State} {symbols' : SymbolTable} {moved : Cursor} :
      step state symbols cursor.next = .take state' symbols' → cursor.advance? = some moved →
      (limit.any fun limit => decide (limit < state'.depth)) = true →
        Stop limit state symbols cursor ⟨.tooDeep, moved, symbols'⟩

/-- Every run goes along a path and stops behind it. -/
theorem exists_path_of_resume (limit : Option Nat) (state : State) (symbols : SymbolTable)
    (cursor : Cursor) :
    ∃ (taken : List Token) (state' : State) (symbols' : SymbolTable) (moved : Cursor),
      Path symbols state (taken.map Token.lexeme) state' symbols' ∧
        cursor.next :: cursor.ahead = taken ++ moved.next :: moved.ahead ∧
        moved.before = taken.reverse ++ cursor.before ∧
        Stop limit state' symbols' moved (resume limit state symbols cursor) := by
  obtain ⟨current, before, next, ahead⟩ := cursor
  unfold resume
  dsimp only
  induction ahead generalizing state symbols current before next with
  | nil =>
      -- Nothing stands behind the next token, so the run stops before it or with it.
      refine ⟨[], state, symbols, ⟨current, before, next, []⟩, .refl, rfl, rfl, ?_⟩
      cases moved : step state symbols next with
      | leave answer =>
          rw [run_of_leave moved]
          exact .leave moved
      | takeLast answer =>
          unfold run
          simp only [moved]
          exact .exhausted (by simp [moved]) rfl
      | take state' symbols' =>
          unfold run
          simp only [moved]
          exact .exhausted (by simp [moved]) rfl
  | cons token rest induction =>
      cases moved : step state symbols next with
      | leave answer =>
          rw [run_of_leave moved]
          exact ⟨[], state, symbols, ⟨current, before, next, token :: rest⟩, .refl, rfl, rfl,
            .leave moved⟩
      | takeLast answer =>
          rw [run_of_takeLast moved]
          exact ⟨[], state, symbols, ⟨current, before, next, token :: rest⟩, .refl, rfl, rfl,
            .takeLast moved rfl⟩
      | take state' symbols' =>
          rw [run_of_take moved]
          split
          · next deep =>
            exact ⟨[], state, symbols, ⟨current, before, next, token :: rest⟩, .refl, rfl, rfl,
              .tooDeep moved rfl deep⟩
          · obtain ⟨taken, last, declared, stopped, path, ahead, before, stop⟩ :=
              induction state' symbols' (some next) (next :: before) token
            refine ⟨next :: taken, last, declared, stopped,
              .step (step_eq_take_iff.mp moved) path, ?_, ?_, stop⟩
            · rw [ahead, List.cons_append]
            · rw [before, List.reverse_cons, List.append_assoc]
              rfl

/-- A run follows every path, unless it gets too deep on it. -/
theorem resume_of_path {limit : Option Nat} {state state' : State} {symbols symbols' : SymbolTable}
    {cursor : Cursor} {taken ahead : List Token} {next : Token}
    (path : Path symbols state (taken.map Token.lexeme) state' symbols')
    (split : cursor.next :: cursor.ahead = taken ++ next :: ahead) :
    (resume limit state symbols cursor).outcome = .tooDeep ∨
      ∃ current, resume limit state symbols cursor =
        resume limit state' symbols' ⟨current, taken.reverse ++ cursor.before, next, ahead⟩ := by
  induction taken generalizing state symbols cursor with
  | nil =>
      cases path
      obtain ⟨current, before, _, _⟩ := cursor
      cases split
      exact .inr ⟨current, rfl⟩
  | cons token rest induction =>
      obtain ⟨current, before, first, others⟩ := cursor
      rw [List.cons_append, List.cons.injEq] at split
      dsimp only at split
      obtain ⟨rfl, rfl⟩ := split
      cases path with
      | @step _ _ _ _ between _ _ _ transition further =>
          -- Something stands behind the token: the next one of the path, or the one it leads to.
          obtain ⟨second, behind, split⟩ :
              ∃ second behind, rest ++ next :: ahead = second :: behind := by
            cases rest <;> exact ⟨_, _, rfl⟩
          have stepped := step_eq_take_iff.mpr transition
          unfold resume
          dsimp only
          rw [split, run_of_take stepped]
          by_cases deep : (limit.any fun limit => decide (limit < between.depth)) = true
          · rw [if_pos deep]
            exact .inl rfl
          · rw [if_neg deep]
            have rested := @induction between _
              ⟨some first, first :: before, second, behind⟩ further split.symm
            rw [List.reverse_cons, List.append_assoc]
            exact rested

end Dopl.Checker
