import Dopl.Checker.Session
import Dopl.Proofs.Checker.Path

/-! # What a rule leaves as it was

Only the declarations at the start of a program, and a group that is read alone, change the symbols.
No rule changes the tokens it is run on.

* **`State.Declares`** — symbols may be declared on the way from the state.
* **`symbols_of_transition`** — one token declares one name at most; **`frame_of_transition`**,
  **`frame_of_path`** — behind the declarations no token declares any;
  **`path_of_lookup_eq`** — there the symbols count only through what a name is.
* **`frame_of_run`** — what that makes of the rules for statements and expressions.
* **`tokens_of_run`** — a run keeps the tokens of its cursor. -/

namespace Dopl.Checker

variable {limit : Option Nat} {symbols symbols' : SymbolTable} {state state' : State}
  {lexeme : Lexeme} {lexemes : List Lexeme} {cursor : Cursor} {finish : Finish}

/-! ## Symbols -/

/-- The state is before or in the declarations of a program, or of a group that is read alone. -/
def State.Declares : State → Prop
  | .opening | .declarations | .groupHead | .group .. => True
  | .statement _ | .arrow .. | .term _ | .operand _ | .operator .. | .semicolon _ | .trailer => False

/-- A token changes the symbols only by declaring a name. -/
theorem symbols_of_transition (transition : Transition symbols state lexeme state' symbols') :
    symbols' = symbols ∨
      ∃ name type, lexeme = .name name ∧ symbols.declare? name type = some symbols' := by
  induction transition with
  | statement _ induction => exact induction
  | operand _ induction => exact induction
  | @name type _ _ name _ _ _ added => exact .inr ⟨name, type, rfl, added⟩
  | _ => exact .inl rfl

/-- Behind the declarations no token declares a name, nor does one lead back to them. -/
theorem frame_of_transition (transition : Transition symbols state lexeme state' symbols')
    (behind : ¬state.Declares) : ¬state'.Declares ∧ symbols' = symbols := by
  induction transition with
  | operand _ induction => exact induction behind
  | opening => exact absurd trivial behind
  | group _ => exact absurd trivial behind
  | statement _ _ => exact absurd trivial behind
  | groupHead _ => exact absurd trivial behind
  | groupEnd => exact absurd trivial behind
  | comma => exact absurd trivial behind
  | name _ _ _ => exact absurd trivial behind
  | _ => exact ⟨id, rfl⟩

/-- Behind the declarations no tokens declare names. -/
theorem frame_of_path (path : Path symbols state lexemes state' symbols')
    (behind : ¬state.Declares) : ¬state'.Declares ∧ symbols' = symbols := by
  induction path with
  | refl => exact ⟨behind, rfl⟩
  | step transition _ induction =>
      obtain ⟨stays, same⟩ := frame_of_transition transition behind
      obtain ⟨ends, rest⟩ := induction stays
      exact ⟨ends, rest.trans same⟩

/-- Behind the declarations a token is taken in the same way where all names are the same. -/
theorem transition_of_lookup_eq {other : SymbolTable}
    (same : ∀ name, other.lookup name = symbols.lookup name)
    (transition : Transition symbols state lexeme state' symbols') (behind : ¬state.Declares) :
    Transition other state lexeme state' other := by
  induction transition with
  | operand _ induction => exact .operand (induction behind)
  | target found => exact .target ((same _).trans found)
  | identifier found further => exact .identifier ((same _).trans found) further
  | opening => exact absurd trivial behind
  | group _ => exact absurd trivial behind
  | statement _ _ => exact absurd trivial behind
  | groupHead _ => exact absurd trivial behind
  | groupEnd => exact absurd trivial behind
  | comma => exact absurd trivial behind
  | name _ _ _ => exact absurd trivial behind
  | _ => constructor <;> assumption

/-- Behind the declarations a path leads to the same state where all names are the same. -/
theorem path_of_lookup_eq {other : SymbolTable}
    (same : ∀ name, other.lookup name = symbols.lookup name)
    (path : Path symbols state lexemes state' symbols') (behind : ¬state.Declares) :
    Path other state lexemes state' other := by
  induction path with
  | refl => exact .refl
  | step transition _ induction =>
      obtain ⟨stays, rfl⟩ := frame_of_transition transition behind
      exact .step (transition_of_lookup_eq same transition behind) (induction same stays)

/-- A stop behind the declarations declares no names. -/
theorem symbols_of_stop (stop : Stop limit state symbols cursor finish)
    (behind : ¬state.Declares) : finish.symbols = symbols := by
  cases stop with
  | leave _ => rfl
  | takeLast _ _ => rfl
  | exhausted _ _ => rfl
  | tooDeep taken _ _ => exact (frame_of_transition (step_eq_take_iff.mp taken) behind).2

/-- A run that starts behind the declarations declares no names, however it ends. -/
theorem frame_of_run (limit : Option Nat) (symbols : SymbolTable) (cursor : Cursor)
    (behind : ¬state.Declares) : (resume limit state symbols cursor).symbols = symbols := by
  obtain ⟨taken, last, declared, moved, path, -, -, stop⟩ :=
    exists_path_of_resume limit state symbols cursor
  obtain ⟨stays, same⟩ := frame_of_path path behind
  exact (symbols_of_stop stop stays).trans same

/-! ## Tokens -/

/-- A stop keeps the tokens of its cursor. -/
theorem tokens_of_stop (stop : Stop limit state symbols cursor finish) :
    finish.cursor.tokens = cursor.tokens := by
  cases stop with
  | leave _ => rfl
  | takeLast _ advanced => exact Cursor.tokens_of_advance? advanced
  | exhausted _ _ => rfl
  | tooDeep _ advanced _ => exact Cursor.tokens_of_advance? advanced

/-- A run keeps the tokens of its cursor, wherever that is and however the run ends. -/
theorem tokens_of_run (limit : Option Nat) (state : State) (symbols : SymbolTable)
    (cursor : Cursor) : (resume limit state symbols cursor).cursor.tokens = cursor.tokens := by
  obtain ⟨taken, last, declared, moved, -, ahead, before, stop⟩ :=
    exists_path_of_resume limit state symbols cursor
  rw [tokens_of_stop stop, Cursor.tokens, Cursor.tokens, before, ahead, List.reverse_append,
    List.reverse_reverse, List.append_assoc]

end Dopl.Checker
