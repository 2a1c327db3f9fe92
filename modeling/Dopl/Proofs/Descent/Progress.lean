import Dopl.Proofs.Checker.Nesting
import Dopl.Proofs.Descent.Rule

/-! # Procedures end, and get further

Without a limit on the nesting of its calls no procedure runs on for ever: each rule and each turn
of a loop comes to an end, never beyond the tokens, and where it succeeds it has taken a token. Only
a list of statements may take none, and then its loop is over:

* **`Action.Advances`** — a procedure ends, no further back than it started.
* **`advances_of_follows`** — it does if it follows a run.
* **`advances_declarationTurn`** — a turn of the loop of a group does whatever its counters are.
* **`descend_ends_further`** — every rule and every turn does. -/

namespace Dopl.Checker

open Descent

variable {α : Type} {symbols : SymbolTable} {cursor : Cursor}

/-- Started at the cursor, the procedure comes to an end, not for the nesting of its calls, and at a
place in the tokens that is not before the cursor. If it gives a value of the kind that is told, it
has got further. -/
def Action.Advances (action : Action α) (symbols : SymbolTable) (cursor : Cursor)
    (told : α → Prop) : Prop :=
  ∃ (ended : Except Failure α) (moved : Cursor) (declared : SymbolTable),
    action.result (cursor.store symbols) = some (ended, moved.store declared) ∧
      ended ≠ .error .tooDeep ∧ cursor.position ≤ moved.position ∧
      moved.position ≤ cursor.tokens.length ∧
      ∀ value, ended = .ok value → told value → cursor.position < moved.position

/-- What a procedure leaves tells whether it gets further. -/
theorem advances_of_leaves {action : Action α} {told : α → Prop}
    {fails : Failure → SymbolTable → Cursor → Prop} {post : α → SymbolTable → Cursor → Prop}
    (leaves : action.Leaves cursor.tokens fails symbols cursor post)
    (failing : ∀ failure declared moved, fails failure declared moved →
      failure ≠ .tooDeep ∧ cursor.position ≤ moved.position)
    (returning : ∀ value declared moved, post value declared moved →
      cursor.position ≤ moved.position ∧ (told value → cursor.position < moved.position)) :
    action.Advances symbols cursor told := by
  have ending := leaves rfl
  unfold Action.Advances
  generalize action.result (cursor.store symbols) = result at ending ⊢
  cases ending with
  | @returns value declared moved stays holds =>
      obtain ⟨after, further⟩ := returning _ _ _ holds
      refine ⟨.ok value, moved, declared, rfl, nofun, after,
        stays ▸ moved.position_le_length, fun other same => ?_⟩
      cases same
      exact further
  | @fails failure declared moved stays failed =>
      obtain ⟨shallow, after⟩ := failing _ _ _ failed
      refine ⟨.error failure, moved, declared, rfl, fun deep => ?_, after,
        stays ▸ moved.position_le_length, nofun⟩
      cases deep
      exact shallow rfl

/-- A procedure that follows a run gets further if what it gives says so; a run does not go back. -/
theorem advances_of_follows {action : Action α} {told : α → Prop} {state : State}
    {post : α → SymbolTable → Cursor → Prop}
    (follows : action.Follows (resume none state symbols cursor) symbols cursor post)
    (returning : ∀ value declared moved, post value declared moved →
      cursor.position ≤ moved.position ∧ (told value → cursor.position < moved.position)) :
    action.Advances symbols cursor told := by
  have stays := tokens_of_run none state symbols cursor
  have after := position_le_run none state symbols cursor.current cursor.before cursor.next
    cursor.ahead
  have shallow := run_none_ne_tooDeep state symbols cursor.current cursor.before cursor.next
    cursor.ahead
  unfold Action.Follows at follows
  rw [stays] at follows
  refine advances_of_leaves follows (fun failure declared moved failed => ?_) returning
  change (resume none state symbols cursor).outcome ≠ .tooDeep at shallow
  change cursor.position ≤ (resume none state symbols cursor).cursor.position at after
  generalize resume none state symbols cursor = finish at failed shallow after
  cases failed with
  | refused => exact ⟨nofun, after⟩
  | tooDeep => exact absurd rfl shallow

/-- A turn of a loop gets further where the loop goes on, if it follows a run and stays where it is
at the end of the loop. -/
theorem advances_of_turn {σ : Type} {turn : Action (Option σ)} {state : State}
    {post : Option σ → SymbolTable → Cursor → Prop}
    (follows : turn.Follows (resume none state symbols cursor) symbols cursor post)
    (ended : ∀ declared moved, post none declared moved → moved = cursor)
    (goesOn : ∀ value declared moved, post (some value) declared moved →
      cursor.position < moved.position) :
    turn.Advances symbols cursor fun next => next.isSome = true := by
  refine advances_of_follows follows fun next declared moved reached => ?_
  cases next with
  | none =>
      rw [ended declared moved reached]
      exact ⟨Nat.le_refl _, fun goes => by cases goes⟩
  | some value =>
      have further := goesOn value declared moved reached
      exact ⟨Nat.le_of_lt further, fun _ => further⟩

/-- A turn of the loop of a group takes a token, or it refuses one; its counters do not matter. -/
theorem advances_declarationTurn (marked : EndMarked cursor.tokens) (type : ValueType)
    (counts : Nat × Nat) :
    (declarationTurn type counts).Advances symbols cursor fun _ => True := by
  have leaves : (declarationTurn type counts).Leaves cursor.tokens
      (fun failure _ moved => failure ≠ .tooDeep ∧ cursor.position ≤ moved.position) symbols cursor
      fun _ _ moved => cursor.position < moved.position := by
    have further (moved : Cursor) (advanced : cursor.advance? = some moved) :
        cursor.position < moved.position := by
      have next := Cursor.position_of_advance? advanced
      omega
    have refuses (fault : CheckFault) (moved : Cursor) (advanced : cursor.advance? = some moved) :
        (refuse fault : Action (Option (Nat × Nat))).Leaves cursor.tokens
          (fun failure _ moved => failure ≠ .tooDeep ∧ cursor.position ≤ moved.position) symbols
          moved fun _ _ moved => cursor.position < moved.position :=
      leaves_refuse ⟨nofun, Nat.le_of_lt (further moved advanced)⟩
    refine leaves_acceptSeparator marked (fun _ moved advanced => ?_) fun _ => ?_
    · split
      · exact refuses _ moved advanced
      · split
        · exact refuses _ moved advanced
        · exact .pure (further moved advanced)
    refine leaves_acceptSeparator marked (fun _ moved advanced => ?_) fun _ => ?_
    · split
      · exact refuses _ moved advanced
      · exact .pure (further moved advanced)
    refine leaves_acceptKind marked (by decide) (fun _ moved advanced => ?_) fun _ => ?_
    · refine leaves_current advanced ?_
      split
      · exact refuses _ moved advanced
      · split
        · exact refuses _ moved advanced
        · refine leaves_declare (fun declared _ => .pure (further moved advanced)) fun _ => ?_
          exact ⟨nofun, Nat.le_of_lt (further moved advanced)⟩
    · exact leaves_next (leaves_refuse ⟨nofun, Nat.le_refl _⟩)
  exact advances_of_leaves leaves (fun _ _ _ failed => failed)
    fun _ _ _ further => ⟨Nat.le_of_lt further, fun _ => further⟩

/-- **Every rule ends, and gets further.** In tokens with an end mark and without a limit on the
nesting, the procedure of every rule comes to its end, at a place in the tokens that is not before
the one where it started. Where it succeeds it has got further, unless it reads a list of
statements. Each turn of its loops comes to an end in the same way, and has got further if the loop
goes on; that of a group of declarations has got further also where the loop is over. -/
theorem descend_ends_further (tokens : List Token) (symbols : SymbolTable) (cursor : Cursor)
    (begun : cursor.tokens = Token.withEnd tokens) :
    (∀ rule : Rule, (rule.descend none).Advances symbols cursor fun _ => rule ≠ .statements) ∧
      (programTurn ()).Advances symbols cursor (fun next => next.isSome = true) ∧
      (∀ type counts, (declarationTurn type counts).Advances symbols cursor fun _ => True) ∧
      (statementsTurn none ()).Advances symbols cursor (fun next => next.isSome = true) ∧
      (∀ type, (expressionTurn none type).Advances symbols cursor fun next => next.isSome = true) ∧
      ∀ negated, (signTurn negated).Advances symbols cursor fun next => next.isSome = true := by
  have marked : EndMarked cursor.tokens := begun ▸ endMarked_withEnd tokens
  have ends (state : State) : EndMarked (resume none state symbols cursor).cursor.tokens :=
    (tokens_of_run none state symbols cursor).symm ▸ marked
  -- Without a limit there is room at every depth.
  have fits (depth : Nat) : RoomAt none none depth := rfl
  refine ⟨fun rule => ?_, ?_, advances_declarationTurn marked, ?_, fun type => ?_,
    fun negated => ?_⟩
  · have follows : (rule.descend none).Follows (resume none rule.start symbols cursor) symbols
        cursor _ := follows_rule rule (ends rule.start) rfl
    refine advances_of_follows follows fun type declared moved reached => ⟨?_, reached.1⟩
    have after := position_le_run none rule.start symbols cursor.current cursor.before cursor.next
      cursor.ahead
    have place : moved = (resume none rule.start symbols cursor).cursor := by rw [← reached.2]
    rw [place]
    exact after
  · exact advances_of_turn (follows_programTurn (ends _) (fits 0) rfl)
      (fun _ _ reached => reached.2.1) fun _ _ _ reached => reached.2
  · have bodies : StatementsFollow none _ cursor.position :=
      statementsFollow (ends (.statement { outermost := .statements })) _
    exact advances_of_turn (follows_statementsTurn (ends _) bodies (fits _) rfl rfl)
      (fun _ _ reached => reached.2.1) fun _ _ _ reached => reached.2
  · have inside : ExpressionFollows none _ cursor.position :=
      expressionFollows (ends (.operator type [] .expression)) _
    have goesOn : Reading.GoesOn { purpose := .expression } := rfl
    exact advances_of_turn (follows_expressionTurn (ends _) inside (fits _) goesOn rfl)
      (fun _ _ reached => reached.2.1) fun _ _ _ reached => reached.2
  · let reading : Reading := { purpose := .expression }
    have follows := follows_signTurn (ends (.term (reading.signed negated))) (fits _) negated rfl
    exact advances_of_turn follows (fun _ _ reached => reached.2.1) fun _ _ _ reached => reached.2

/-- A loop whose body is not closed. -/
def unclosedLoop : List Token :=
  [⟨.keyword, "loopif"⟩, ⟨.integer, "1"⟩, ⟨.operator, ".eq."⟩, ⟨.integer, "1"⟩, ⟨.keyword, "do"⟩]

/-- The end of the input does not end the body, but the statement that is not there does: the rule
ends at the last of the tokens. -/
theorem descend_ends_further_unclosedLoop :
    ∃ (moved : Cursor) (declared : SymbolTable),
      (Rule.statement.descend none).result ((Cursor.ofTokens unclosedLoop).store {}) =
        some (.error (.refused (.notStatement Token.endOfInput) moved.position),
          moved.store declared) ∧
        (Cursor.ofTokens unclosedLoop).position < moved.position ∧
        moved.position = (Token.withEnd unclosedLoop).length := by
  obtain ⟨rules, -⟩ :=
    descend_ends_further unclosedLoop {} (.ofTokens unclosedLoop) (Cursor.tokens_ofTokens _)
  obtain ⟨ended, moved, declared, same, -, -, -, -⟩ := rules .statement
  have ends := descend_eq_run none .statement {} _ (endMarked_ofTokens unclosedLoop)
  have refused : Rule.statement.run none {} (.ofTokens unclosedLoop) =
      ⟨.answered (.refused (.notStatement Token.endOfInput)),
        ⟨some ⟨.keyword, "do"⟩, unclosedLoop.reverse, Token.endOfInput, []⟩, {}⟩ := by
    decide +kernel
  rw [refused] at ends
  obtain ⟨fails, left⟩ := Prod.mk.inj (Option.some.inj (same.symm.trans ends))
  have position : moved.position = 6 := congrArg (fun store => store.tape.elim 0 Tape.position) left
  refine ⟨moved, declared, ?_, by rw [position]; decide +kernel, by rw [position]; decide +kernel⟩
  rw [same, fails, position]
  rfl

end Dopl.Checker
