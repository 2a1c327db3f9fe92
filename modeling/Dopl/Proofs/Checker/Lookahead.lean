import Dopl.Proofs.Checker.EndMark
import Dopl.Proofs.Report

/-! # One token of look-ahead

The checker decides on the next token alone, so a run depends only on the tokens it has taken from
its stream, the next one included. Two streams that agree that far give runs with the same end:

* **`Finish.Agrees`** — two ends of runs that differ at most in the tokens not looked at.
* **`run_agrees`** — from one state, two lists that share what the first run looks at.
* **`rule_agrees_of_take_eq`** — the same for any rule started at the first token of a stream. A
  refused program is the case of interest: whatever begins with the same tokens is refused in the
  same way. -/

namespace Dopl.Checker

/-- Two ends of runs agree: in how they ended, in the tokens around the cursor, in its position, and
in the declared symbols. What stands behind the next token may differ. -/
structure Finish.Agrees (finish other : Finish) : Prop where
  /-- They ended in the same way. -/
  outcome : other.outcome = finish.outcome
  /-- The same token was matched last. -/
  current : other.cursor.current = finish.cursor.current
  /-- The same token is the next one. -/
  next : other.cursor.next = finish.cursor.next
  /-- As many tokens were taken. -/
  position : other.cursor.position = finish.cursor.position
  /-- The same symbols are declared. -/
  symbols : other.symbols = finish.symbols

/-- Runs that agree have the same cause for which the tokens are refused, if they are. -/
theorem Finish.Agrees.cause? {finish other : Finish} (agrees : finish.Agrees other) :
    other.cause? = finish.cause? := by
  unfold Finish.cause?
  rw [agrees.outcome, agrees.position]

/-- A refused run is at the position of its fault. -/
theorem Finish.position_of_cause? {finish : Finish} {fault : CheckFault} {position : Nat}
    (refused : finish.cause? = some (.check fault position)) :
    finish.cursor.position = position := by
  unfold Finish.cause? at refused
  split at refused
  · cases refused
  · cases refused
    rfl
  · cases refused

/-- A list that begins like another one, at least for a token, has its first token. -/
theorem exists_eq_cons_of_take_eq {token : Token} {rest other : List Token} {count : Nat}
    (same : other.take (count + 1) = (token :: rest).take (count + 1)) :
    ∃ others, other = token :: others ∧ others.take count = rest.take count := by
  cases other with
  | nil => simp at same
  | cons first others =>
      simp only [List.take_succ_cons, List.cons.injEq] at same
      exact ⟨others, by rw [same.1], same.2⟩

/-- Runs from one state agree if the lists agree as far as the first run gets. The induction is on
the tokens of the first run: while it goes on it has looked at one token more, which the second list
has to have too, and neither run gets past its end mark. -/
theorem run_agrees (limit : Option Nat) (state : State) (symbols : SymbolTable)
    (current : Option Token) (before : List Token) (next : Token) (ahead other : List Token)
    (marked : EndMarked (next :: ahead)) (count : Nat)
    (reached : (run limit state symbols current before next ahead).cursor.position =
      before.length + 1 + count)
    (same : other.take count = ahead.take count) :
    (run limit state symbols current before next ahead).Agrees
      (run limit state symbols current before next other) := by
  induction ahead generalizing state symbols current before next other count with
  | nil =>
      obtain ⟨answer, left⟩ := step_of_endOfInput state symbols marked.kind_of_singleton
      rw [run_of_leave left, run_of_leave left]
      exact ⟨rfl, rfl, rfl, rfl, rfl⟩
  | cons token rest induction =>
      cases moved : step state symbols next with
      | leave answer =>
          rw [run_of_leave moved, run_of_leave moved]
          exact ⟨rfl, rfl, rfl, rfl, rfl⟩
      | takeLast answer =>
          rw [run_of_takeLast moved] at reached ⊢
          obtain rfl : count = 0 + 1 := by
            simp only [Cursor.position, List.length_cons] at reached
            omega
          obtain ⟨others, rfl, -⟩ := exists_eq_cons_of_take_eq same
          rw [run_of_takeLast moved]
          exact ⟨rfl, rfl, rfl, rfl, rfl⟩
      | take state' symbols' =>
          -- The run is at least one token further, so both lists have that token.
          have further : before.length + 2 ≤ before.length + 1 + count := by
            rw [← reached, run_of_take moved]
            split
            · exact Nat.le_refl _
            · exact position_le_run limit state' symbols' (some next) (next :: before) token rest
          obtain ⟨more, rfl⟩ : ∃ more, count = more + 1 := ⟨count - 1, by omega⟩
          obtain ⟨others, rfl, sameRest⟩ := exists_eq_cons_of_take_eq same
          rw [run_of_take moved] at reached ⊢
          rw [run_of_take moved]
          split
          · exact ⟨rfl, rfl, rfl, rfl, rfl⟩
          · next shallow =>
            rw [if_neg shallow] at reached
            refine induction state' symbols' (some next) (next :: before) token others
              marked.tail more ?_ sameRest
            rw [reached, List.length_cons]
            omega

/-- Streams that share the tokens a run looks at start with the same token. -/
theorem ofTokens_eq_of_take_eq {tokens others : List Token} {count : Nat}
    (same : (Token.withEnd others).take (count + 1) = (Token.withEnd tokens).take (count + 1)) :
    ∃ first rest rest', Cursor.ofTokens tokens = ⟨none, [], first, rest⟩ ∧
      Cursor.ofTokens others = ⟨none, [], first, rest'⟩ ∧ EndMarked (first :: rest) ∧
      rest'.take count = rest.take count := by
  cases split : Token.withEnd tokens with
  | nil => exact absurd split (Token.withEnd_ne_nil tokens)
  | cons first rest =>
      rw [split] at same
      obtain ⟨rest', otherSplit, sameRest⟩ := exists_eq_cons_of_take_eq same
      refine ⟨first, rest, rest', ?_, ?_, ?_, sameRest⟩
      · rw [Cursor.ofTokens, split]
      · rw [Cursor.ofTokens, otherSplit]
      · rw [← split]
        exact endMarked_withEnd tokens

/-- Any rule, started at the first token, ends in the same way on two streams that agree as far as
the first run gets. -/
theorem rule_agrees (limit : Option Nat) (rule : Rule) (symbols : SymbolTable)
    (tokens others : List Token)
    (same : (Token.withEnd others).take
        (rule.run limit symbols (.ofTokens tokens)).cursor.position =
      (Token.withEnd tokens).take (rule.run limit symbols (.ofTokens tokens)).cursor.position) :
    (rule.run limit symbols (.ofTokens tokens)).Agrees
      (rule.run limit symbols (.ofTokens others)) := by
  obtain ⟨count, reached⟩ : ∃ count,
      (rule.run limit symbols (.ofTokens tokens)).cursor.position = count + 1 := ⟨_, rfl⟩
  rw [reached] at same
  obtain ⟨first, rest, rest', started, otherStarted, marked, sameRest⟩ :=
    ofTokens_eq_of_take_eq same
  rw [started] at reached ⊢
  rw [otherStarted]
  refine run_agrees limit rule.start symbols none [] first rest rest' marked count ?_ sameRest
  rw [List.length_nil, Nat.zero_add, Nat.add_comm 1]
  exact reached

/-- **One token of look-ahead, and the first fault wins.** A run of any rule on a stream looks at no
token behind its cursor: on every stream that has the same tokens up to there, it ends with the same
answer or fault, at the same place, with the same symbols. In particular a source that is refused at
a token is refused with the same fault, at the same token, however it goes on behind it. -/
theorem rule_agrees_of_take_eq (limit : Option Nat) :
    (∀ (rule : Rule) (symbols : SymbolTable) (tokens others : List Token),
      (Token.withEnd others).take (rule.run limit symbols (.ofTokens tokens)).cursor.position =
          (Token.withEnd tokens).take
            (rule.run limit symbols (.ofTokens tokens)).cursor.position →
        (rule.run limit symbols (.ofTokens tokens)).Agrees
          (rule.run limit symbols (.ofTokens others))) ∧
    ∀ (source other : Source) (fault : CheckFault) (position : Nat),
      (checkWithin limit source).cause = some (.check fault position) →
      (scan other).errors = #[] →
      (Token.withEnd (scan other).tokens.toList).take position =
          (Token.withEnd (scan source).tokens.toList).take position →
        (checkWithin limit other).cause = some (.check fault position) ∧
          (checkWithin limit other).verdict = .error := by
  refine ⟨rule_agrees limit, ?_⟩
  intro source other fault position refused otherScanned same
  have scanned := errors_eq_empty_of_cause refused
  rw [checkWithin_of_errors_eq_empty limit scanned] at refused
  have agrees := rule_agrees limit .program {} (scan source).tokens.toList
    (scan other).tokens.toList (by rw [Finish.position_of_cause? refused]; exact same)
  have otherRefused : (checkWithin limit other).cause = some (.check fault position) := by
    rw [checkWithin_of_errors_eq_empty limit otherScanned]
    exact agrees.cause?.trans refused
  refine ⟨otherRefused, ?_⟩
  rw [Report.verdict, otherRefused]
  rfl

/-- The look-ahead at work: behind the fifth token nothing counts for a group without a comma, nor
behind the second for the expression `1`. -/
theorem rule_agrees_of_take_eq_missingComma :
    (checkWithin (some nestingLimit) (.text "start integer x y; print 1;")).cause =
        some (.check (.missingComma "y") 5) ∧
      (checkWithin (some nestingLimit) (.lines ["start integer x", "y;", ") finish"])).cause =
        some (.check (.missingComma "y") 5) ∧
      (Rule.expression.run none {} (.ofTokens [⟨.integer, "1"⟩, ⟨.separator, ";"⟩])).Agrees
        (Rule.expression.run none {}
          (.ofTokens [⟨.integer, "1"⟩, ⟨.separator, ";"⟩, ⟨.reserved, "?"⟩])) := by
  have refused : (checkWithin (some nestingLimit) (.text "start integer x y; print 1;")).cause =
      some (.check (.missingComma "y") 5) := by decide +kernel
  have scanned : (scan (.lines ["start integer x", "y;", ") finish"])).errors = #[] := by
    decide +kernel
  refine ⟨refused, ?_, ?_⟩
  · exact ((rule_agrees_of_take_eq (some nestingLimit)).2 _ _ _ _ refused scanned
      (by decide +kernel)).1
  · exact (rule_agrees_of_take_eq none).1 .expression {} _ _ (by decide +kernel)

end Dopl.Checker
