import Dopl.Proofs.Checker.Frame
import Dopl.Proofs.Checker.InProgram
import Dopl.Proofs.Checker.Nesting
import Dopl.Proofs.Checker.Soundness
import Dopl.Proofs.Grammar.Chain

/-! # The type of an expression

The checker works out the type of an expression token by token. What comes out can be told from the
expression as a whole: it is the type of the terms joined by the operators, whatever their order,
and whichever left part stands in parentheses:

* **`Cursor.StandsBefore`** — some tokens are the next ones, with the end of an expression behind.
* **`exists_chain_of_accepted`**, **`run_of_chain`** — an expression is accepted iff it is a chain.
* **`exceeds_chain_iff`** — how deep a chain is nested does not depend on the order either.
* **`expression_accepts_iff_chain`** — the type of an expression, in closed form. -/

namespace Dopl.Checker

open Grammar

/-- The tokens are the next ones, and behind them stands a token that ends an expression. -/
structure Cursor.StandsBefore (cursor : Cursor) (tokens : List Token) (ender : Token)
    (behind : List Token) : Prop where
  /-- The token behind the tokens ends an expression. -/
  ends : ender.endsExpression = true
  /-- They are the next tokens, up to the end of the stream. -/
  split : cursor.next :: cursor.ahead = tokens ++ ender :: behind

variable {limit : Option Nat} {symbols symbols' : SymbolTable} {cursor : Cursor} {chain : Chain}
  {ender : Token} {behind : List Token}

/-! ## Accepted expressions -/

/-- The state belongs to an expression that is read alone. -/
def State.ReadsExpression : State → Prop
  | .term reading | .operand reading => reading.purpose = .expression
  | .operator _ _ purpose => purpose = .expression
  | _ => False

/-- A token does not lead out of an expression that is read alone. -/
theorem readsExpression_of_transition {state state' : State} {lexeme : Lexeme}
    (transition : Transition symbols state lexeme state' symbols')
    (reads : state.ReadsExpression) : state'.ReadsExpression := by
  induction transition with
  | operand _ induction => exact induction reads
  | minus => exact reads
  | not => exact reads
  | integer _ => exact reads
  | character _ _ => exact reads
  | identifier _ _ => exact reads
  | parenthesis => exact reads
  | binary _ => exact reads
  | closing _ => exact reads
  | _ => cases reads

/-- Nor do some tokens. -/
theorem readsExpression_of_path {state state' : State} {lexemes : List Lexeme}
    (path : Path symbols state lexemes state' symbols') (reads : state.ReadsExpression) :
    state'.ReadsExpression := by
  induction path with
  | refl => exact reads
  | step transition _ induction => exact induction (readsExpression_of_transition transition reads)

/-- An expression that is read alone is accepted only before a token that ends it, with no
parenthesis open, and that token is not taken. -/
theorem accepts_of_readsExpression {state : State} {token : Token}
    (reads : state.ReadsExpression) (accepts : (step state symbols token).Accepts) :
    ∃ type, state = .operator type [] .expression ∧ token.endsExpression = true := by
  cases state with
  | term reading =>
      have other : reading.purpose ≠ .term := by rw [reads]; decide
      exact absurd accepts (not_accepts_stepTerm other)
  | operand reading =>
      have other : reading.purpose ≠ .term := by rw [reads]; decide
      exact absurd accepts (not_accepts_stepOperand other)
  | operator type enclosing purpose =>
      obtain rfl : purpose = .expression := reads
      by_cases ends : token.endsExpression = true
      · rw [step, stepOperator_of_ender ends] at accepts
        cases enclosing with
        | nil => exact ⟨type, rfl, ends⟩
        | cons awaiting outer =>
            -- Inside a parenthesis the closing one is required, and the expression goes on.
            have supplied := accepts_of_requireSeparator accepts
            have other : Reading.purpose ⟨awaiting, outer, .expression⟩ ≠ .term := by simp
            exact absurd supplied (not_accepts_supply other _)
      · rw [step, stepOperator, if_neg ends] at accepts
        split at accepts
        · split at accepts <;> exact accepts.elim
        · exact accepts.elim
  | opening => exact reads.elim
  | declarations => exact reads.elim
  | groupHead => exact reads.elim
  | group type phase alone => exact reads.elim
  | statement nest => exact reads.elim
  | arrow target nest => exact reads.elim
  | semicolon nest => exact reads.elim
  | trailer => exact reads.elim

/-- Where an expression is accepted, a chain stands before the end of one. -/
theorem exists_chain_of_accepted {answer : Option ValueType}
    (accepted : (Rule.expression.run limit symbols cursor).outcome =
      .answered (.accepted answer)) :
    ∃ (chain : Chain) (ender : Token) (behind : List Token), chain.IsTyped symbols ∧
      cursor.StandsBefore chain.tokens ender behind := by
  obtain ⟨taken, state, table, moved, path, split, -, stop⟩ :=
    exists_path_of_resume limit Rule.expression.start symbols cursor
  have accepts : (step state table moved.next).Accepts := by
    have ended : (resume limit Rule.expression.start symbols cursor).outcome =
      .answered (.accepted answer) := accepted
    generalize resume limit Rule.expression.start symbols cursor = finish at ended stop
    cases stop with
    | leave left =>
        cases ended
        rw [left]
        trivial
    | takeLast taken _ =>
        cases ended
        rw [taken]
        trivial
    | exhausted _ _ => cases ended
    | tooDeep _ _ _ => cases ended
  obtain ⟨type, rfl, ends⟩ :=
    accepts_of_readsExpression (readsExpression_of_path path rfl) accepts
  obtain rfl : table = symbols := (frame_of_path path id).2
  have read := read_of_path path (Read.start table .expression)
  rw [List.nil_append] at read
  generalize meaning : taken.map Token.lexeme = lexemes at read
  cases read with
  | operator aim levels expression =>
      -- Nothing stands before the expression, and no parenthesis is open in it.
      cases aim
      cases levels
      rw [List.nil_append, List.nil_append] at meaning
      rw [← meaning] at expression
      obtain ⟨chain, typed, rfl, -⟩ := exists_chain_of_expression expression
      exact ⟨chain, moved.next, moved.ahead, typed, ends, split⟩

/-- The run on a chain, unless it gets too deep, stops before the end of the expression with the
type of the whole. -/
theorem run_of_chain (limit : Option Nat) (typed : chain.IsTyped symbols)
    (stands : cursor.StandsBefore chain.tokens ender behind) :
    (Rule.expression.run limit symbols cursor).outcome = .tooDeep ∨
      ∃ current, Rule.expression.run limit symbols cursor =
        ⟨.answered (.accepted (some chain.wholeType)),
          ⟨current, chain.tokens.reverse ++ cursor.before, ender, behind⟩, symbols⟩ := by
  have path := (Chain.expression typed).path [] .expression rfl
  have left : step (.operator chain.wholeType [] .expression) symbols ender =
      .leave (.accepted (some chain.wholeType)) := by
    rw [step, stepOperator_of_ender stands.ends]
    rfl
  have along : (resume limit Rule.expression.start symbols cursor).outcome = .tooDeep ∨ _ :=
    resume_of_path path stands.split
  rcases along with deep | ⟨current, followed⟩
  · exact .inl deep
  · exact .inr ⟨current, followed.trans (run_of_leave left)⟩

/-! ## The nesting of a chain -/

/-- A term closes again all that it opens. -/
theorem foldl_behind_term {lexemes : List Lexeme} {type : ValueType}
    (term : Term symbols lexemes type) : lexemes.foldl Nesting.behind {} = {} :=
  (nesting_of_path (term.path { purpose := .expression } rfl)).symm

/-- So does an operator with the term behind it. -/
theorem foldl_behind_joined {joined : Joined} (typed : joined.IsTyped symbols) :
    (joined.tokens.map Token.lexeme).foldl Nesting.behind {} = {} := by
  rw [Joined.tokens, List.map_cons, typed.sign, List.foldl_cons]
  exact foldl_behind_term typed.operand

/-- A chain exceeds a limit iff one of its terms does. -/
theorem exceeds_chain_iff {limit : Nat} (typed : chain.IsTyped symbols) :
    ({} : Nesting).Exceeds limit (chain.tokens.map Token.lexeme) ↔
      ({} : Nesting).Exceeds limit (chain.first.map Token.lexeme) ∨
        ∃ joined ∈ chain.rest, ({} : Nesting).Exceeds limit (joined.tokens.map Token.lexeme) := by
  have flat : (chain.rest.flatMap Joined.tokens).map Token.lexeme =
      (chain.rest.map fun joined => joined.tokens.map Token.lexeme).flatten := by
    rw [List.map_flatMap, List.flatMap_def]
  have closed : ∀ part ∈ chain.rest.map fun joined => joined.tokens.map Token.lexeme,
      part.foldl Nesting.behind {} = {} := by
    intro part member
    obtain ⟨joined, listed, rfl⟩ := List.mem_map.mp member
    exact foldl_behind_joined (typed.rest joined listed)
  rw [Chain.tokens, List.map_append, Nesting.exceeds_append, foldl_behind_term typed.first, flat,
    Nesting.exceeds_flatten closed]
  refine or_congr Iff.rfl ⟨?_, ?_⟩
  · rintro ⟨part, member, exceeds⟩
    obtain ⟨joined, listed, rfl⟩ := List.mem_map.mp member
    exact ⟨joined, listed, exceeds⟩
  · rintro ⟨joined, listed, exceeds⟩
    exact ⟨_, List.mem_map_of_mem listed, exceeds⟩

/-- In another order a chain exceeds the same limits. -/
theorem exceeds_reorder_iff {limit : Nat} (typed : chain.IsTyped symbols) {rest : List Joined}
    (perm : rest.Perm chain.rest) :
    ({} : Nesting).Exceeds limit ((chain.reorder rest).tokens.map Token.lexeme) ↔
      ({} : Nesting).Exceeds limit (chain.tokens.map Token.lexeme) := by
  rw [exceeds_chain_iff typed, exceeds_chain_iff (chain.isTyped_reorder typed perm)]
  simp only [Chain.reorder, perm.mem_iff]

/-- With parentheses around a left part a chain exceeds every limit that it exceeds without. -/
theorem exceeds_parenthesize {limit : Nat} (typed : chain.IsTyped symbols) (count : Nat)
    (exceeds : ({} : Nesting).Exceeds limit (chain.tokens.map Token.lexeme)) :
    ({} : Nesting).Exceeds limit ((chain.parenthesize count).tokens.map Token.lexeme) := by
  have left : ({} : Nesting).Exceeds limit ((chain.left count).tokens.map Token.lexeme) →
      ({} : Nesting).Exceeds limit ((chain.parenthesize count).first.map Token.lexeme) := by
    intro inside
    rw [Chain.parenthesize, List.map_append, List.map_cons, Lexeme.lexeme_token, List.cons_append,
      Nesting.exceeds_cons, Nesting.exceeds_append]
    exact .inr (.inl (inside.deepen (Nat.zero_le _) (Nat.zero_le _)))
  rw [exceeds_chain_iff (chain.isTyped_left typed count)] at left
  rw [exceeds_chain_iff (chain.isTyped_parenthesize typed count)]
  rcases (exceeds_chain_iff typed).mp exceeds with first | ⟨joined, listed, more⟩
  · exact .inl (left (.inl first))
  · -- A term of the left part is inside the parentheses now, another one is where it was.
    rw [← List.take_append_drop count chain.rest, List.mem_append] at listed
    rcases listed with inside | behind
    · exact .inl (left (.inr ⟨joined, inside, more⟩))
    · exact .inr ⟨joined, behind, more⟩

/-! ## The type -/

/-- An expression that is a chain gets too deep within a limit iff the chain exceeds it. -/
theorem tooDeep_iff_of_chain {limit : Nat} (typed : chain.IsTyped symbols)
    (stands : cursor.StandsBefore chain.tokens ender behind) :
    (Rule.expression.run (some limit) symbols cursor).outcome = .tooDeep ↔
      ({} : Nesting).Exceeds limit (chain.tokens.map Token.lexeme) := by
  have free : ∃ current, Rule.expression.run none symbols cursor =
      ⟨.answered (.accepted (some chain.wholeType)),
        ⟨current, chain.tokens.reverse ++ cursor.before, ender, behind⟩, symbols⟩ :=
    (run_of_chain none typed stands).resolve_left (run_none_ne_tooDeep _ _ _ _ _ _)
  obtain ⟨current, same⟩ := free
  rw [outcome_eq_tooDeep_iff, Rule.EntersBeyond, same, takenSince_eq rfl]

/-- The outcome of a chain: its type, unless it exceeds the limit. -/
theorem outcome_of_chain (limit : Option Nat) (typed : chain.IsTyped symbols)
    (stands : cursor.StandsBefore chain.tokens ender behind) :
    (Rule.expression.run limit symbols cursor).outcome =
      if limit.any fun limit =>
          decide (({} : Nesting).Exceeds limit (chain.tokens.map Token.lexeme))
      then .tooDeep else .answered (.accepted (some chain.wholeType)) := by
  have answered : (Rule.expression.run limit symbols cursor).outcome ≠ .tooDeep →
      (Rule.expression.run limit symbols cursor).outcome =
        .answered (.accepted (some chain.wholeType)) := by
    intro shallow
    obtain ⟨current, same⟩ := (run_of_chain limit typed stands).resolve_left shallow
    rw [same]
  cases limit with
  | none => exact answered (run_none_ne_tooDeep _ _ _ _ _ _)
  | some limit =>
      by_cases exceeds : ({} : Nesting).Exceeds limit (chain.tokens.map Token.lexeme)
      · rw [Option.any_some, if_pos (decide_eq_true exceeds)]
        exact (tooDeep_iff_of_chain typed stands).mpr exceeds
      · rw [Option.any_some, if_neg (by simpa using exceeds)]
        exact answered fun deep => exceeds ((tooDeep_iff_of_chain typed stands).mp deep)

/-- **The type of an expression, in closed form.** An expression that does not get too deep is
accepted iff the next tokens are a term, binary operators each with a term behind it, and a token
that ends an expression. The run stops before that token, with the type of the terms joined by the
operators. So neither another order of the operators with their terms nor parentheses around a left
part change the type. The order does not even count for the nesting; parentheses can only make the
expression too deep. -/
theorem expression_accepts_iff_chain (limit : Option Nat) (symbols : SymbolTable)
    (cursor : Cursor) :
    ((∃ answer, (Rule.expression.run limit symbols cursor).outcome =
          .answered (.accepted answer)) ↔
        (Rule.expression.run limit symbols cursor).outcome ≠ .tooDeep ∧
          ∃ (chain : Chain) (ender : Token) (behind : List Token), chain.IsTyped symbols ∧
            cursor.StandsBefore chain.tokens ender behind) ∧
      (Rule.expression.run none symbols cursor).outcome ≠ .tooDeep ∧
      ∀ (chain : Chain) (ender : Token) (behind : List Token), chain.IsTyped symbols →
        cursor.StandsBefore chain.tokens ender behind →
          ((Rule.expression.run limit symbols cursor).outcome ≠ .tooDeep →
            ∃ current, Rule.expression.run limit symbols cursor =
              ⟨.answered (.accepted (some chain.wholeType)),
                ⟨current, chain.tokens.reverse ++ cursor.before, ender, behind⟩, symbols⟩) ∧
          (∀ (rest : List Joined) (other : Cursor) (otherEnder : Token)
            (otherBehind : List Token), rest.Perm chain.rest →
            other.StandsBefore (chain.reorder rest).tokens otherEnder otherBehind →
              (Rule.expression.run limit symbols other).outcome =
                (Rule.expression.run limit symbols cursor).outcome) ∧
          ∀ (count : Nat) (other : Cursor) (otherEnder : Token) (otherBehind : List Token),
            other.StandsBefore (chain.parenthesize count).tokens otherEnder otherBehind →
            (Rule.expression.run limit symbols other).outcome ≠ .tooDeep →
              (Rule.expression.run limit symbols other).outcome =
                (Rule.expression.run limit symbols cursor).outcome := by
  refine ⟨⟨?accepted, ?chain⟩, run_none_ne_tooDeep _ _ _ _ _ _,
    fun chain ender behind typed stands =>
      ⟨(run_of_chain limit typed stands).resolve_left, ?order, ?parentheses⟩⟩
  case accepted =>
    rintro ⟨answer, accepted⟩
    refine ⟨?_, exists_chain_of_accepted accepted⟩
    rw [accepted]
    exact nofun
  case chain =>
    rintro ⟨shallow, chain, ender, behind, typed, stands⟩
    obtain ⟨current, same⟩ := (run_of_chain limit typed stands).resolve_left shallow
    exact ⟨some chain.wholeType, by rw [same]⟩
  case order =>
    intro rest other otherEnder otherBehind perm otherStands
    have otherTyped := chain.isTyped_reorder typed perm
    rw [outcome_of_chain limit otherTyped otherStands, outcome_of_chain limit typed stands,
      Chain.wholeType_reorder perm]
    simp only [exceeds_reorder_iff typed perm]
  case parentheses =>
    intro count other otherEnder otherBehind otherStands shallow
    have otherTyped := chain.isTyped_parenthesize typed count
    rw [outcome_of_chain limit otherTyped otherStands] at shallow ⊢
    rw [outcome_of_chain limit typed stands, chain.wholeType_parenthesize count]
    split at shallow
    · exact absurd rfl shallow
    · next within =>
      -- What exceeds no limit with the parentheses exceeds none without them.
      rw [if_neg within, if_neg]
      intro exceeds
      apply within
      rw [Option.any_eq_true] at exceeds ⊢
      obtain ⟨bound, same, more⟩ := exceeds
      refine ⟨bound, same, decide_eq_true ?_⟩
      exact exceeds_parenthesize typed count (of_decide_eq_true more)

/-- A number joined with a character, a number with a sign, and a negation behind a comparison. -/
def mixedChain : Chain :=
  { first := [⟨.integer, "1"⟩]
    type := .integer
    rest :=
      [⟨⟨.operator, ".plus."⟩, .plus, [⟨.character, "\"a\""⟩], .character⟩,
        ⟨⟨.operator, ".mul."⟩, .mul, [⟨.operator, ".minus."⟩, ⟨.integer, "2"⟩], .integer⟩,
        ⟨⟨.operator, ".lt."⟩, .lt, [⟨.operator, ".not."⟩, ⟨.integer, "3"⟩], .logical⟩] }

/-- Its parts are what they are said to be. -/
theorem isTyped_mixedChain : mixedChain.IsTyped {} := by
  have signed : [(⟨.operator, ".minus."⟩ : Token), ⟨.integer, "2"⟩].map Token.lexeme =
      [.operator .minus, .integer] := by decide +kernel
  have negated : [(⟨.operator, ".not."⟩ : Token), ⟨.integer, "3"⟩].map Token.lexeme =
      [.operator .not, .integer] := by decide +kernel
  refine ⟨.integer, ?_⟩
  rintro joined (_ | ⟨_, _ | ⟨_, _ | ⟨_, ⟨⟩⟩⟩⟩)
  · exact ⟨by decide +kernel, rfl, .character (by decide +kernel)⟩
  · exact ⟨by decide +kernel, rfl, signed ▸ .minus .integer⟩
  · exact ⟨by decide +kernel, rfl, negated ▸ .not .integer⟩

/-- The type at work: the comparison makes the whole logical, wherever it stands, and also with
parentheses around the terms before it, which alone are a character. -/
theorem expression_accepts_iff_chain_mixed :
    (Rule.expression.run (some nestingLimit) {}
        (.ofTokens (mixedChain.tokens ++ [⟨.separator, ";"⟩]))).outcome =
        .answered (.accepted (some .logical)) ∧
      (Rule.expression.run (some nestingLimit) {} (.ofTokens
        ((mixedChain.reorder mixedChain.rest.reverse).tokens ++ [⟨.separator, ";"⟩]))).outcome =
        .answered (.accepted (some .logical)) ∧
      (Rule.expression.run (some nestingLimit) {} (.ofTokens
        ((mixedChain.parenthesize 2).tokens ++ [⟨.separator, ";"⟩]))).outcome =
        .answered (.accepted (some .logical)) ∧
      (mixedChain.left 2).wholeType = .character := by
  have parts := (expression_accepts_iff_chain (some nestingLimit) {}
    (.ofTokens (mixedChain.tokens ++ [⟨.separator, ";"⟩]))).2.2 mixedChain ⟨.separator, ";"⟩
    [Token.endOfInput] isTyped_mixedChain ⟨by decide +kernel, by decide +kernel⟩
  have shallow : ∀ tokens ∈ [mixedChain.tokens, (mixedChain.parenthesize 2).tokens],
      (Rule.expression.run (some nestingLimit) {}
        (.ofTokens (tokens ++ [⟨.separator, ";"⟩]))).outcome ≠ .tooDeep := by
    decide +kernel
  obtain ⟨current, same⟩ := parts.1 (shallow _ List.mem_cons_self)
  have reordered := parts.2.1 mixedChain.rest.reverse
    (.ofTokens ((mixedChain.reorder mixedChain.rest.reverse).tokens ++ [⟨.separator, ";"⟩]))
    ⟨.separator, ";"⟩ [Token.endOfInput] (List.reverse_perm _)
    ⟨by decide +kernel, by decide +kernel⟩
  have parenthesized := parts.2.2 2
    (.ofTokens ((mixedChain.parenthesize 2).tokens ++ [⟨.separator, ";"⟩]))
    ⟨.separator, ";"⟩ [Token.endOfInput] ⟨by decide +kernel, by decide +kernel⟩
    (shallow _ (by simp))
  have logical : mixedChain.wholeType = .logical :=
    mixedChain.wholeType_eq_logical_iff.mpr
      (.inr ⟨mixedChain.rest[2], List.getElem_mem _, .inr rfl⟩)
  rw [reordered, parenthesized, same, logical]
  exact ⟨rfl, rfl, rfl, rfl⟩

end Dopl.Checker
