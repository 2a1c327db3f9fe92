import Dopl.Proofs.Checker.Transition
import Dopl.Proofs.Descent.Following

/-! # Expressions by procedures

The procedures for terms, expressions and conditions follow the run that reads them. Inside an
expression stand terms, and inside a parenthesis of a term an expression again, but further on:

* **`follows_signs`** — the operators before an operand.
* **`follows_primary`**, **`follows_term`** — a term, if the expressions behind its first token are
  read as the run reads them.
* **`expressionFollows`** — so all expressions are; **`follows_condition`** — and conditions. -/

namespace Dopl.Checker

open Descent

variable {limit room : Option Nat} {finish : Finish} {state : State} {symbols : SymbolTable}
  {cursor moved : Cursor} {reading : Reading}

/-! ## Operators before an operand -/

/-- Where no operator stands before an operand, the operand is met. -/
theorem stepTerm_eq_stepOperand {token : Token}
    (other : ∀ operator, token.lexeme = .operator operator → operator.isUnary = false) :
    stepTerm reading symbols token = stepOperand reading symbols token := by
  unfold stepTerm
  split
  · next meaning => cases other _ meaning
  · next meaning => cases other _ meaning
  · rfl

/-- The reading behind operators before its operand, by whether one of them negates. -/
def Reading.signed (reading : Reading) (negated : Bool) : Reading :=
  if negated then reading.negate else reading

/-- A turn of the loop over the operators before an operand takes one of them, or there is none
more. -/
theorem follows_signTurn (marked : EndMarked finish.cursor.tokens)
    (fits : RoomAt limit room (State.term reading).depth) (negated : Bool)
    (aligned : resume limit (.term (reading.signed negated)) symbols cursor = finish) :
    (signTurn negated).Follows finish symbols cursor fun next declared moved =>
      match next with
      | none => declared = symbols ∧ moved = cursor ∧
          resume limit (.operand (reading.signed negated)) symbols cursor = finish
      | some next => (declared = symbols ∧
          resume limit (.term (reading.signed next)) symbols moved = finish) ∧
          cursor.position < moved.position := by
  refine leaves_acceptOperator marked (fun _ => rfl)
    (fun operator meaning unary moved advanced => ?_) fun other => ?_
  · refine leaves_currentOperator advanced meaning ?_
    have further := Cursor.position_of_advance? advanced
    have stepped : step (.term (reading.signed negated)) symbols cursor.next =
        .take (.term (reading.signed (if operator = .not then true else negated))) symbols := by
      -- Only two operators may stand before an operand, and a second negation changes nothing.
      cases operator with
      | minus => simp only [step, stepTerm, meaning, reduceCtorEq, if_false]
      | not =>
          simp only [step, stepTerm, meaning, if_true]
          cases negated <;> rfl
      | _ => cases unary
    have same (sign : Bool) :
        (State.term (reading.signed sign)).depth = (State.term reading).depth := by
      cases sign <;> rfl
    have held := fits.resume_of_step aligned stepped advanced (Nat.le_of_eq (same _))
    exact .pure ⟨⟨rfl, held⟩, by omega⟩
  · refine .pure ⟨rfl, rfl, ?_⟩
    have stepped : step (.term (reading.signed negated)) symbols cursor.next =
        step (.operand (reading.signed negated)) symbols cursor.next :=
      stepTerm_eq_stepOperand other
    rw [← aligned, resume_congr stepped]

/-- The operators before an operand are read as the run reads them. -/
theorem follows_signs (marked : EndMarked finish.cursor.tokens)
    (fits : RoomAt limit room (State.term reading).depth)
    (aligned : resume limit (.term reading) symbols cursor = finish) :
    (Turn.loop signTurn false).Follows finish symbols cursor fun negated declared moved =>
      declared = symbols ∧ cursor.position ≤ moved.position ∧
        resume limit (.operand (reading.signed negated)) symbols moved = finish := by
  refine leaves_loop (repeats_loop _)
    (fun negated declared moved => declared = symbols ∧ cursor.position ≤ moved.position ∧
      resume limit (.term (reading.signed negated)) symbols moved = finish)
    ?_ false ⟨rfl, Nat.le_refl _, aligned⟩
  rintro negated declared start ⟨rfl, after, held⟩
  refine (follows_signTurn marked fits negated held).mono fun next declared moved reached => ?_
  cases next with
  | none =>
      obtain ⟨rfl, rfl, ended⟩ := reached
      exact ⟨rfl, after, ended⟩
  | some next =>
      obtain ⟨⟨rfl, again⟩, further⟩ := reached
      exact ⟨⟨rfl, by omega, again⟩, further⟩

/-! ## Terms -/

/-- The token that completes an operand is taken. -/
theorem takes_supply (reading : Reading) (type : ValueType) :
    (supply reading type symbols).takes = true := by
  unfold supply
  dsimp only
  split <;> rfl

/-- An expression is read up to a token that ends it. -/
structure Expressed (limit : Option Nat) (finish : Finish) (enclosing : List Awaiting)
    (purpose : Purpose) (symbols : SymbolTable) (cursor : Cursor) (type : ValueType)
    (declared : SymbolTable) (moved : Cursor) : Prop where
  /-- Nothing is declared. -/
  declares : declared = symbols
  /-- It is further on. -/
  further : cursor.position < moved.position
  /-- The next token ends the expression. -/
  ends : moved.next.endsExpression = true
  /-- The run is behind a term of it. -/
  aligned : resume limit (.operator type enclosing purpose) symbols moved = finish

/-- Expressions further on than a position are read as the run reads them. -/
def ExpressionFollows (limit : Option Nat) (finish : Finish) (position : Nat) : Prop :=
  ∀ {room : Option Nat} {enclosing : List Awaiting} {purpose : Purpose} {symbols : SymbolTable}
    {cursor : Cursor}, position < cursor.position →
    RoomAt limit room (State.term ⟨{}, enclosing, purpose⟩).depth →
    Reading.GoesOn ⟨{}, enclosing, purpose⟩ →
    resume limit (.term ⟨{}, enclosing, purpose⟩) symbols cursor = finish →
      (expression room).Follows finish symbols cursor
        (Expressed limit finish enclosing purpose symbols cursor)

/-- A term without operators before it is read as the run reads it, if the expressions inside
are. -/
theorem follows_primary (marked : EndMarked finish.cursor.tokens)
    (inside : ExpressionFollows limit finish cursor.position)
    (fits : RoomAt limit room (State.operand reading).depth)
    (aligned : resume limit (.operand reading) symbols cursor = finish) :
    (primary room).Follows finish symbols cursor
      fun type => Passed limit finish symbols cursor (supply reading type symbols) := by
  rw [primary]
  refine leaves_acceptKind marked (by decide) (fun kind moved advanced => ?_) fun notInteger => ?_
  · have stepped : step (.operand reading) symbols cursor.next =
        supply reading .integer symbols := by
      simp only [step, stepOperand, Token.lexeme, kind]
    exact .pure (passed_of_step aligned stepped (takes_supply reading _) advanced)
  refine leaves_acceptKind marked (by decide) (fun kind moved advanced => ?_) fun notCharacter => ?_
  · refine leaves_current advanced ?_
    by_cases constant : isCharacterConstant cursor.next.text = true
    · rw [if_pos constant]
      have stepped : step (.operand reading) symbols cursor.next =
          supply reading .character symbols := by
        simp only [step, stepOperand, Token.lexeme, kind, constant, if_true]
      exact .pure (passed_of_step aligned stepped (takes_supply reading _) advanced)
    · rw [if_neg constant]
      have stepped : step (.operand reading) symbols cursor.next =
          .refuseTaken (.badCharacter cursor.next.text) := by
        simp only [step, stepOperand, Token.lexeme, kind, if_neg constant]
      exact leaves_refuse (failsAs_of_refuseTaken aligned stepped advanced)
  refine leaves_acceptKind marked (by decide) (fun kind moved advanced => ?_) fun notName => ?_
  · refine leaves_current advanced (leaves_lookup (fun symbol found => ?_) fun absent => ?_)
    · have stepped : step (.operand reading) symbols cursor.next =
          supply reading symbol.type symbols := by
        simp only [step, stepOperand, Token.lexeme, kind, found]
      exact .pure (passed_of_step aligned stepped (takes_supply reading _) advanced)
    · have stepped : step (.operand reading) symbols cursor.next =
          .refuseTaken (.undeclared cursor.next.text) := by
        simp only [step, stepOperand, Token.lexeme, kind, absent]
      exact failsAs_of_refuseTaken aligned stepped advanced
  refine leaves_acceptSeparator marked (fun meaning moved advanced => ?_) fun notOpening => ?_
  · have further := Cursor.position_of_advance? advanced
    have stepped : step (.operand reading) symbols cursor.next =
        .take (.term reading.deepen) symbols := by
      simp only [step, stepOperand, meaning]
      rfl
    have behind := behind_of_step aligned stepped rfl advanced
    -- The call for the expression inside costs what one more open parenthesis counts.
    have deeper : (State.term reading.deepen).depth = (State.operand reading).depth + 3 := by
      simp only [State.depth, State.openParentheses, State.openBodies, Reading.deepen,
        List.length_cons]
      omega
    refine follows_spend fits deeper behind fun inner innerFits inside' => ?_
    rw [← deeper] at innerFits
    refine (inside (by omega) innerFits rfl inside').bind fun type declared last read => ?_
    obtain ⟨rfl, after, ends, held⟩ := read
    have closes : step (.operator type (reading.innermost :: reading.enclosing) reading.purpose)
        declared last.next =
          requireSeparator .closing last.next (supply reading type declared) := by
      rw [step, stepOperator_of_ender ends]
      rfl
    have closed := follows_expectSeparator marked held closes (takes_supply reading type)
    exact closed.bind fun _ _ _ passed => .pure (passed.since (by omega))
  · refine follows_refuse_next aligned ?_
    rw [step]
    unfold stepOperand
    split
    · next meaning => exact absurd (kind_of_lexeme (by rw [meaning]; rfl)) notInteger
    · next meaning => exact absurd (kind_of_lexeme (by rw [meaning]; rfl)) notCharacter
    · next meaning => exact absurd (kind_of_lexeme (by rw [meaning]; rfl)) notName
    · next meaning => exact absurd meaning notOpening
    · rfl

/-- The operand behind operators is supplied as a logical one if one of them negates. -/
theorem supply_signed (negated : Bool) (type : ValueType) :
    supply (reading.signed negated) type symbols =
      supply reading (if negated then .logical else type) symbols := by
  cases negated with
  | false => rfl
  | true =>
      have absorbed := absorb_negated reading.innermost type
      simp only [Reading.signed, Reading.negate, supply, if_true, absorbed]

/-- A term is read as the run reads it, if the expressions inside are. -/
theorem follows_term (marked : EndMarked finish.cursor.tokens)
    (inside : ExpressionFollows limit finish cursor.position)
    (fits : RoomAt limit room (State.term reading).depth)
    (aligned : resume limit (.term reading) symbols cursor = finish) :
    (term room).Follows finish symbols cursor
      fun type => Passed limit finish symbols cursor (supply reading type symbols) := by
  rw [term]
  refine (follows_signs marked fits aligned).bind fun negated declared start read => ?_
  obtain ⟨rfl, after, held⟩ := read
  -- The operators before the operand do not count for the nesting.
  have fits' : RoomAt limit room (State.operand (reading.signed negated)).depth := by
    cases negated <;> exact fits
  have primaries := follows_primary marked (fun further => inside (by omega)) fits' held
  refine primaries.bind fun type declared last supplied => ?_
  obtain ⟨rfl, further, behind⟩ := supplied
  rw [supply_signed] at behind
  exact .pure ⟨rfl, by omega, behind⟩

/-! ## Expressions -/

/-- A turn of the loop of an expression reads an operator and a term, or the expression ends. -/
theorem follows_expressionTurn {type : ValueType} {enclosing : List Awaiting} {purpose : Purpose}
    (marked : EndMarked finish.cursor.tokens)
    (inside : ExpressionFollows limit finish cursor.position)
    (fits : RoomAt limit room (State.operator type enclosing purpose).depth)
    (goesOn : Reading.GoesOn ⟨{}, enclosing, purpose⟩)
    (aligned : resume limit (.operator type enclosing purpose) symbols cursor = finish) :
    (expressionTurn room type).Follows finish symbols cursor fun next declared moved =>
      match next with
      | none => declared = symbols ∧ moved = cursor ∧ cursor.next.endsExpression = true
      | some next => (declared = symbols ∧
          resume limit (.operator next enclosing purpose) symbols moved = finish) ∧
          cursor.position < moved.position := by
  rw [expressionTurn]
  refine leaves_probeExpressionEnd (fun ends => .pure ⟨rfl, rfl, ends⟩) fun other => ?_
  refine leaves_acceptOperator marked binaryText_eq
    (fun operator meaning binary moved advanced => ?_) fun notBinary => ?_
  · have further := Cursor.position_of_advance? advanced
    refine leaves_currentOperator advanced meaning ?_
    dsimp only
    generalize leftType : (if operator.yieldsLogical = true then ValueType.logical else type) = left
    have stepped : step (.operator type enclosing purpose) symbols cursor.next =
        .take (.term ⟨{ left := some left }, enclosing, purpose⟩) symbols := by
      simp only [step, stepOperator, other, meaning, binary, leftType, Bool.false_eq_true, if_false,
        if_true]
    have held := fits.resume_of_step aligned stepped advanced (Nat.le_refl _)
    have terms := follows_term marked (fun further => inside (by omega)) fits held
    refine terms.bind fun right declared last supplied => ?_
    obtain ⟨rfl, after, supplies⟩ := supplied
    have joined : Reading.GoesOn ⟨{ left := some left }, enclosing, purpose⟩ := goesOn
    rw [supply_of_goesOn joined] at supplies
    exact .pure ⟨⟨rfl, fits.resume_of_behind supplies (Nat.le_refl _)⟩, by omega⟩
  · refine follows_refuse_next aligned ?_
    rw [step, stepOperator, if_neg (by simp [other])]
    split
    · next operator meaning => rw [notBinary operator meaning, if_neg Bool.false_ne_true]
    · rfl

/-- The loop of an expression repeats its turn. -/
theorem repeats_expressionLoop (room : Option Nat) :
    Repeats (expressionTurn room) (expressionLoop room) := by
  intro type
  rw [expressionLoop]
  congr 1
  funext next
  cases next <;> rfl

/-- Expressions are read as the run reads them. The induction is from the last position on,
since a term takes a token before it comes to an expression again. -/
theorem expressionFollows (marked : EndMarked finish.cursor.tokens) (position : Nat) :
    ExpressionFollows limit finish position := by
  induction position using later_induction finish.cursor.tokens.length with
  | last position end_ =>
      intro room enclosing purpose symbols cursor further _ _ _ same
      have inside := cursor.position_le_length
      rw [same] at inside
      omega
  | earlier position induction =>
      intro room enclosing purpose symbols cursor further fits goesOn aligned
      have inside : ExpressionFollows limit finish cursor.position :=
        induction cursor.position further
      rw [expression]
      refine (follows_term marked inside fits aligned).bind fun type declared start supplied => ?_
      obtain ⟨rfl, after, supplies⟩ := supplied
      rw [supply_of_goesOn goesOn] at supplies
      have started := fits.resume_of_behind supplies (Nat.le_refl _)
      -- The loop keeps the run at the operator behind what is read.
      refine leaves_loop (repeats_expressionLoop room) (fun type symbols place =>
        symbols = declared ∧ cursor.position < place.position ∧
          resume limit (.operator type enclosing purpose) symbols place = finish)
        ?_ type ⟨rfl, after, started⟩
      rintro type symbols place ⟨rfl, beyond, held⟩
      have turns :=
        follows_expressionTurn marked (fun further => inside (by omega)) fits goesOn held
      refine turns.mono fun next declared moved reached => ?_
      cases next with
      | none =>
          obtain ⟨rfl, rfl, ends⟩ := reached
          exact ⟨rfl, beyond, ends, held⟩
      | some next =>
          obtain ⟨⟨rfl, again⟩, onward⟩ := reached
          exact ⟨⟨rfl, by omega, again⟩, onward⟩

/-- An expression is read as the run reads it. -/
theorem follows_expression {enclosing : List Awaiting} {purpose : Purpose}
    (marked : EndMarked finish.cursor.tokens)
    (fits : RoomAt limit room (State.term ⟨{}, enclosing, purpose⟩).depth)
    (goesOn : Reading.GoesOn ⟨{}, enclosing, purpose⟩)
    (aligned : resume limit (.term ⟨{}, enclosing, purpose⟩) symbols cursor = finish) :
    (expression room).Follows finish symbols cursor
      (Expressed limit finish enclosing purpose symbols cursor) :=
  expressionFollows marked 0 (Nat.succ_pos _) fits goesOn aligned

/-! ## Conditions -/

/-- The value has to be logical. -/
def Purpose.WantsLogical : Purpose → Prop
  | .condition | .branch _ | .loop _ => True
  | .term | .expression | .assignment _ _ | .output _ => False

/-- The checker waits for more behind an operand of such an expression. -/
theorem Purpose.WantsLogical.goesOn {purpose : Purpose} (wants : purpose.WantsLogical) :
    Reading.GoesOn { purpose } := by
  cases purpose <;> first | rfl | cases wants

/-- An expression of another type is refused at its end. -/
theorem Purpose.WantsLogical.endExpression {purpose : Purpose} (wants : purpose.WantsLogical)
    {type : ValueType} {token : Token} (other : type ≠ .logical) :
    endExpression type [] purpose symbols token = .refuse (.notLogical type) := by
  cases purpose <;> first | exact if_neg other | cases wants

/-- A condition is read as the run reads it, and is logical. -/
theorem follows_condition {purpose : Purpose} (marked : EndMarked finish.cursor.tokens)
    (fits : RoomAt limit room (State.term { purpose }).depth)
    (wants : purpose.WantsLogical)
    (aligned : resume limit (.term { purpose }) symbols cursor = finish) :
    (condition room).Follows finish symbols cursor
      fun _ => Expressed limit finish [] purpose symbols cursor .logical := by
  refine (follows_expression marked fits wants.goesOn aligned).bind
    fun type declared moved expressed => ?_
  obtain ⟨rfl, further, ends, held⟩ := expressed
  by_cases logical : type = .logical
  · subst logical
    exact .pure ⟨rfl, further, ends, held⟩
  · rw [if_pos logical]
    refine follows_refuse held ?_
    rw [step, stepOperator_of_ender ends, wants.endExpression logical]

end Dopl.Checker
