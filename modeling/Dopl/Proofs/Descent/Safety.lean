import Dopl.Proofs.Checker.History
import Dopl.Proofs.Descent.Rule
import Dopl.Proofs.Report

/-! # No procedure fails for want of something

Tables, lists and values are read only where a token compared before says that the entry is there,
and the last token of a stream is never taken. So a procedure ends in one of three ways, and nothing
else can become of it:

* **`Move.Ordinary`** — no token is refused for want of another one; **`ordinary_step`** — by no
  state.
* **`descendSource_eq`** — a source is checked by the procedures as by a run.
* **`descend_ends_ordinarily`** — every rule, at every place that a session comes to. -/

namespace Dopl.Checker

open Descent

variable {room : Option Nat} {rule : Rule} {symbols : SymbolTable} {cursor : Cursor} {token : Token}
  {move : Move}

/-! ## Why tokens are refused -/

/-- The move does not refuse a token for want of another one. -/
def Move.Ordinary (move : Move) : Prop :=
  move ≠ .refuse .endOfInput ∧ move ≠ .refuseTaken .endOfInput

/-- A token that is taken is not refused. -/
@[simp] theorem ordinary_take (state : State) (symbols : SymbolTable) :
    (Move.take state symbols).Ordinary :=
  ⟨nofun, nofun⟩

/-- The last token of a rule is not refused either. -/
@[simp] theorem ordinary_takeLast_accepted (type : Option ValueType) :
    (Move.takeLast (.accepted type)).Ordinary :=
  ⟨nofun, nofun⟩

/-- Nor is the token behind it. -/
@[simp] theorem ordinary_leave_accepted (type : Option ValueType) :
    (Move.leave (.accepted type)).Ordinary :=
  ⟨nofun, nofun⟩

/-- A token is refused for want of another one, or for another fault. -/
@[simp] theorem ordinary_refuse {fault : CheckFault} :
    (Move.refuse fault).Ordinary ↔ fault ≠ .endOfInput := by
  simp [Move.Ordinary, Move.refuse, Move.refuseTaken]

/-- So it is if it is taken. -/
@[simp] theorem ordinary_refuseTaken {fault : CheckFault} :
    (Move.refuseTaken fault).Ordinary ↔ fault ≠ .endOfInput := by
  simp [Move.Ordinary, Move.refuse, Move.refuseTaken]

/-- A keyword that is required is refused because it is another one. -/
theorem ordinary_requireKeyword {keyword : Keyword} (ordinary : move.Ordinary) :
    (requireKeyword keyword token move).Ordinary := by
  unfold requireKeyword
  split
  · exact ordinary
  · simp

/-- So is a separator. -/
theorem ordinary_requireSeparator {separator : Separator} (ordinary : move.Ordinary) :
    (requireSeparator separator token move).Ordinary := by
  unfold requireSeparator
  split
  · exact ordinary
  · simp

/-- The end of a statement is the semicolon. -/
theorem ordinary_endStatement (nest : Nest) (symbols : SymbolTable) :
    (endStatement nest symbols token).Ordinary := by
  refine ordinary_requireSeparator ?_
  split <;> simp

/-- The end of a list of statements is a keyword. -/
theorem ordinary_endList (nest : Nest) (symbols : SymbolTable) :
    (endList nest symbols token).Ordinary := by
  unfold endList
  split
  · split
    · exact ordinary_requireKeyword (by simp)
    · simp
    · simp
  · dsimp only
    split
    · split
      · simp
      · exact ordinary_requireKeyword (by simp)
    · exact ordinary_requireKeyword (by simp)
    · exact ordinary_requireKeyword (by simp)

/-- A statement starts with a name or a keyword. -/
theorem ordinary_stepStatement (nest : Nest) (symbols : SymbolTable) :
    (stepStatement nest symbols token).Ordinary := by
  unfold stepStatement
  split
  · split <;> simp
  · split
    · exact ordinary_endList nest symbols
    · split <;> simp
  · simp

/-- A group is made of names, commas and a semicolon. -/
theorem ordinary_stepGroup (type : ValueType) (phase : GroupPhase) (alone : Bool)
    (symbols : SymbolTable) : (stepGroup type phase alone symbols token).Ordinary := by
  unfold stepGroup
  split
  · split
    · simp
    · simp
    · split <;> simp
  · split <;> simp
  · split
    · simp
    · split
      · simp
      · split <;> simp
  · simp

/-- An operand that is supplied is not refused. -/
theorem ordinary_supply (reading : Reading) (type : ValueType) (symbols : SymbolTable) :
    (supply reading type symbols).Ordinary := by
  unfold supply
  dsimp only
  split <;> simp

/-- An operand is a constant, a name or a parenthesis. -/
theorem ordinary_stepOperand (reading : Reading) (symbols : SymbolTable) :
    (stepOperand reading symbols token).Ordinary := by
  unfold stepOperand
  split
  · exact ordinary_supply reading _ symbols
  · split
    · exact ordinary_supply reading _ symbols
    · simp
  · split
    · exact ordinary_supply reading _ symbols
    · simp
  · simp
  · simp

/-- A term is an operand with operators before it. -/
theorem ordinary_stepTerm (reading : Reading) (symbols : SymbolTable) :
    (stepTerm reading symbols token).Ordinary := by
  unfold stepTerm
  split
  · simp
  · simp
  · exact ordinary_stepOperand reading symbols

/-- An expression ends for what it is wanted for, or because of its type. -/
theorem ordinary_endExpression (type : ValueType) (enclosing : List Awaiting) (purpose : Purpose)
    (symbols : SymbolTable) : (endExpression type enclosing purpose symbols token).Ordinary := by
  unfold endExpression
  split
  · exact ordinary_requireSeparator (ordinary_supply _ type symbols)
  · split
    · simp
    · simp
    · split <;> simp
    · split
      · exact ordinary_endStatement _ symbols
      · simp
    · exact ordinary_endStatement _ symbols
    · split
      · exact ordinary_requireKeyword (by simp)
      · simp
    · split
      · exact ordinary_requireKeyword (by simp)
      · simp

/-- Behind a term stands an operator, or the end of the expression. -/
theorem ordinary_stepOperator (type : ValueType) (enclosing : List Awaiting) (purpose : Purpose)
    (symbols : SymbolTable) : (stepOperator type enclosing purpose symbols token).Ordinary := by
  unfold stepOperator
  split
  · exact ordinary_endExpression type enclosing purpose symbols
  · split
    · split <;> simp
    · simp

/-- No state refuses a token for want of another one. -/
theorem ordinary_step (state : State) (symbols : SymbolTable) (token : Token) :
    (step state symbols token).Ordinary := by
  cases state with
  | opening => exact ordinary_requireKeyword (by simp)
  | declarations =>
      simp only [step]
      split
      · simp
      · exact ordinary_stepStatement _ symbols
  | groupHead =>
      simp only [step]
      split <;> simp
  | group type phase alone => exact ordinary_stepGroup type phase alone symbols
  | statement nest => exact ordinary_stepStatement nest symbols
  | arrow target nest =>
      simp only [step]
      split <;> simp
  | term reading => exact ordinary_stepTerm reading symbols
  | operand reading => exact ordinary_stepOperand reading symbols
  | operator type enclosing purpose => exact ordinary_stepOperator type enclosing purpose symbols
  | semicolon nest => exact ordinary_endStatement nest symbols
  | trailer =>
      simp only [step]
      split <;> simp

/-- On tokens that end in an end mark, no rule is refused for want of a token. -/
theorem outcome_ne_endOfInput (limit : Option Nat) (rule : Rule) (symbols : SymbolTable)
    (marked : EndMarked cursor.tokens) :
    (rule.run limit symbols cursor).outcome ≠ .answered (.refused .endOfInput) := by
  obtain ⟨taken, state, declared, moved, -, ahead, before, stop⟩ :=
    exists_path_of_resume limit rule.start symbols cursor
  have stays : moved.tokens = cursor.tokens := by
    rw [Cursor.tokens, Cursor.tokens, before, ahead, List.reverse_append, List.reverse_reverse,
      List.append_assoc]
  change Stop limit state declared moved (rule.run limit symbols cursor) at stop
  generalize rule.run limit symbols cursor = finish at stop
  have ordinary := ordinary_step state declared moved.next
  intro refused
  cases stop with
  | leave left =>
      cases refused
      exact ordinary.1 left
  | takeLast last _ =>
      cases refused
      exact ordinary.2 last
  | exhausted goesOn last =>
      obtain ⟨answer, left⟩ := exists_leave_of_ahead (stays ▸ marked) last state declared
      exact goesOn answer left
  | tooDeep _ _ _ => cases refused

/-! ## Sources -/

/-- A check begins at the first of its tokens. -/
theorem result_descendTokens (room : Option Nat) (tokens : List Token) :
    (descendTokens room tokens).result {} =
      (Rule.program.descend room).result ((Cursor.ofTokens tokens).store {}) := by
  have begins : descendTokens room tokens =
      (modify fun store => { store with tape := some ⟨Token.withEnd tokens, 0⟩ }) >>= fun _ =>
        takeToken >>= fun first => (modify fun store => { store with next := some first }) >>=
          fun _ => Rule.program.descend room := rfl
  have marked := Token.withEnd_ne_nil tokens
  rw [begins, Action.result_bind, Action.result_modify]
  dsimp only
  unfold Cursor.ofTokens
  cases split : Token.withEnd tokens with
  | nil => exact absurd split marked
  | cons first rest =>
      have found : (first :: rest)[0]? = some first := rfl
      rw [Action.result_bind, result_takeToken rfl found]
      rfl

/-- A source is checked by the procedures as by a run, and always has a verdict. -/
theorem descendSource_eq (room : Option Nat) (source : Source) :
    descendSource room source = some (.ok (checkWithin room source).verdict) := by
  rcases errors_cases source with clean | ⟨-, error, noted⟩
  · have same := descend_eq_run room .program {} _ (endMarked_ofTokens (scan source).tokens.toList)
    rw [← result_descendTokens] at same
    simp only [descendSource, clean, List.getElem?_toArray, List.getElem?_nil, same,
      checkWithin_of_errors_eq_empty room clean]
    -- Both verdicts are read off the way the run ends.
    generalize Rule.program.run room {} (.ofTokens (scan source).tokens.toList) = finish
    obtain ⟨outcome, place, table⟩ := finish
    rcases outcome with (type | fault) | _ <;> rfl
  · simp only [descendSource, noted, checkWithin_of_error room noted]
    rfl

/-! ## Every rule -/

/-- **No rule fails for want of something.** The cursors of a session stand in tokens with an end
mark, whatever its commands were. At every such place, with every table of symbols, the procedure of
each rule comes to its end: it succeeds, its calls are nested too deeply, or it refuses the tokens
for a fault of their own, at the position it leaves. It never misses an entry of a table, an item of
a list or a value, and it never lacks a token. So every source has a verdict. -/
theorem descend_ends_ordinarily (room : Option Nat) :
    (∀ (limit : Option Nat) (commands : List CheckCommand) (cursor : Cursor),
      (History.ofCommands limit commands).session.cursor = some cursor →
        ∃ tokens, cursor.tokens = Token.withEnd tokens) ∧
      (∀ (tokens : List Token) (symbols : SymbolTable) (cursor : Cursor) (rule : Rule),
        cursor.tokens = Token.withEnd tokens →
          ∃ (ended : Except Failure (Option ValueType)) (moved : Cursor) (declared : SymbolTable),
            (rule.descend room).result (cursor.store symbols) =
                some (ended, moved.store declared) ∧
              1 ≤ moved.position ∧ moved.position ≤ (Token.withEnd tokens).length ∧
              ((∃ type, ended = .ok type) ∨ ended = .error .tooDeep ∨
                ∃ fault, fault ≠ .endOfInput ∧
                  ended = .error (.refused fault moved.position))) ∧
      ∀ source, descendSource room source = some (.ok (checkWithin room source).verdict) := by
  refine ⟨fun limit commands cursor held => exists_tokens_eq_withEnd limit commands held, ?_,
    descendSource_eq room⟩
  · intro tokens symbols cursor rule begun
    have marked : EndMarked cursor.tokens := begun ▸ endMarked_withEnd tokens
    have stays : (rule.run room symbols cursor).cursor.tokens = Token.withEnd tokens :=
      (tokens_of_run room rule.start symbols cursor).trans begun
    have inside := (rule.run room symbols cursor).cursor.position_le_length
    have other := outcome_ne_endOfInput room rule symbols marked
    rw [stays] at inside
    refine ⟨_, _, _, descend_eq_run room rule symbols cursor marked, Nat.succ_pos _, inside, ?_⟩
    cases ended : (rule.run room symbols cursor).outcome with
    | tooDeep =>
        right; left
        simp only [Finish.ending, ended]
    | answered answer =>
        cases answer with
        | accepted type =>
            left
            exact ⟨type, by simp only [Finish.ending, ended]⟩
        | refused fault =>
            right; right
            refine ⟨fault, fun lacks => ?_, by simp only [Finish.ending, ended]⟩
            rw [lacks] at ended
            exact other ended

/-- Tokens that no scan gives: a number that is none, and an end mark before an operator. -/
def strangeTokens : List Token :=
  [⟨.integer, "x"⟩, ⟨.endOfInput, "?"⟩, ⟨.operator, "?"⟩]

/-- The end mark in the middle is refused as any other token that does not go on with an
expression. -/
theorem descend_ends_ordinarily_strange :
    ∃ (moved : Cursor) (declared : SymbolTable),
      (Rule.expression.descend (some nestingLimit)).result
          ((Cursor.ofTokens strangeTokens).store {}) =
        some (.error (.refused (.operatorRequired ⟨.endOfInput, "?"⟩) moved.position),
          moved.store declared) ∧
        1 ≤ moved.position ∧ moved.position ≤ (Token.withEnd strangeTokens).length := by
  obtain ⟨ended, moved, declared, same, positive, inside, -⟩ :=
    (descend_ends_ordinarily (some nestingLimit)).2.1 strangeTokens {} (.ofTokens strangeTokens)
      .expression (Cursor.tokens_ofTokens strangeTokens)
  have ends := descend_eq_run (some nestingLimit) .expression {} _
    (endMarked_ofTokens strangeTokens)
  have refused : Rule.expression.run (some nestingLimit) {} (.ofTokens strangeTokens) =
      ⟨.answered (.refused (.operatorRequired ⟨.endOfInput, "?"⟩)),
        ⟨some ⟨.integer, "x"⟩, [⟨.integer, "x"⟩], ⟨.endOfInput, "?"⟩,
          [⟨.operator, "?"⟩, Token.endOfInput]⟩, {}⟩ := by decide +kernel
  rw [refused] at ends
  obtain ⟨fails, left⟩ := Prod.mk.inj (Option.some.inj (same.symm.trans ends))
  have position : moved.position = 2 := congrArg (fun store => store.tape.elim 0 Tape.position) left
  refine ⟨moved, declared, ?_, positive, inside⟩
  rw [same, fails, position]
  rfl

end Dopl.Checker
