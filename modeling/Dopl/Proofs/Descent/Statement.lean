import Dopl.Proofs.Descent.Expression

/-! # Statements by procedures

The procedures for statements follow the run that reads them. Inside a statement stand bodies, which
are lists of statements again, but further on:

* **`follows_assignment`**, **`follows_output`**, **`follows_branch`**, **`follows_repetition`** —
  the statements behind their first token, if the bodies inside are read as the run reads them.
* **`follows_statement`**, **`follows_statementsTurn`** — any statement, and a turn of the loop over
  statements.
* **`statementsFollow`** — so all lists of statements are. -/

namespace Dopl.Checker

open Descent

variable {limit room : Option Nat} {finish : Finish} {state : State} {symbols : SymbolTable}
  {cursor moved : Cursor} {nest : Nest}

/-- What becomes of a run behind a statement. -/
def afterStatement (nest : Nest) (symbols : SymbolTable) : Move :=
  if nest.isList then .take (.statement nest) symbols else .takeLast (.accepted none)

/-- The token that completes a statement is taken. -/
theorem takes_afterStatement (nest : Nest) : (afterStatement nest symbols).takes = true := by
  unfold afterStatement
  split <;> rfl

/-- Statements are read up to a keyword that ends their list. -/
structure Listed (limit : Option Nat) (finish : Finish) (nest : Nest) (symbols : SymbolTable)
    (cursor : Cursor) (declared : SymbolTable) (moved : Cursor) : Prop where
  /-- Nothing is declared. -/
  declares : declared = symbols
  /-- It is no further back. -/
  after : cursor.position ≤ moved.position
  /-- The next token is a keyword that ends the list. -/
  ends : ∃ keyword, moved.next.lexeme = .keyword keyword ∧ keyword.endsStatements = true
  /-- The run is before a statement of it. -/
  aligned : resume limit (.statement nest) symbols moved = finish

/-- Statements further on than a position are read as the run reads them. -/
def StatementsFollow (limit : Option Nat) (finish : Finish) (position : Nat) : Prop :=
  ∀ {room : Option Nat} {nest : Nest} {symbols : SymbolTable} {cursor : Cursor},
    position < cursor.position → RoomAt limit room (State.statement nest).depth →
    nest.isList = true → resume limit (.statement nest) symbols cursor = finish →
      (statements room).Follows finish symbols cursor
        fun _ => Listed limit finish nest symbols cursor

/-! ## Statements without a body -/

/-- The semicolon of a statement is required where the run requires it. -/
theorem follows_semicolon {start : Cursor} (marked : EndMarked finish.cursor.tokens)
    (aligned : resume limit state symbols cursor = finish)
    (stepped : step state symbols cursor.next = endStatement nest symbols cursor.next)
    (after : start.position ≤ cursor.position) :
    (expectSeparator .semicolon).Follows finish symbols cursor
      fun _ => Passed limit finish symbols start (afterStatement nest symbols) :=
  (follows_expectSeparator marked aligned stepped (takes_afterStatement nest)).mono
    fun _ _ _ passed => passed.since after

/-- The arrow of an assignment is required where the run requires it. -/
theorem follows_arrow {target : Symbol} (marked : EndMarked finish.cursor.tokens)
    (aligned : resume limit (.arrow target nest) symbols cursor = finish) :
    (expectKind .assignment anyText).Follows finish symbols cursor
      fun _ => Passed limit finish symbols cursor
        (.take (.term { purpose := .assignment target nest }) symbols) := by
  refine leaves_acceptKind marked (by decide) (fun kind moved advanced => ?_) fun other => ?_
  · have stepped : step (.arrow target nest) symbols cursor.next =
        .take (.term { purpose := .assignment target nest }) symbols := by
      simp only [step, Token.lexeme, kind, if_true]
    exact .pure (passed_of_step aligned stepped rfl advanced)
  · refine follows_refuse_next aligned ?_
    rw [step, if_neg]
    intro meaning
    exact other (kind_of_lexeme (by rw [meaning]; rfl))

/-- An assignment is read as the run reads it. -/
theorem follows_assignment (marked : EndMarked finish.cursor.tokens)
    (fits : RoomAt limit room (State.statement nest).depth)
    (aligned : resume limit (.statement nest) symbols cursor = finish)
    (kind : cursor.next.kind = .name) (advanced : cursor.advance? = some moved) :
    (assignment room).Follows finish symbols moved
      fun _ => Passed limit finish symbols cursor (afterStatement nest symbols) := by
  have started := Cursor.position_of_advance? advanced
  refine leaves_current advanced (leaves_lookup (fun target found => ?_) fun absent => ?_)
  · have stepped : step (.statement nest) symbols cursor.next =
        .take (.arrow target nest) symbols := by
      simp only [step, stepStatement, Token.lexeme, kind, found]
    have arrow := fits.resume_of_step aligned stepped advanced (Nat.le_refl _)
    refine (follows_arrow marked arrow).bind fun _ declared place passed => ?_
    obtain ⟨rfl, onward, behind⟩ := passed
    have held := fits.resume_of_behind behind (Nat.le_refl _)
    have goesOn : Reading.GoesOn { purpose := .assignment target nest } := rfl
    refine (follows_expression marked fits goesOn held).bind fun type table last expressed => ?_
    obtain ⟨rfl, further, ends, ended⟩ := expressed
    have compared : step (.operator type [] (.assignment target nest)) table last.next =
        if type = target.type then endStatement nest table last.next
        else .refuse (.cannotAssign type target) := by
      rw [step, stepOperator_of_ender ends]
      rfl
    by_cases same : type = target.type
    · rw [if_neg (Decidable.not_not.mpr same)]
      exact follows_semicolon marked ended (compared.trans (if_pos same)) (by omega)
    · rw [if_pos same]
      exact follows_refuse ended (compared.trans (if_neg same))
  · have stepped : step (.statement nest) symbols cursor.next =
        .refuseTaken (.undeclared cursor.next.text) := by
      simp only [step, stepStatement, Token.lexeme, kind, absent]
    exact failsAs_of_refuseTaken aligned stepped advanced

/-- An output is read as the run reads it. -/
theorem follows_output (marked : EndMarked finish.cursor.tokens)
    (fits : RoomAt limit room (State.statement nest).depth)
    (aligned : resume limit (.statement nest) symbols cursor = finish)
    (meaning : cursor.next.lexeme = .keyword .print) (advanced : cursor.advance? = some moved) :
    (output room).Follows finish symbols moved
      fun _ => Passed limit finish symbols cursor (afterStatement nest symbols) := by
  have started := Cursor.position_of_advance? advanced
  have stepped : step (.statement nest) symbols cursor.next =
      .take (.term { purpose := .output nest }) symbols := by
    simp only [step, stepStatement, meaning, Keyword.endsStatements, Bool.and_false,
      Bool.false_eq_true, if_false]
  have held := fits.resume_of_step aligned stepped advanced (Nat.le_refl _)
  have goesOn : Reading.GoesOn { purpose := .output nest } := rfl
  refine (follows_expression marked fits goesOn held).bind fun type declared last expressed => ?_
  obtain ⟨rfl, further, ends, ended⟩ := expressed
  have closes : step (.operator type [] (.output nest)) declared last.next =
      endStatement nest declared last.next := by
    rw [step, stepOperator_of_ender ends]
    rfl
  exact follows_semicolon marked ended closes (by omega)

/-! ## Statements with bodies -/

/-- Behind its first keyword such a statement has a condition, another keyword and a body, which is
read as the run reads it. -/
theorem follows_guarded {body : Body} {keyword : Keyword} {purpose : Purpose}
    {next : Option Nat → Action Unit} {post : Unit → SymbolTable → Cursor → Prop}
    (marked : EndMarked finish.cursor.tokens)
    (bodies : StatementsFollow limit finish cursor.position)
    (fits : RoomAt limit room (State.statement nest).depth)
    (level : (State.term { purpose }).depth = (State.statement nest).depth)
    (wants : purpose.WantsLogical)
    (stepped : step (.statement nest) symbols cursor.next = .take (.term { purpose }) symbols)
    (opens : ∀ token, endExpression .logical [] purpose symbols token =
      requireKeyword keyword token (.take (.statement (nest.enter body)) symbols))
    (aligned : resume limit (.statement nest) symbols cursor = finish)
    (advanced : cursor.advance? = some moved)
    (rest : ∀ inner place, RoomAt limit inner (State.statement (nest.enter body)).depth →
      Listed limit finish (nest.enter body) symbols cursor symbols place →
        (next inner).Follows finish symbols place post) :
    (do
      condition room
      expectKeyword keyword
      let inner ← spend 2 room
      statements inner
      next inner : Action Unit).Follows finish symbols moved post := by
  have started := Cursor.position_of_advance? advanced
  have held := fits.resume_of_step aligned stepped advanced (Nat.le_of_eq level)
  have guards := follows_condition marked (level ▸ fits) wants held
  refine guards.bind fun _ declared last expressed => ?_
  obtain ⟨rfl, further, ends, ended⟩ := expressed
  have required : step (.operator .logical [] purpose) declared last.next =
      requireKeyword keyword last.next (.take (.statement (nest.enter body)) declared) := by
    rw [step, stepOperator_of_ender ends, opens]
  refine (follows_expectKeyword marked ended required rfl).bind fun _ table place passed => ?_
  obtain ⟨rfl, onward, behind⟩ := passed
  -- The call for the body costs what one more open body counts.
  have deeper : (State.statement (nest.enter body)).depth = (State.statement nest).depth + 2 := by
    simp only [State.depth, State.openParentheses, State.openBodies, Nest.enter, List.length_cons]
    omega
  refine follows_spend fits deeper behind fun inner innerFits inside => ?_
  rw [← deeper] at innerFits
  refine (bodies (by omega) innerFits rfl inside).bind fun _ declared close listed => ?_
  obtain ⟨rfl, after, closing, listEnd⟩ := listed
  exact rest inner close innerFits ⟨rfl, by omega, closing, listEnd⟩

/-- Behind its bodies a statement is closed by a keyword and a semicolon. -/
theorem follows_close {keyword : Keyword} {start : Cursor} (marked : EndMarked finish.cursor.tokens)
    (fits : RoomAt limit room (State.statement nest).depth)
    (aligned : resume limit state symbols cursor = finish)
    (closes : step state symbols cursor.next =
      requireKeyword keyword cursor.next (.take (.semicolon nest) symbols))
    (after : start.position ≤ cursor.position) :
    (do
      expectKeyword keyword
      expectSeparator .semicolon : Action Unit).Follows finish symbols cursor
      fun _ => Passed limit finish symbols start (afterStatement nest symbols) := by
  refine (follows_expectKeyword marked aligned closes rfl).bind fun _ declared place passed => ?_
  obtain ⟨rfl, onward, behind⟩ := passed
  have semicolon := fits.resume_of_behind behind (Nat.le_refl _)
  exact follows_semicolon marked semicolon rfl (by omega)

/-- Behind the first body of a branch the second one may stand; then the keyword that closes the
branch is required. -/
theorem follows_alternative (marked : EndMarked finish.cursor.tokens)
    (bodies : StatementsFollow limit finish cursor.position)
    (fits : RoomAt limit room (State.statement (nest.enter .consequent)).depth)
    (listed : Listed limit finish (nest.enter .consequent) symbols moved symbols cursor) :
    (alternative room).Follows finish symbols cursor fun _ declared place =>
      declared = symbols ∧ cursor.position ≤ place.position ∧
        ∃ state, resume limit state symbols place = finish ∧
          step state symbols place.next =
            requireKeyword .endif place.next (.take (.semicolon nest) symbols) := by
  obtain ⟨-, -, ⟨keyword, closing, ender⟩, held⟩ := listed
  have ending : step (.statement (nest.enter .consequent)) symbols cursor.next =
      endList (nest.enter .consequent) symbols cursor.next := by
    rw [step, stepStatement_of_ender closing rfl ender]
  rw [alternative]
  refine leaves_acceptKeyword marked (fun meaning place advanced => ?_) fun other => ?_
  · have further := Cursor.position_of_advance? advanced
    have stepped : step (.statement (nest.enter .consequent)) symbols cursor.next =
        .take (.statement (nest.enter .alternative)) symbols := by
      rw [ending]
      exact if_pos meaning
    have inside := fits.resume_of_step held stepped advanced (Nat.le_refl _)
    have innerFits : RoomAt limit room (State.statement (nest.enter .alternative)).depth := fits
    refine (bodies (by omega) innerFits rfl inside).mono fun _ declared last second => ?_
    obtain ⟨rfl, after, ⟨other, closed, ends⟩, listEnd⟩ := second
    refine ⟨rfl, by omega, _, listEnd, ?_⟩
    rw [step, stepStatement_of_ender closed rfl ends]
    rfl
  · refine .pure ⟨rfl, Nat.le_refl _, _, held, ?_⟩
    rw [ending]
    exact if_neg other

/-- A branch is read as the run reads it, if its bodies are. -/
theorem follows_branch (marked : EndMarked finish.cursor.tokens)
    (bodies : StatementsFollow limit finish cursor.position)
    (fits : RoomAt limit room (State.statement nest).depth)
    (aligned : resume limit (.statement nest) symbols cursor = finish)
    (meaning : cursor.next.lexeme = .keyword .if_) (advanced : cursor.advance? = some moved) :
    (branch room).Follows finish symbols moved
      fun _ => Passed limit finish symbols cursor (afterStatement nest symbols) := by
  have stepped : step (.statement nest) symbols cursor.next =
      .take (.term { purpose := .branch nest }) symbols := by
    simp only [step, stepStatement, meaning, Keyword.endsStatements, Bool.and_false,
      Bool.false_eq_true, if_false]
  have wants : (Purpose.branch nest).WantsLogical := trivial
  rw [branch]
  refine follows_guarded marked bodies fits rfl wants stepped (fun _ => rfl) aligned advanced
    fun inner close innerFits listed => ?_
  have after := listed.after
  have second := follows_alternative marked (fun beyond => bodies (by omega)) innerFits
    ⟨rfl, Nat.le_refl _, listed.ends, listed.aligned⟩
  refine second.bind fun _ declared last reached => ?_
  obtain ⟨rfl, beyond, state, closed, closes⟩ := reached
  exact follows_close marked fits closed closes (by omega)

/-- Behind the body of a loop its keyword is required, and a semicolon. -/
theorem follows_repetition (marked : EndMarked finish.cursor.tokens)
    (bodies : StatementsFollow limit finish cursor.position)
    (fits : RoomAt limit room (State.statement nest).depth)
    (aligned : resume limit (.statement nest) symbols cursor = finish)
    (meaning : cursor.next.lexeme = .keyword .loopif) (advanced : cursor.advance? = some moved) :
    (repetition room).Follows finish symbols moved
      fun _ => Passed limit finish symbols cursor (afterStatement nest symbols) := by
  have stepped : step (.statement nest) symbols cursor.next =
      .take (.term { purpose := .loop nest }) symbols := by
    simp only [step, stepStatement, meaning, Keyword.endsStatements, Bool.and_false,
      Bool.false_eq_true, if_false]
  have wants : (Purpose.loop nest).WantsLogical := trivial
  rw [repetition]
  refine follows_guarded marked bodies fits rfl wants stepped (fun _ => rfl) aligned advanced
    fun inner close innerFits listed => ?_
  obtain ⟨-, after, ⟨keyword, closing, ender⟩, listEnd⟩ := listed
  have closes : step (.statement (nest.enter .loop)) symbols close.next =
      requireKeyword .endloop close.next (.take (.semicolon nest) symbols) := by
    rw [step, stepStatement_of_ender closing rfl ender]
    rfl
  exact follows_close marked fits listEnd closes after

/-! ## Lists of statements -/

/-- A statement is read as the run reads it. Where a list may end, it has to start with no keyword
that ends one. -/
theorem follows_statement (marked : EndMarked finish.cursor.tokens)
    (bodies : StatementsFollow limit finish cursor.position)
    (fits : RoomAt limit room (State.statement nest).depth)
    (starts : nest.isList = true → ∀ keyword, cursor.next.lexeme = .keyword keyword →
      keyword.endsStatements = false)
    (aligned : resume limit (.statement nest) symbols cursor = finish) :
    (statement room).Follows finish symbols cursor
      fun _ => Passed limit finish symbols cursor (afterStatement nest symbols) := by
  rw [statement]
  refine leaves_acceptKind marked (by decide)
    (fun kind moved advanced => follows_assignment marked fits aligned kind advanced)
    fun notName => ?_
  refine leaves_acceptKeyword marked
    (fun meaning moved advanced => follows_branch marked bodies fits aligned meaning advanced)
    fun notIf => ?_
  refine leaves_acceptKeyword marked
    (fun meaning moved advanced => follows_output marked fits aligned meaning advanced)
    fun notPrint => ?_
  refine leaves_acceptKeyword marked
    (fun meaning moved advanced => follows_repetition marked bodies fits aligned meaning advanced)
    fun notLoop => ?_
  refine follows_refuse_next aligned ?_
  rw [step]
  unfold stepStatement
  split
  · next meaning => exact absurd (kind_of_lexeme (by rw [meaning]; rfl)) notName
  · next keyword meaning =>
    have stays : (nest.isList && keyword.endsStatements) = false := by
      cases list : nest.isList with
      | false => rfl
      | true => exact starts list keyword meaning
    rw [stays, if_neg Bool.false_ne_true]
    split
    · exact absurd meaning notIf
    · exact absurd meaning notPrint
    · exact absurd meaning notLoop
    · rfl
  · rfl

/-- A turn of the loop over statements reads one statement more, or the list ends. -/
theorem follows_statementsTurn (marked : EndMarked finish.cursor.tokens)
    (bodies : StatementsFollow limit finish cursor.position)
    (fits : RoomAt limit room (State.statement nest).depth) (list : nest.isList = true)
    (aligned : resume limit (.statement nest) symbols cursor = finish) :
    (statementsTurn room ()).Follows finish symbols cursor fun next declared moved =>
      match next with
      | none => declared = symbols ∧ moved = cursor ∧
          ∃ keyword, cursor.next.lexeme = .keyword keyword ∧ keyword.endsStatements = true
      | some _ => (declared = symbols ∧
          resume limit (.statement nest) symbols moved = finish) ∧
          cursor.position < moved.position := by
  rw [statementsTurn]
  refine leaves_probeEnder (fun keyword meaning ends => ?_) fun starts => ?_
  · exact .pure ⟨rfl, rfl, keyword, meaning, ends⟩
  · refine (follows_statement marked bodies fits (fun _ => starts) aligned).bind
      fun _ declared moved passed => ?_
    obtain ⟨rfl, further, behind⟩ := passed
    rw [afterStatement, if_pos list] at behind
    exact .pure ⟨⟨rfl, fits.resume_of_behind behind (Nat.le_refl _)⟩, further⟩

/-- The procedure for a list of statements repeats its turn. -/
theorem repeats_statements (room : Option Nat) :
    Repeats (statementsTurn room) fun _ => statements room := by
  rintro ⟨⟩
  change statements room = _
  conv => lhs; rw [statements]
  congr 1
  funext next
  cases next <;> rfl

/-- Statements are read as the run reads them. The induction is from the last position on,
since a statement takes a token before it comes to a body. -/
theorem statementsFollow (marked : EndMarked finish.cursor.tokens) (position : Nat) :
    StatementsFollow limit finish position := by
  induction position using later_induction finish.cursor.tokens.length with
  | last position end_ =>
      intro room nest symbols cursor further _ _ _ same
      have inside := cursor.position_le_length
      rw [same] at inside
      omega
  | earlier position induction =>
      intro room nest symbols cursor further fits list aligned
      have bodies : StatementsFollow limit finish cursor.position :=
        induction cursor.position further
      -- The loop keeps the run at a statement, further on or where it was.
      refine leaves_loop (repeats_statements room) (fun _ declared place =>
        declared = symbols ∧ cursor.position ≤ place.position ∧
          resume limit (.statement nest) declared place = finish)
        ?_ () ⟨rfl, Nat.le_refl _, aligned⟩
      rintro _ declared place ⟨rfl, after, held⟩
      have turns := follows_statementsTurn marked (fun beyond => bodies (by omega)) fits list held
      refine turns.mono fun next declared moved reached => ?_
      cases next with
      | none =>
          obtain ⟨rfl, rfl, ends⟩ := reached
          exact ⟨rfl, after, ends, held⟩
      | some next =>
          obtain ⟨⟨rfl, again⟩, onward⟩ := reached
          exact ⟨⟨rfl, by omega, again⟩, onward⟩

end Dopl.Checker
