import Dopl.Proofs.Checker.Frame
import Dopl.Proofs.Descent.Statement

/-! # Programs and rules by procedures

The procedures for groups of declarations and for programs follow the run that reads them, and so
the procedure of every rule does what the run of the rule does:

* **`GroupPhase.Counts`** — the two counters of a group tell which token of it was read last.
* **`follows_declarationTurn`**, **`follows_declaration`** — one token of a group, and a group.
* **`follows_programTurn`**, **`follows_program`** — one group of a program, and a program.
* **`follows_rule`** — every rule; **`descend_eq_run`** — its procedure ends as its run does. -/

namespace Dopl.Checker

open Descent

variable {limit room : Option Nat} {finish : Finish} {state : State} {symbols : SymbolTable}
  {cursor moved : Cursor}

/-! ## Declarations -/

/-- The numbers of names and commas that are read up to a phase of a group: there is one name more
behind a name, and elsewhere as many. -/
structure GroupPhase.Counts (phase : GroupPhase) (names commas : Nat) : Prop where
  /-- The group is empty before its first name. -/
  empty : phase = .empty ↔ names = 0
  /-- Behind a name there is one comma less. -/
  afterName : phase = .afterName ↔ names = commas + 1
  /-- Behind the type or a comma there are as many. -/
  other : phase ≠ .afterName → names = commas

/-- At first no name and no comma is read. -/
theorem counts_empty : GroupPhase.empty.Counts 0 0 :=
  ⟨by simp, by simp, by simp⟩

/-- Elsewhere than behind a name, a name may be counted. -/
theorem GroupPhase.Counts.name {phase : GroupPhase} {names commas : Nat}
    (counted : phase.Counts names commas) (apart : phase ≠ .afterName) :
    GroupPhase.afterName.Counts (names + 1) commas :=
  ⟨by simp, by simp [counted.other apart], fun differs => absurd rfl differs⟩

/-- Behind a name, a comma may be counted. -/
theorem GroupPhase.Counts.comma {names commas : Nat}
    (counted : GroupPhase.afterName.Counts names commas) :
    GroupPhase.afterComma.Counts names (commas + 1) := by
  have more := counted.afterName.mp rfl
  exact ⟨by simp [more], by simp [more], fun _ => more⟩

/-- What becomes of a run behind a group. -/
def afterGroup (alone : Bool) (symbols : SymbolTable) : Move :=
  if alone then .takeLast (.accepted none) else .take .declarations symbols

/-- A group is read, and the run has come to the place behind it. -/
structure Grouped (limit : Option Nat) (finish : Finish) (alone : Bool) (cursor : Cursor)
    (symbols : SymbolTable) (moved : Cursor) : Prop where
  /-- It is further on. -/
  further : cursor.position < moved.position
  /-- The run goes on behind the group. -/
  behind : (afterGroup alone symbols).behind limit symbols moved = finish

variable {type : ValueType} {phase : GroupPhase} {alone : Bool} {names commas : Nat}

/-- What a turn of the loop of a group leaves: the group is read, or one token of it. -/
def GroupTurn (limit : Option Nat) (finish : Finish) (type : ValueType) (alone : Bool)
    (cursor : Cursor) : Option (Nat × Nat) → SymbolTable → Cursor → Prop
  | none, declared, moved => Grouped limit finish alone cursor declared moved
  | some (names, commas), declared, moved =>
    (∃ phase : GroupPhase, phase.Counts names commas ∧
      resume limit (.group type phase alone) declared moved = finish) ∧
      cursor.position < moved.position

/-- The semicolon of a group: behind a name the group is complete. -/
theorem follows_groupEnd (counted : phase.Counts names commas)
    (aligned : resume limit (.group type phase alone) symbols cursor = finish)
    (meaning : cursor.next.lexeme = .separator .semicolon)
    (advanced : cursor.advance? = some moved) :
    (if names = 0 then refuse .noName
      else if commas ≠ names - 1 then refuse .trailingComma
      else pure none : Action (Option (Nat × Nat))).Follows finish symbols moved
      (GroupTurn limit finish type alone cursor) := by
  have further := Cursor.position_of_advance? advanced
  cases phase with
  | empty =>
      have stepped : step (.group type .empty alone) symbols cursor.next =
          .refuseTaken .noName := by
        simp only [step, stepGroup, meaning]
      rw [if_pos (counted.empty.mp rfl)]
      exact leaves_refuse (failsAs_of_refuseTaken aligned stepped advanced)
  | afterName =>
      have stepped : step (.group type .afterName alone) symbols cursor.next =
          afterGroup alone symbols := by
        simp only [step, stepGroup, meaning]
        rfl
      have takes : (afterGroup alone symbols).takes = true := by cases alone <;> rfl
      have more := counted.afterName.mp rfl
      rw [if_neg (by omega), if_neg (by omega)]
      exact .pure ⟨by omega, behind_of_step aligned stepped takes advanced⟩
  | afterComma =>
      have stepped : step (.group type .afterComma alone) symbols cursor.next =
          .refuseTaken .trailingComma := by
        simp only [step, stepGroup, meaning]
      have named : names ≠ 0 := fun none => GroupPhase.noConfusion (counted.empty.mpr none)
      have same : names = commas := counted.other (by decide)
      rw [if_neg named, if_pos (by omega)]
      exact leaves_refuse (failsAs_of_refuseTaken aligned stepped advanced)

/-- A comma of a group follows a name. -/
theorem follows_groupComma (fits : RoomAt limit room 0) (counted : phase.Counts names commas)
    (aligned : resume limit (.group type phase alone) symbols cursor = finish)
    (meaning : cursor.next.lexeme = .separator .comma)
    (advanced : cursor.advance? = some moved) :
    (if names < commas + 1 then refuse .strayComma
      else pure (some (names, commas + 1)) : Action (Option (Nat × Nat))).Follows finish symbols
      moved (GroupTurn limit finish type alone cursor) := by
  have further := Cursor.position_of_advance? advanced
  by_cases behind : phase = .afterName
  · subst behind
    have more := counted.afterName.mp rfl
    have stepped : step (.group type .afterName alone) symbols cursor.next =
        .take (.group type .afterComma alone) symbols := by
      simp only [step, stepGroup, meaning]
    have held := fits.resume_of_step aligned stepped advanced (Nat.le_refl 0)
    rw [if_neg (by omega)]
    exact .pure ⟨⟨.afterComma, counted.comma, held⟩, by omega⟩
  · have stepped : step (.group type phase alone) symbols cursor.next =
        .refuseTaken .strayComma := by
      simp only [step, stepGroup, meaning]
      split
      · exact absurd rfl behind
      · rfl
      · rfl
    have same := counted.other behind
    rw [if_pos (by omega)]
    exact leaves_refuse (failsAs_of_refuseTaken aligned stepped advanced)

/-- A name of a group follows its type or a comma. -/
theorem follows_groupName (fits : RoomAt limit room 0) (counted : phase.Counts names commas)
    (aligned : resume limit (.group type phase alone) symbols cursor = finish)
    (kind : cursor.next.kind = .name) (advanced : cursor.advance? = some moved) :
    (if !isIdentifier cursor.next.text then refuse (.badName cursor.next.text)
      else if 1 < names + 1 - commas then refuse (.missingComma cursor.next.text)
      else do
        declareSymbol cursor.next.text type
        pure (some (names + 1, commas)) : Action (Option (Nat × Nat))).Follows finish symbols
      moved (GroupTurn limit finish type alone cursor) := by
  have further := Cursor.position_of_advance? advanced
  have meaning : cursor.next.lexeme = .name cursor.next.text := by rw [Token.lexeme, kind]
  have refuses (fault : CheckFault)
      (stepped : step (.group type phase alone) symbols cursor.next = .refuseTaken fault) :
      finish.FailsAs (.refused fault moved.position) symbols moved :=
    failsAs_of_refuseTaken aligned stepped advanced
  -- The text is looked at before its place is, and only a name in its place is declared.
  by_cases bad : (!isIdentifier cursor.next.text) = true
  · rw [if_pos bad]
    refine leaves_refuse (refuses _ ?_)
    simp only [step, stepGroup, meaning, if_pos bad]
  rw [if_neg bad]
  by_cases behind : phase = .afterName
  · have more := counted.afterName.mp behind
    rw [if_pos (by omega)]
    refine leaves_refuse (refuses _ ?_)
    simp only [step, stepGroup, meaning, if_neg bad, if_pos behind]
  have same := counted.other behind
  rw [if_neg (by omega)]
  refine leaves_declare (fun declared added => ?_) fun known => refuses _ ?_
  · have stepped : step (.group type phase alone) symbols cursor.next =
        .take (.group type .afterName alone) declared := by
      simp only [step, stepGroup, meaning, if_neg bad, if_neg behind, added]
    have held := fits.resume_of_step aligned stepped advanced (Nat.le_refl 0)
    exact .pure ⟨⟨.afterName, counted.name behind, held⟩, by omega⟩
  · simp only [step, stepGroup, meaning, if_neg bad, if_neg behind, known]

/-- A turn of the loop of a group reads one token of it. -/
theorem follows_declarationTurn (marked : EndMarked finish.cursor.tokens)
    (fits : RoomAt limit room 0) (counted : phase.Counts names commas)
    (aligned : resume limit (.group type phase alone) symbols cursor = finish) :
    (declarationTurn type (names, commas)).Follows finish symbols cursor
      (GroupTurn limit finish type alone cursor) := by
  refine leaves_acceptSeparator marked
    (fun meaning moved advanced => follows_groupEnd counted aligned meaning advanced)
    fun notSemicolon => ?_
  refine leaves_acceptSeparator marked
    (fun meaning moved advanced => follows_groupComma fits counted aligned meaning advanced)
    fun notComma => ?_
  refine leaves_acceptKind marked (by decide)
    (fun kind moved advanced => leaves_current advanced
      (follows_groupName fits counted aligned kind advanced))
    fun notName => ?_
  refine follows_refuse_next aligned ?_
  rw [step]
  unfold stepGroup
  split
  · next meaning => exact absurd meaning notSemicolon
  · next meaning => exact absurd meaning notComma
  · next meaning => exact absurd (kind_of_lexeme (by rw [meaning]; rfl)) notName
  · rfl

/-- A group is read as the run reads it, alone or in a program. -/
theorem follows_declaration (marked : EndMarked finish.cursor.tokens) (fits : RoomAt limit room 0)
    (typed : ∀ type, cursor.next.valueType? = some type →
      step state symbols cursor.next = .take (.group type .empty alone) symbols)
    (untyped : cursor.next.valueType? = none →
      step state symbols cursor.next = .refuse (.kindRequired .keyword cursor.next))
    (aligned : resume limit state symbols cursor = finish) :
    declaration.Follows finish symbols cursor
      fun _ => Grouped limit finish alone cursor := by
  have head : (expectKind .keyword typeText).Follows finish symbols cursor
      fun _ declared moved => declared = symbols ∧ cursor.advance? = some moved ∧
        ∃ type, cursor.next.valueType? = some type := by
    refine leaves_acceptType marked (fun type named moved advanced => ?_) fun other => ?_
    · exact .pure ⟨rfl, advanced, type, named⟩
    · exact follows_refuse_next aligned (untyped other)
  refine head.bind fun _ declared moved reached => ?_
  obtain ⟨rfl, advanced, type, named⟩ := reached
  have started := Cursor.position_of_advance? advanced
  have found := ((valueType?_eq_some_iff_ofText? cursor.next type).mp named).2
  refine leaves_current advanced ?_
  rw [found, need, pure_bind]
  have held := fits.resume_of_step aligned (typed type named) advanced (Nat.le_refl 0)
  -- The loop keeps the run in the group, with the counters at what is read of it.
  have loop : (Turn.loop (declarationTurn type) (0, 0)).Follows finish declared moved
      fun _ => Grouped limit finish alone cursor := by
    refine leaves_loop (repeats_loop _) (fun counts declared place =>
      cursor.position ≤ place.position ∧ ∃ phase : GroupPhase, phase.Counts counts.1 counts.2 ∧
        resume limit (.group type phase alone) declared place = finish)
      ?_ (0, 0) ⟨by omega, .empty, counts_empty, held⟩
    rintro ⟨names, commas⟩ table place ⟨after, phase, counted, inside⟩
    refine (follows_declarationTurn marked fits counted inside).mono
      fun next declared last reached => ?_
    cases next with
    | none => exact ⟨Nat.lt_of_le_of_lt after reached.further, reached.behind⟩
    | some counts =>
        obtain ⟨⟨phase, counted, again⟩, onward⟩ := reached
        exact ⟨⟨by omega, phase, counted, again⟩, onward⟩
  exact loop.bind fun _ _ _ grouped => .pure grouped

/-! ## Programs -/

/-- A turn of the loop over the groups of a program reads one group, or there is none more. -/
theorem follows_programTurn (marked : EndMarked finish.cursor.tokens) (fits : RoomAt limit room 0)
    (aligned : resume limit .declarations symbols cursor = finish) :
    (programTurn ()).Follows finish symbols cursor fun next declared moved =>
      match next with
      | none => declared = symbols ∧ moved = cursor ∧
          resume limit (.statement { outermost := .program }) symbols cursor = finish
      | some _ => resume limit .declarations declared moved = finish ∧
          cursor.position < moved.position := by
  refine leaves_probeType (fun type named => ?_) fun untyped => ?_
  · have typed (other : ValueType) (same : cursor.next.valueType? = some other) :
        step .declarations symbols cursor.next =
          .take (.group other .empty false) symbols := by
      simp only [step, same]
    have group := follows_declaration marked fits typed
      (fun untyped => by rw [named] at untyped; cases untyped) aligned
    refine group.bind fun _ declared moved grouped => ?_
    exact .pure ⟨fits.resume_of_behind grouped.behind (Nat.le_refl 0), grouped.further⟩
  · have stepped : step .declarations symbols cursor.next =
        step (.statement { outermost := .program }) symbols cursor.next := by
      simp only [step, untyped]
    rw [resume_congr stepped] at aligned
    exact .pure ⟨rfl, rfl, aligned⟩

/-- A program is read as the run reads it. -/
theorem follows_program (marked : EndMarked finish.cursor.tokens) (fits : RoomAt limit room 0)
    (aligned : resume limit .opening symbols cursor = finish) :
    (program room).Follows finish symbols cursor fun _ declared moved =>
      cursor.position < moved.position ∧
        ⟨.answered (.accepted none), moved, declared⟩ = finish := by
  refine (follows_expectKeyword marked aligned rfl rfl).bind fun _ declared start passed => ?_
  obtain ⟨rfl, started, behind⟩ := passed
  have opened := fits.resume_of_behind behind (Nat.le_refl 0)
  have groups : (Turn.loop programTurn ()).Follows finish declared start fun _ declared moved =>
      start.position ≤ moved.position ∧
        resume limit (.statement { outermost := .program }) declared moved = finish := by
    refine leaves_loop (repeats_loop _) (fun _ declared place =>
      start.position ≤ place.position ∧ resume limit .declarations declared place = finish)
      ?_ () ⟨Nat.le_refl _, opened⟩
    rintro _ table place ⟨after, held⟩
    refine (follows_programTurn marked fits held).mono fun next declared moved reached => ?_
    cases next with
    | none =>
        obtain ⟨rfl, rfl, ended⟩ := reached
        exact ⟨after, ended⟩
    | some _ =>
        obtain ⟨again, onward⟩ := reached
        exact ⟨⟨by omega, again⟩, onward⟩
  refine groups.bind fun _ table place reached => ?_
  obtain ⟨after, held⟩ := reached
  have bodies := statementsFollow marked 0 (Nat.succ_pos _) fits rfl held
  refine bodies.bind fun _ table last listed => ?_
  obtain ⟨rfl, beyond, ⟨keyword, closing, ender⟩, listEnd⟩ := listed
  have closes : step (.statement { outermost := .program }) table last.next =
      requireKeyword .finish last.next (.take .trailer table) := by
    rw [step, stepStatement_of_ender closing rfl ender]
    rfl
  refine (follows_expectKeyword marked listEnd closes rfl).bind fun _ table moved passed => ?_
  obtain ⟨rfl, onward, behind⟩ := passed
  have trailer := fits.resume_of_behind behind (Nat.le_refl 0)
  refine leaves_probe (fun _ => rfl) (fun kind _ => ?_) fun differs => ?_
  · have left : step .trailer table moved.next = .leave (.accepted none) := by
      simp only [step, Token.lexeme, kind, if_true]
    rw [resume, run_of_leave left] at trailer
    exact .pure ⟨by omega, trailer⟩
  · refine follows_refuse_next trailer ?_
    rw [step, if_neg]
    intro meaning
    exact Bool.noConfusion (differs (kind_of_lexeme (by rw [meaning]; rfl)))

/-! ## Rules -/

/-- How a procedure ends that does what a run does. -/
def Finish.ending (finish : Finish) : Except Failure (Option ValueType) :=
  match finish.outcome with
  | .answered (.accepted type) => .ok type
  | .answered (.refused fault) => .error (.refused fault finish.cursor.position)
  | .tooDeep => .error .tooDeep

/-- The procedure of a rule follows its run, and takes a token before it succeeds, unless it is the
one for a list of statements. -/
theorem follows_rule (rule : Rule) (marked : EndMarked finish.cursor.tokens)
    (same : rule.run room symbols cursor = finish) :
    (rule.descend room).Follows finish symbols cursor fun type declared moved =>
      (rule ≠ .statements → cursor.position < moved.position) ∧
        ⟨.answered (.accepted type), moved, declared⟩ = finish := by
  have fits : RoomAt room room 0 := by cases room <;> rfl
  have aligned : resume room rule.start symbols cursor = finish := same
  cases rule with
  | program =>
      refine (follows_program marked fits aligned).bind fun _ declared moved reached => ?_
      exact .pure ⟨fun _ => reached.1, reached.2⟩
  | declaration =>
      have typed (type : ValueType) (named : cursor.next.valueType? = some type) :
          step .groupHead symbols cursor.next = .take (.group type .empty true) symbols := by
        simp only [step, named]
      have untyped (none : cursor.next.valueType? = none) :
          step .groupHead symbols cursor.next =
            .refuse (.kindRequired .keyword cursor.next) := by
        simp only [step, none]
      refine (follows_declaration marked fits typed untyped aligned).bind
        fun _ declared moved grouped => ?_
      exact .pure ⟨fun _ => grouped.further, grouped.behind⟩
  | statement =>
      have alone : Nest.isList { outermost := .statement } = false := rfl
      have read := follows_statement marked (statementsFollow marked _) fits
        (fun list => by rw [alone] at list; cases list) aligned
      refine read.bind fun _ declared moved passed => ?_
      obtain ⟨rfl, further, behind⟩ := passed
      exact .pure ⟨fun _ => further, behind⟩
  | statements =>
      have read := statementsFollow marked 0 (Nat.succ_pos _) fits rfl aligned
      refine read.bind fun _ declared moved listed => ?_
      obtain ⟨rfl, -, ⟨keyword, closing, ender⟩, held⟩ := listed
      have left : step (.statement { outermost := .statements }) declared moved.next =
          .leave (.accepted none) := by
        rw [step, stepStatement_of_ender closing rfl ender]
        rfl
      rw [resume, run_of_leave left] at held
      exact .pure ⟨fun other => absurd rfl other, held⟩
  | condition =>
      have wants : Purpose.condition.WantsLogical := trivial
      refine (follows_condition marked fits wants aligned).bind fun _ declared moved expressed => ?_
      obtain ⟨rfl, further, ends, held⟩ := expressed
      have left : step (.operator .logical [] .condition) declared moved.next =
          .leave (.accepted none) := by
        rw [step, stepOperator_of_ender ends]
        rfl
      rw [resume, run_of_leave left] at held
      exact .pure ⟨fun _ => further, held⟩
  | expression =>
      have goesOn : Reading.GoesOn { purpose := .expression } := rfl
      refine (follows_expression marked fits goesOn aligned).bind
        fun type declared moved expressed => ?_
      obtain ⟨rfl, further, ends, held⟩ := expressed
      have left : step (.operator type [] .expression) declared moved.next =
          .leave (.accepted (some type)) := by
        rw [step, stepOperator_of_ender ends]
        rfl
      rw [resume, run_of_leave left] at held
      exact .pure ⟨fun _ => further, held⟩
  | term =>
      have read := follows_term marked (expressionFollows marked _) fits aligned
      refine read.bind fun type declared moved passed => ?_
      obtain ⟨rfl, further, behind⟩ := passed
      exact .pure ⟨fun _ => further, behind⟩
  | primary =>
      have read := follows_primary marked (expressionFollows marked _) fits aligned
      refine read.bind fun type declared moved passed => ?_
      obtain ⟨rfl, further, behind⟩ := passed
      exact .pure ⟨fun _ => further, behind⟩

/-- **A rule is its run.** On tokens that end in an end mark, the procedure of every rule comes to
its end, and it ends as the run of the rule does: with the type of the value, with the fault at the
position reached, or because the calls are nested too deeply. The store it leaves is the place and
the symbols that the run leaves. -/
theorem descend_eq_run (room : Option Nat) (rule : Rule) (symbols : SymbolTable) (cursor : Cursor)
    (marked : EndMarked cursor.tokens) :
    (rule.descend room).result (cursor.store symbols) =
      some ((rule.run room symbols cursor).ending,
        (rule.run room symbols cursor).cursor.store (rule.run room symbols cursor).symbols) := by
  have stays : (rule.run room symbols cursor).cursor.tokens = cursor.tokens :=
    tokens_of_run room rule.start symbols cursor
  have ended := follows_rule rule (stays ▸ marked) rfl stays.symm
  generalize rule.run room symbols cursor = finish at ended
  generalize (rule.descend room).result (cursor.store symbols) = result at ended
  cases ended with
  | returns _ reached =>
      obtain ⟨-, rfl⟩ := reached
      rfl
  | fails _ failed => cases failed <;> rfl

end Dopl.Checker
