import Dopl.Proofs.Checker.Completeness
import Dopl.Proofs.Checker.Soundness

/-! # A group of declarations

A group that is read alone either is complete, and declares its names, or is refused at the first
token that does not belong there:

* **`Declarable`** — the groups that may stand behind the symbols declared so far.
* **`BeginsGroup`** — the tokens are the beginning of such a group, or all of it;
  **`Stands`** — such a group stands at a cursor.
* **`GroupEnd`** — how a group ends; **`groupEnd_of_run`** — it ends in no other way.
* **`declaration_accepts_iff_group`** — which groups are accepted, and what is left of the
  others. -/

namespace Dopl

/-- The name that a lexeme is, if it is one. -/
def Lexeme.name? : Lexeme → Option String
  | .name text => some text
  | _ => none

/-- The names among some tokens, in order. -/
def namesAmong (tokens : List Token) : List String :=
  (tokens.map Token.lexeme).filterMap Lexeme.name?

/-- There is an identifier that is none of some names. -/
theorem exists_identifier_not_mem (names : List String) :
    ∃ name, isIdentifier name = true ∧ name ∉ names := by
  obtain ⟨bound, short⟩ : ∃ bound, ∀ name ∈ names, name.length ≤ bound := by
    induction names with
    | nil => exact ⟨0, by simp⟩
    | cons first rest induction =>
        obtain ⟨bound, short⟩ := induction
        refine ⟨first.length + bound, List.forall_mem_cons.mpr ⟨by omega, fun name member => ?_⟩⟩
        have := short name member
        omega
  -- A word of one letter repeated is an identifier, and may be longer than all of the names.
  refine ⟨String.ofList (List.replicate (bound + 1) 'a'), ?_, fun member => ?_⟩
  · have letter : Text.isLetter 'a' = true := by decide +kernel
    simp [isIdentifier, isIdentifierChar, List.replicate_succ, letter]
  · have long := short _ member
    simp only [String.length_ofList, List.length_replicate] at long
    omega

namespace Checker

open Grammar

/-! ## Groups that may be declared -/

/-- The group declares at least one name, identifiers only, none twice and none that the table
has. -/
structure Declarable (table : SymbolTable) (group : Group) : Prop where
  /-- It declares something, and identifiers only. -/
  valid : group.IsValid
  /-- Its names are distinct and new. -/
  fresh : table.Fresh group.names

/-- The tokens begin a group that may be declared. -/
def BeginsGroup (table : SymbolTable) (tokens : List Token) : Prop :=
  ∃ (group : Group) (rest : List Token), Declarable table group ∧
    (tokens ++ rest).map Token.lexeme = group.lexemes

/-- The tokens from the next one on are those of a group that may be declared, and others behind
them. -/
structure Stands (table : SymbolTable) (cursor : Cursor) (group : Group)
    (written behind : List Token) : Prop where
  /-- The group may be declared. -/
  declarable : Declarable table group
  /-- The first tokens are the group. -/
  spelled : written.map Token.lexeme = group.lexemes
  /-- The others are behind them. -/
  split : cursor.next :: cursor.ahead = written ++ behind

variable {limit : Option Nat} {symbols symbols' table : SymbolTable} {cursor : Cursor}
  {group : Group} {phase : GroupPhase} {type : ValueType} {token : Token}

/-- Up to its semicolon, a group leads behind its last name and declares all of them. -/
theorem Declarable.path (declarable : Declarable table group) :
    Path table .groupHead
      (.keyword (typeKeyword group.type) ::
        (group.names.map Lexeme.name).intersperse (.separator .comma))
      (.group group.type .afterName true) (table.extend group.symbols) := by
  obtain ⟨type, names⟩ := group
  obtain ⟨⟨some, identifiers⟩, fresh⟩ := declarable
  cases names with
  | nil => exact absurd rfl some
  | cons first rest =>
      have inside := names_path type true .empty (by decide) first rest identifiers table fresh
      exact .step (.groupHead ((valueType?_eq_some_iff _ type).mpr rfl)) inside

/-- What begins a group with a token more leads on by that token, or it is the whole group. -/
theorem step_of_beginsGroup {read : List Token} {state : State} {offending : Token}
    (path : Path symbols .groupHead (read.map Token.lexeme) state table)
    (begins : BeginsGroup symbols (read ++ [offending])) :
    (∃ state' symbols', step state table offending = .take state' symbols') ∨
      step state table offending = .takeLast (.accepted none) := by
  obtain ⟨group, rest, declarable, whole⟩ := begins
  have opened := declarable.path
  rw [List.append_assoc, List.map_append, List.singleton_append, List.map_cons,
    Group.lexemes] at whole
  rcases List.eq_nil_or_concat rest with rfl | ⟨others, last, rfl⟩
  · -- The token more is the semicolon, behind the last name.
    obtain ⟨before, semicolon⟩ := List.append_inj' whole rfl
    rw [before] at path
    obtain ⟨rfl, rfl⟩ := opened.unique path
    right
    have meaning : offending.lexeme = .separator .semicolon := (List.cons.inj semicolon).1
    simp only [step, stepGroup, meaning, if_true]
  · -- The token more is before the semicolon, so the whole group goes on along it.
    left
    have before : read.map Token.lexeme ++ offending.lexeme :: others.map Token.lexeme =
        .keyword (typeKeyword group.type) ::
          (group.names.map Lexeme.name).intersperse (.separator .comma) := by
      rw [List.concat_eq_append, List.map_append, ← List.cons_append, ← List.append_assoc] at whole
      exact (List.append_inj' whole rfl).1
    rw [← before] at opened
    obtain ⟨between, middle, first, second⟩ := Path.append_iff.mp opened
    obtain ⟨rfl, rfl⟩ := path.unique first
    obtain ⟨_, _, transition, -⟩ := Path.cons_iff.mp second
    exact ⟨_, _, step_eq_take_iff.mpr transition⟩

/-- A token that is refused does not go on with a group. -/
theorem not_beginsGroup_of_refused {read : List Token} {state : State} {offending : Token}
    {fault : CheckFault} (path : Path symbols .groupHead (read.map Token.lexeme) state table)
    (refused : step state table offending = .leave (.refused fault) ∨
      step state table offending = .takeLast (.refused fault)) :
    ¬BeginsGroup symbols (read ++ [offending]) := by
  intro begins
  rcases step_of_beginsGroup path begins with ⟨state', symbols', taken⟩ | last
  · rw [taken] at refused
    rcases refused with left | left <;> cases left
  · rw [last] at refused
    rcases refused with left | left <;> cases left

/-! ## What is read of a group -/

/-- What is read of a group can be made a group up to its last name. -/
theorem GroupRead.exists_afterName {lexemes : List Lexeme}
    (read : GroupRead table group phase lexemes symbols) :
    ∃ (whole : Group) (more : List Lexeme) (declared : SymbolTable), whole.type = group.type ∧
      GroupRead table whole .afterName (lexemes ++ more) declared := by
  by_cases behind : phase = .afterName
  · subst behind
    exact ⟨group, [], symbols, rfl, by rwa [List.append_nil]⟩
  · -- A new identifier may follow, and there always is one.
    obtain ⟨name, identifier, absent⟩ :=
      exists_identifier_not_mem (symbols.symbols.map Symbol.name)
    have fresh : symbols.Fresh [name] := by
      refine ⟨by simp, fun other member symbol declared => ?_⟩
      rw [List.mem_singleton.mp member]
      rintro rfl
      exact absent (List.mem_map_of_mem declared)
    have added :=
      (SymbolTable.declare?_eq_some_iff_fresh symbols _ name group.type).mpr ⟨fresh, rfl⟩
    exact ⟨group.addName name, [.name name], _, rfl, read.name behind identifier added⟩

/-- What is read of a group begins one. -/
theorem GroupRead.beginsGroup {read : List Token} {lexemes : List Lexeme}
    (open_ : GroupRead table group phase lexemes symbols)
    (meaning : read.map Token.lexeme = .keyword (typeKeyword group.type) :: lexemes) :
    BeginsGroup table read := by
  obtain ⟨whole, more, declared, sameType, complete⟩ := open_.exists_afterName
  refine ⟨whole, (more ++ [Lexeme.separator .semicolon]).map Lexeme.token,
    ⟨complete.isValid, complete.fresh⟩, ?_⟩
  rw [List.map_append, Lexeme.map_lexeme_token, meaning, complete.lexemes_eq, sameType]
  simp

/-- The names among names with commas between them are those names. -/
theorem filterMap_name?_intersperse (names : List String) :
    ((names.map Lexeme.name).intersperse (.separator .comma)).filterMap Lexeme.name? = names := by
  induction names with
  | nil => rfl
  | cons first rest induction =>
      cases rest with
      | nil => rfl
      | cons second others =>
          simp only [List.map_cons, List.intersperse, List.filterMap_cons, Lexeme.name?]
            at induction ⊢
          rw [induction]

/-- The names among the tokens read of a group are the names it has so far. -/
theorem GroupRead.namesAmong_eq {read : List Token} {lexemes : List Lexeme}
    (open_ : GroupRead table group phase lexemes symbols)
    (meaning : read.map Token.lexeme = .keyword (typeKeyword group.type) :: lexemes) :
    namesAmong read = group.names := by
  rw [namesAmong, meaning, open_.separated, List.filterMap_cons_none rfl, List.filterMap_append,
    filterMap_name?_intersperse]
  split <;> simp [Lexeme.name?]

/-! ## How a group ends -/

/-- The state belongs to a group that is read alone. -/
def State.ReadsGroup : State → Prop
  | .groupHead => True
  | .group _ _ alone => alone = true
  | _ => False

/-- A token does not lead out of a group that is read alone. -/
theorem readsGroup_of_transition {state state' : State} {lexeme : Lexeme}
    (transition : Transition symbols state lexeme state' symbols') (reads : state.ReadsGroup) :
    state'.ReadsGroup := by
  cases transition with
  | groupHead _ => rfl
  | comma => exact reads
  | name _ _ _ => exact reads
  | _ => cases reads

/-- Nor do some tokens. -/
theorem readsGroup_of_path {state state' : State} {lexemes : List Lexeme}
    (path : Path symbols state lexemes state' symbols') (reads : state.ReadsGroup) :
    state'.ReadsGroup := by
  induction path with
  | refl => exact reads
  | step transition _ induction => exact induction (readsGroup_of_transition transition reads)

/-- Nothing is nested in a group. -/
theorem depth_of_readsGroup {state : State} (reads : state.ReadsGroup) : state.depth = 0 := by
  cases state <;> first | rfl | cases reads

/-- A token of a group is taken, or it is the semicolon of a complete group, or it is refused. -/
theorem stepGroup_cases (type : ValueType) (phase : GroupPhase) (symbols : SymbolTable)
    (token : Token) :
    (∃ state' symbols', stepGroup type phase true symbols token = .take state' symbols') ∨
      (phase = .afterName ∧ token.lexeme = .separator .semicolon ∧
        stepGroup type phase true symbols token = .takeLast (.accepted none)) ∨
      ∃ fault : CheckFault, fault.area = .declaration ∧
        (stepGroup type phase true symbols token = .leave (.refused fault) ∨
          stepGroup type phase true symbols token = .takeLast (.refused fault)) := by
  unfold stepGroup
  split
  · next meaning =>
    split
    · exact .inr (.inr ⟨_, rfl, .inr rfl⟩)
    · exact .inr (.inr ⟨_, rfl, .inr rfl⟩)
    · exact .inr (.inl ⟨rfl, meaning, by rw [if_pos rfl]⟩)
  · split
    · exact .inl ⟨_, _, rfl⟩
    · exact .inr (.inr ⟨_, rfl, .inr rfl⟩)
    · exact .inr (.inr ⟨_, rfl, .inr rfl⟩)
  · split
    · exact .inr (.inr ⟨_, rfl, .inr rfl⟩)
    · split
      · exact .inr (.inr ⟨_, rfl, .inr rfl⟩)
      · split
        · exact .inl ⟨_, _, rfl⟩
        · exact .inr (.inr ⟨_, rfl, .inr rfl⟩)
  · exact .inr (.inr ⟨_, rfl, .inl rfl⟩)

/-- How a group that is read alone ends. -/
inductive GroupEnd (symbols : SymbolTable) (cursor : Cursor) : Finish → Prop where
  /-- No type stands at its start. -/
  | untyped {fault : CheckFault} :
      cursor.next.valueType? = none → fault.area = .grammar →
        GroupEnd symbols cursor ⟨.answered (.refused fault), cursor, symbols⟩
  /-- It is complete, and its names are declared. -/
  | complete {group : Group} {written behind : List Token} {moved : Cursor} :
      Stands symbols cursor group written behind →
        GroupEnd symbols cursor
          ⟨.answered (.accepted none), moved, symbols.extend group.symbols⟩
  /-- It is refused at the first token that does not belong there. -/
  | departs {type : ValueType} {read behind : List Token} {offending : Token}
      {fault : CheckFault} {moved : Cursor} :
      cursor.next.valueType? = some type → fault.area = .declaration →
      cursor.next :: cursor.ahead = read ++ offending :: behind → BeginsGroup symbols read →
      ¬BeginsGroup symbols (read ++ [offending]) →
        GroupEnd symbols cursor ⟨.answered (.refused fault), moved,
          symbols.extend (Group.symbols ⟨type, namesAmong read⟩)⟩

/-- A group does not get too deep. -/
theorem GroupEnd.outcome_ne_tooDeep {finish : Finish} (ended : GroupEnd symbols cursor finish) :
    finish.outcome ≠ .tooDeep := by
  cases ended <;> exact Outcome.noConfusion

/-- Without a type at its start a group is refused where it is. -/
theorem run_of_untyped (limit : Option Nat) (symbols : SymbolTable)
    (untyped : cursor.next.valueType? = none) :
    Rule.declaration.run limit symbols cursor =
      ⟨.answered (.refused (.kindRequired .keyword cursor.next)), cursor, symbols⟩ := by
  have left : step .groupHead symbols cursor.next =
      .leave (.refused (.kindRequired .keyword cursor.next)) := by
    simp only [step, untyped]
    rfl
  exact run_of_leave left

/-- A run in a group stops for the answer to its next token, not for lack of tokens or for the
nesting. -/
theorem stop_of_readsGroup {state : State} {moved : Cursor} {finish : Finish}
    (stop : Stop limit state table moved finish) (reads : state.ReadsGroup)
    (marked : EndMarked moved.tokens) :
    ∃ answer place, finish = ⟨.answered answer, place, table⟩ ∧
      (step state table moved.next = .leave answer ∨
        step state table moved.next = .takeLast answer) := by
  cases stop with
  | leave left => exact ⟨_, _, rfl, .inl left⟩
  | takeLast taken _ => exact ⟨_, _, rfl, .inr taken⟩
  | exhausted goesOn last =>
      obtain ⟨answer, left⟩ := exists_leave_of_ahead marked last state table
      exact absurd left (goesOn answer)
  | tooDeep taken _ deep =>
      have inside := readsGroup_of_transition (step_eq_take_iff.mp taken) reads
      rw [depth_of_readsGroup inside] at deep
      simp at deep

/-- A group that starts with a type is complete, or refused at the first token that does not belong
there. -/
theorem groupEnd_of_typed (limit : Option Nat) (symbols : SymbolTable) {type : ValueType}
    (typed : cursor.next.valueType? = some type) (marked : EndMarked cursor.tokens) :
    GroupEnd symbols cursor (Rule.declaration.run limit symbols cursor) := by
  obtain ⟨taken, state, table, moved, path, split, before, stop⟩ :=
    exists_path_of_resume limit Rule.declaration.start symbols cursor
  have tokens : moved.tokens = cursor.tokens := by
    rw [Cursor.tokens, Cursor.tokens, before, split, List.reverse_append, List.reverse_reverse,
      List.append_assoc]
  obtain ⟨answer, place, ended, stopped⟩ :=
    stop_of_readsGroup stop (readsGroup_of_path path trivial) (tokens ▸ marked)
  have read := read_of_path path (Read.start symbols .declaration)
  rw [List.nil_append] at read
  change GroupEnd symbols cursor (resume limit Rule.declaration.start symbols cursor)
  rw [ended]
  have reads := readsGroup_of_path path trivial
  generalize meaning : taken.map Token.lexeme = lexemes at read
  cases read with
  | groupHead =>
      -- Nothing is taken, but the type at the start would be.
      obtain rfl : taken = [] := List.map_eq_nil_iff.mp meaning
      have same : moved.next = cursor.next := (List.cons.inj split).1.symm
      simp only [step, same, typed] at stopped
      rcases stopped with left | taken
      · cases left
      · cases taken
  | @groupAlone _ group phase _ open_ =>
      -- The first token taken is the type at the start.
      obtain ⟨first, others, rfl, typeMeaning, -⟩ := List.map_eq_cons_iff.mp meaning
      obtain rfl : cursor.next = first := (List.cons.inj split).1
      obtain rfl : type = group.type := by
        rw [Token.valueType?, typeMeaning] at typed
        have same := (valueType?_eq_some_iff _ group.type).mpr rfl
        exact Option.some.inj (typed.symm.trans same)
      rcases stepGroup_cases group.type phase table moved.next with
        ⟨state', symbols', taken⟩ | ⟨rfl, semicolon, last⟩ | ⟨fault, area, refused⟩
      · -- The run does not stop before a token that is taken.
        simp only [step, taken] at stopped
        rcases stopped with left | last
        · cases left
        · cases last
      · have complete : ((cursor.next :: others) ++ [moved.next]).map Token.lexeme =
            group.lexemes := by
          rw [List.map_append, meaning, open_.lexemes_eq, List.map_singleton, semicolon]
        simp only [step, last] at stopped
        rcases stopped with left | taken
        · cases left
        · cases taken
          rw [open_.extended]
          have whole : cursor.next :: cursor.ahead =
              ((cursor.next :: others) ++ [moved.next]) ++ moved.ahead := by
            rw [split, List.append_assoc, List.singleton_append]
          exact .complete ⟨⟨open_.isValid, open_.fresh⟩, complete, whole⟩
      · have departs := not_beginsGroup_of_refused path refused
        have declared : table = symbols.extend
            (Group.symbols ⟨group.type, namesAmong (cursor.next :: others)⟩) := by
          rw [open_.namesAmong_eq meaning]
          exact open_.extended
        obtain rfl : answer = .refused fault := by
          simp only [step] at stopped
          rcases refused with left | left <;> simp_all
        rw [declared]
        exact .departs typed area split (open_.beginsGroup meaning) departs
  | _ => cases reads

/-- A group that is read alone ends in one of these ways. -/
theorem groupEnd_of_run (limit : Option Nat) (symbols : SymbolTable) (cursor : Cursor)
    (marked : EndMarked cursor.tokens) :
    GroupEnd symbols cursor (Rule.declaration.run limit symbols cursor) := by
  cases typed : cursor.next.valueType? with
  | none =>
      rw [run_of_untyped limit symbols typed]
      exact .untyped typed rfl
  | some type => exact groupEnd_of_typed limit symbols typed marked

/-! ## Which groups are accepted -/

/-- A group has a token for its type, and two for each of its names. -/
theorem length_lexemes_of_isValid (valid : group.IsValid) :
    group.lexemes.length = 2 * group.names.length + 1 := by
  have some := List.length_pos_iff.mpr valid.1
  simp only [Group.lexemes, List.length_append, List.length_cons, List.length_intersperse,
    List.length_map, List.length_nil]
  omega

/-- A group that may be declared is accepted where it stands. -/
theorem run_of_stands (limit : Option Nat) {written behind : List Token}
    (stands : Stands symbols cursor group written behind) (marked : EndMarked cursor.tokens) :
    ∃ moved : Cursor,
      Rule.declaration.run limit symbols cursor =
          ⟨.answered (.accepted none), moved, symbols.extend group.symbols⟩ ∧
        moved.before = written.reverse ++ cursor.before ∧ moved.next :: moved.ahead = behind := by
  obtain ⟨declarable, spelled, split⟩ := stands
  rw [Group.lexemes] at spelled
  obtain ⟨front, last, rfl, frontMeaning, lastMeaning⟩ := List.map_eq_append_iff.mp spelled
  obtain ⟨semicolon, rfl, meaning⟩ : ∃ token, last = [token] ∧
      token.lexeme = .separator .semicolon := by
    obtain ⟨token, rest, rfl, meaning, none⟩ := List.map_eq_cons_iff.mp lastMeaning
    exact ⟨token, by rw [List.map_eq_nil_iff.mp none], meaning⟩
  rw [List.append_assoc, List.singleton_append] at split
  cases behind with
  | nil =>
      -- The last token of the stream is its end mark, and no semicolon.
      rw [endMarked_tokens_iff, split, EndMarked, List.getLast?_append] at marked
      have mark : semicolon.kind = .endOfInput := by simpa using marked
      have kind : semicolon.kind = .separator := kind_of_lexeme (by rw [meaning]; rfl)
      cases kind.symm.trans mark
  | cons token rest =>
      have path := declarable.path
      rw [← frontMeaning] at path
      have followed : (resume limit Rule.declaration.start symbols cursor).outcome = .tooDeep ∨ _ :=
        resume_of_path path split
      rcases followed with deep | ⟨current, same⟩
      · exact absurd deep (groupEnd_of_run limit symbols cursor marked).outcome_ne_tooDeep
      · have taken : step (.group group.type .afterName true) (symbols.extend group.symbols)
            semicolon = .takeLast (.accepted none) := by
          simp only [step, stepGroup, meaning, if_true]
        change resume limit Rule.declaration.start symbols cursor = _ at same
        refine ⟨⟨some semicolon, semicolon :: (front.reverse ++ cursor.before), token, rest⟩,
          ?_, by simp, rfl⟩
        change resume limit Rule.declaration.start symbols cursor = _
        rw [same]
        exact run_of_takeLast taken

/-- **The groups that are accepted.** A group that is read alone is accepted iff a group that may be
declared stands at the cursor: a type, and identifiers with commas between them up to a semicolon,
all distinct and none declared before. Then two tokens for each name and one more are taken, and the
names are declared in order, behind the symbols there were. Otherwise it is refused: without a type
at its start as a fault of the grammar, which declares nothing; with one as a fault of the
declaration, which declares the names before the first token that does not go on with such a
group. -/
theorem declaration_accepts_iff_group (limit : Option Nat) (symbols : SymbolTable)
    (cursor : Cursor) (marked : EndMarked cursor.tokens) :
    ((∃ type, (Rule.declaration.run limit symbols cursor).outcome = .answered (.accepted type)) ↔
        ∃ group written behind, Stands symbols cursor group written behind) ∧
      (∀ group written behind, Stands symbols cursor group written behind →
        ∃ moved : Cursor,
          Rule.declaration.run limit symbols cursor =
              ⟨.answered (.accepted none), moved, symbols.extend group.symbols⟩ ∧
            moved.position = cursor.position + (2 * group.names.length + 1) ∧
            moved.next :: moved.ahead = behind) ∧
      ((¬∃ group written behind, Stands symbols cursor group written behind) →
        (cursor.next.valueType? = none →
          ∃ (fault : CheckFault) (moved : Cursor), fault.area = .grammar ∧
            Rule.declaration.run limit symbols cursor =
              ⟨.answered (.refused fault), moved, symbols⟩) ∧
        ∀ type, cursor.next.valueType? = some type →
          ∃ (fault : CheckFault) (moved : Cursor) (read behind : List Token) (offending : Token),
            fault.area = .declaration ∧
              cursor.next :: cursor.ahead = read ++ offending :: behind ∧
              BeginsGroup symbols read ∧ ¬BeginsGroup symbols (read ++ [offending]) ∧
              Rule.declaration.run limit symbols cursor =
                ⟨.answered (.refused fault), moved,
                  symbols.extend (Group.symbols ⟨type, namesAmong read⟩)⟩) := by
  have ended := groupEnd_of_run limit symbols cursor marked
  refine ⟨⟨?_, ?_⟩, ?_, ?_⟩
  · rintro ⟨type, accepted⟩
    generalize Rule.declaration.run limit symbols cursor = finish at ended accepted
    cases ended with
    | untyped _ _ => cases accepted
    | complete stands => exact ⟨_, _, _, stands⟩
    | departs _ _ _ _ _ => cases accepted
  · rintro ⟨group, written, behind, stands⟩
    obtain ⟨moved, same, -, -⟩ := run_of_stands limit stands marked
    exact ⟨none, by rw [same]⟩
  · intro group written behind stands
    obtain ⟨moved, same, before, ahead⟩ := run_of_stands limit stands marked
    refine ⟨moved, same, ?_, ahead⟩
    have length : written.length = 2 * group.names.length + 1 := by
      rw [← length_lexemes_of_isValid stands.declarable.valid, ← stands.spelled, List.length_map]
    rw [Cursor.position, Cursor.position, before, List.length_append, List.length_reverse, length]
    omega
  · intro other
    generalize Rule.declaration.run limit symbols cursor = finish at ended
    cases ended with
    | @untyped fault untyped area =>
        refine ⟨fun _ => ⟨fault, cursor, area, rfl⟩, fun type typed => ?_⟩
        rw [untyped] at typed
        cases typed
    | complete stands => exact absurd ⟨_, _, _, stands⟩ other
    | @departs type read behind offending fault moved typed area split begins departs =>
        refine ⟨fun untyped => ?_, fun named sameType => ?_⟩
        · rw [typed] at untyped
          cases untyped
        · obtain rfl := Option.some.inj (typed.symm.trans sameType)
          exact ⟨fault, moved, read, behind, offending, area, split, begins, departs, rfl⟩

/-- A group of two names, as tokens. -/
def namePair : List Token :=
  [⟨.keyword, "integer"⟩, ⟨.name, "x"⟩, ⟨.separator, ","⟩, ⟨.name, "y"⟩, ⟨.separator, ";"⟩]

/-- The group stands at the start of its tokens. -/
theorem stands_namePair :
    Stands {} (.ofTokens namePair) ⟨.integer, ["x", "y"]⟩ namePair [Token.endOfInput] where
  declarable :=
    { valid := ⟨by simp, by decide +kernel⟩
      fresh := ⟨by decide, by simp⟩ }
  spelled := by decide +kernel
  split := by decide +kernel

/-- Both ends of a group: with its comma it is accepted, without the comma it is refused at its
second name and has declared the first one. -/
theorem declaration_accepts_iff_group_namePair :
    (∃ moved : Cursor,
        Rule.declaration.run (some nestingLimit) {} (.ofTokens namePair) =
            ⟨.answered (.accepted none), moved, ⟨[⟨"x", .integer⟩, ⟨"y", .integer⟩]⟩⟩ ∧
          moved.position = 6) ∧
      (¬∃ group written behind, Stands {} (.ofTokens (namePair.eraseIdx 2)) group written behind) ∧
      ∃ (fault : CheckFault) (read behind : List Token) (offending : Token),
        fault.area = .declaration ∧
          Token.withEnd (namePair.eraseIdx 2) = read ++ offending :: behind ∧
          BeginsGroup {} read ∧ ¬BeginsGroup {} (read ++ [offending]) ∧
          (Rule.declaration.run (some nestingLimit) {} (.ofTokens (namePair.eraseIdx 2))).outcome =
            .answered (.refused fault) ∧
          (Rule.declaration.run (some nestingLimit) {} (.ofTokens (namePair.eraseIdx 2))).symbols =
            ⟨[⟨"x", .integer⟩]⟩ := by
  have accepts :=
    declaration_accepts_iff_group (some nestingLimit) {} _ (endMarked_ofTokens namePair)
  obtain ⟨moved, same, position, -⟩ := accepts.2.1 _ _ _ stands_namePair
  obtain ⟨decides, -, otherwise⟩ :=
    declaration_accepts_iff_group (some nestingLimit) {} _
      (endMarked_ofTokens (namePair.eraseIdx 2))
  have other : ¬∃ group written behind,
      Stands {} (.ofTokens (namePair.eraseIdx 2)) group written behind := by
    intro stands
    obtain ⟨type, accepted⟩ := decides.mpr stands
    have refused : (Rule.declaration.run (some nestingLimit) {}
        (.ofTokens (namePair.eraseIdx 2))).outcome =
          .answered (.refused (.missingComma "y")) := by decide +kernel
    rw [refused] at accepted
    cases accepted
  obtain ⟨fault, ended, read, behind, offending, area, split, begins, departs, refused⟩ :=
    (otherwise other).2 .integer (by decide +kernel)
  refine ⟨⟨moved, same, position⟩, other, fault, read, behind, offending, area, ?_, begins, departs,
    by rw [refused], by decide +kernel⟩
  rw [← split]
  exact (split_ofTokens _).2.symm

end Checker

end Dopl
