import Dopl.Proofs.Checker.Frame
import Dopl.Proofs.Report
import Dopl.Proofs.Scanner.Shape

/-! # The symbols that a check leaves behind

Wherever a check ends, the declared symbols are the names it has read so far, up to some token: all
of them while it is in the declarations, and those of the declarations later on.

* **`typedNames`** — the names among some tokens, each with the type of the nearest type keyword
  before it.
* **`DeclaredBy`** — the symbols are the names among some tokens; **`DeclaredBy.step`** and
  **`DeclaredBy.path`** — a token keeps that, and so does a path.
* **`symbols_of_check`** — what a check leaves behind, and which rules leave all as it was. -/

namespace Dopl

/-! ## Names and their types -/

/-- The type of the nearest type keyword before a token. -/
def nearestType? (before : List Token) : Option ValueType :=
  before.findSome? Token.valueType?

/-- The names among some tokens, in order, each with the type of the nearest type keyword before it,
if there is one. The tokens before these are given with the nearest first. -/
def typedNames (before : List Token) : List Token → List (String × Option ValueType)
  | [] => []
  | token :: rest =>
    if token.kind = .name then
      (token.text, nearestType? before) :: typedNames (token :: before) rest
    else typedNames (token :: before) rest

/-- The name of the symbol with its type. -/
def Symbol.typedName (symbol : Symbol) : String × Option ValueType :=
  (symbol.name, some symbol.type)

/-- The names among two lists of tokens are those of the first and then those of the second. -/
theorem typedNames_append (before tokens others : List Token) :
    typedNames before (tokens ++ others) =
      typedNames before tokens ++ typedNames (tokens.reverse ++ before) others := by
  induction tokens generalizing before with
  | nil => rfl
  | cons token rest induction =>
      have behind := induction (token :: before)
      rw [List.reverse_cons, List.append_assoc]
      simp only [List.cons_append, List.nil_append, typedNames]
      split
      · rw [behind, List.cons_append]
      · exact behind

/-- A name among some tokens is one of them. -/
theorem mem_of_mem_typedNames {before tokens : List Token} {typed : String × Option ValueType}
    (member : typed ∈ typedNames before tokens) : ⟨.name, typed.1⟩ ∈ tokens := by
  induction tokens generalizing before with
  | nil => cases member
  | cons token rest induction =>
      unfold typedNames at member
      split at member
      · next name =>
        rcases List.mem_cons.mp member with rfl | later
        · rw [← name]
          exact List.mem_cons_self
        · exact List.mem_cons_of_mem token (induction later)
      · exact List.mem_cons_of_mem token (induction member)

namespace Checker

/-! ## Symbols and the names read -/

/-- What is declared in a state, by the tokens read on the way to it. -/
structure DeclaredBy (read : List Token) (state : State) (symbols : SymbolTable) : Prop where
  /-- The symbols are the names among the first tokens. -/
  names : ∃ count ≤ read.length,
    symbols.symbols.map Symbol.typedName = typedNames [] (read.take count)
  /-- In the declarations these are all tokens. -/
  all : state.Declares → symbols.symbols.map Symbol.typedName = typedNames [] read
  /-- In a group, the nearest type keyword is that of the group. -/
  type : ∀ type phase alone, state = .group type phase alone →
    nearestType? read.reverse = some type
  /-- No name is declared twice. -/
  distinct : (symbols.symbols.map Symbol.name).Nodup
  /-- All names are identifiers. -/
  identifiers : ∀ symbol ∈ symbols.symbols, isIdentifier symbol.name = true

namespace DeclaredBy

variable {read : List Token} {token : Token} {symbols symbols' : SymbolTable}
  {state state' : State}

/-- At the start of a program nothing is declared. -/
theorem start : DeclaredBy [] .opening {} :=
  ⟨⟨0, Nat.le_refl 0, rfl⟩, fun _ => rfl, nofun, List.nodup_nil, nofun⟩

/-- In the declarations, a token that is no name declares nothing. -/
theorem skip (declared : DeclaredBy read state symbols) (declares : state.Declares)
    (unnamed : token.kind ≠ .name)
    (type : ∀ type phase alone, state' = .group type phase alone →
      nearestType? (token :: read.reverse) = some type) :
    DeclaredBy (read ++ [token]) state' symbols := by
  have all : symbols.symbols.map Symbol.typedName = typedNames [] (read ++ [token]) := by
    rw [typedNames_append, declared.all declares, typedNames, if_neg unnamed, typedNames,
      List.append_nil]
  refine ⟨⟨_, Nat.le_refl _, ?_⟩, fun _ => all, ?_, declared.distinct, declared.identifiers⟩
  · rw [List.take_length]
    exact all
  · rw [List.reverse_append]
    exact type

/-- A type keyword opens a group of its type. -/
theorem openGroup (declared : DeclaredBy read state symbols) (declares : state.Declares)
    {keyword : Keyword} {type : ValueType} (meaning : token.lexeme = .keyword keyword)
    (names : keyword.valueType? = some type) (phase : GroupPhase) (alone : Bool) :
    DeclaredBy (read ++ [token]) (.group type phase alone) symbols := by
  have unnamed : token.kind ≠ .name := by
    rw [(text_of_lexeme_keyword meaning).1]
    decide
  have named : token.valueType? = some type := by
    rw [Token.valueType?, meaning]
    exact names
  refine declared.skip declares unnamed fun other _ _ same => ?_
  cases same
  rw [nearestType?, List.findSome?_cons, named]

/-- A separator goes on with a group or closes it. -/
theorem separator {type : ValueType} {phase : GroupPhase} {alone : Bool}
    (declared : DeclaredBy read (.group type phase alone) symbols) {separator : Separator}
    (meaning : token.lexeme = .separator separator)
    (stays : ∀ other phase alone, state' = .group other phase alone → other = type) :
    DeclaredBy (read ++ [token]) state' symbols := by
  have unnamed : token.kind ≠ .name := by
    rw [(text_of_lexeme_separator meaning).1]
    decide
  have unnamedType : token.valueType? = none := by
    rw [Token.valueType?, meaning]
  refine declared.skip trivial unnamed fun other phase alone same => ?_
  rw [stays other phase alone same, nearestType?, List.findSome?_cons, unnamedType]
  exact declared.type _ _ _ rfl

/-- A name of a group is declared with the type of the nearest type keyword. -/
theorem name {type : ValueType} {phase : GroupPhase} {alone : Bool}
    (declared : DeclaredBy read (.group type phase alone) symbols) {name : String}
    (meaning : token.lexeme = .name name) (identifier : isIdentifier name = true)
    (added : symbols.declare? name type = some symbols') (next : GroupPhase) :
    DeclaredBy (read ++ [token]) (.group type next alone) symbols' := by
  obtain rfl := eq_of_lexeme_name meaning
  obtain ⟨fresh, rfl⟩ := (SymbolTable.declare?_eq_some_iff symbols symbols' name type).mp added
  have nearest := declared.type _ _ _ rfl
  have all : (symbols.insert ⟨name, type⟩).symbols.map Symbol.typedName =
      typedNames [] (read ++ [⟨.name, name⟩]) := by
    rw [SymbolTable.insert, List.map_append, declared.all trivial, typedNames_append, typedNames,
      if_pos rfl, typedNames, List.append_nil, nearest]
    rfl
  refine ⟨⟨_, Nat.le_refl _, ?_⟩, fun _ => all, ?_, ?_, ?_⟩
  · rw [List.take_length]
    exact all
  · intro other _ _ same
    cases same
    rw [List.reverse_append]
    exact nearest
  · rw [SymbolTable.insert, List.map_append, List.map_singleton]
    refine List.nodup_append.mpr ⟨declared.distinct, by simp, ?_⟩
    intro before member last same
    obtain ⟨symbol, present, rfl⟩ := List.mem_map.mp member
    rw [List.mem_singleton.mp same]
    exact fresh symbol present
  · intro symbol member
    rcases List.mem_append.mp member with before | last
    · exact declared.identifiers symbol before
    · rw [List.mem_singleton.mp last]
      exact identifier

/-- Behind the declarations nothing more is declared. -/
theorem behind (declared : DeclaredBy read state symbols) (ends : ¬state'.Declares) :
    DeclaredBy (read ++ [token]) state' symbols := by
  obtain ⟨count, within, same⟩ := declared.names
  refine ⟨⟨count, ?_, ?_⟩, fun declares => absurd declares ends, ?_, declared.distinct,
    declared.identifiers⟩
  · rw [List.length_append]
    omega
  · rw [List.take_append_of_le_length within]
    exact same
  · rintro _ _ _ rfl
    exact absurd trivial ends

/-- **A token keeps the declared symbols the names read so far**, or those of the declarations. -/
theorem step (declared : DeclaredBy read state symbols)
    (transition : Transition symbols state token.lexeme state' symbols') :
    DeclaredBy (read ++ [token]) state' symbols' := by
  by_cases declares : state.Declares
  · generalize meaning : token.lexeme = lexeme at transition
    cases transition with
    | opening =>
        have unnamed : token.kind ≠ .name := by
          rw [(text_of_lexeme_keyword meaning).1]
          decide
        exact declared.skip declares unnamed nofun
    | group names => exact declared.openGroup declares meaning names .empty false
    | groupHead names => exact declared.openGroup declares meaning names .empty true
    | statement moved =>
        obtain ⟨ends, rfl⟩ := frame_of_transition moved id
        exact declared.behind ends
    | groupEnd => exact declared.separator meaning nofun
    | comma => exact declared.separator meaning fun _ _ _ same => by cases same; rfl
    | name _ identifier added => exact declared.name meaning identifier added .afterName
    | _ => exact declares.elim
  · obtain ⟨ends, rfl⟩ := frame_of_transition transition declares
    exact declared.behind ends

/-- A path keeps the declared symbols the names read so far, or those of the declarations. -/
theorem path {taken : List Token} (declared : DeclaredBy read state symbols)
    (path : Path symbols state (taken.map Token.lexeme) state' symbols') :
    DeclaredBy (read ++ taken) state' symbols' := by
  induction taken generalizing read state symbols with
  | nil =>
      cases path
      rw [List.append_nil]
      exact declared
  | cons token rest induction =>
      cases path with
      | step transition further =>
          rw [List.append_cons]
          exact induction (declared.step transition) further

end DeclaredBy

/-! ## Checks -/

/-- What stands before a token of a stream stands in the tokens it was made of. -/
theorem prefix_of_withEnd {tokens read ahead : List Token} {next : Token}
    (split : Token.withEnd tokens = read ++ next :: ahead) : read <+: tokens := by
  have whole : read <+: Token.withEnd tokens := ⟨next :: ahead, split.symm⟩
  have longer : tokens <+: Token.withEnd tokens ∧ (Token.withEnd tokens).length ≤
      tokens.length + 1 := by
    unfold Token.withEnd
    split
    · exact ⟨List.prefix_rfl, Nat.le_succ _⟩
    · exact ⟨List.prefix_append tokens _, by simp⟩
  refine List.prefix_of_prefix_length_le whole longer.1 ?_
  have size := congrArg List.length split
  rw [List.length_append, List.length_cons] at size
  omega

/-- A run of a program ends behind some of its tokens, with the symbols that these declare. -/
theorem exists_declared_of_run (limit : Option Nat) (tokens : List Token) :
    ∃ read state, read <+: tokens ∧
      read.length ≤ (Rule.program.run limit {} (.ofTokens tokens)).cursor.position ∧
      DeclaredBy read state (Rule.program.run limit {} (.ofTokens tokens)).symbols := by
  obtain ⟨taken, state, table, moved, path, split, before, stop⟩ :=
    exists_path_of_resume limit .opening {} (.ofTokens tokens)
  rw [(split_ofTokens tokens).2] at split
  rw [(split_ofTokens tokens).1, List.append_nil] at before
  have declared := DeclaredBy.start.path path
  rw [List.nil_append] at declared
  have begins : taken <+: tokens := prefix_of_withEnd split
  have placed : moved.position = taken.length + 1 := by
    rw [Cursor.position, before, List.length_reverse]
  show ∃ read state, read <+: tokens ∧
    read.length ≤ (resume limit .opening {} (.ofTokens tokens)).cursor.position ∧
      DeclaredBy read state (resume limit .opening {} (.ofTokens tokens)).symbols
  generalize resume limit .opening {} (.ofTokens tokens) = finish at stop
  cases stop with
  | leave _ =>
      refine ⟨taken, state, begins, ?_, declared⟩
      show taken.length ≤ moved.position
      omega
  | takeLast _ advanced =>
      refine ⟨taken, state, begins, ?_, declared⟩
      rw [Cursor.position_of_advance? advanced]
      omega
  | exhausted _ _ =>
      refine ⟨taken, state, begins, ?_, declared⟩
      show taken.length ≤ moved.position
      omega
  | @tooDeep state' symbols' further took advanced _ =>
      -- One token more is taken, and it may be a name that is declared.
      have more := declared.step (step_eq_take_iff.mp took)
      refine ⟨taken ++ [moved.next], state', ?_, ?_, more⟩
      · obtain ⟨current, before, next, ahead⟩ := moved
        cases ahead with
        | nil => cases advanced
        | cons token rest =>
            rw [List.append_cons] at split
            exact prefix_of_withEnd split
      · rw [Cursor.position_of_advance? advanced, List.length_append, List.length_singleton]
        omega

/-- The rules for statements and expressions. -/
def Rule.ofStatements : List Rule :=
  [.statement, .statements, .condition, .expression, .term, .primary]

/-- The rules for statements and expressions start behind the declarations. -/
theorem not_declares_start {rule : Rule} (member : rule ∈ Rule.ofStatements) :
    ¬rule.start.Declares := by
  cases rule with
  | program => exact absurd member (by decide)
  | declaration => exact absurd member (by decide)
  | _ => exact id

/-- A rule for statements or expressions leaves the symbols and the tokens of a session as they
are. -/
theorem frame_of_rule (limit : Option Nat) {rule : Rule} (member : rule ∈ Rule.ofStatements)
    (session : Session) :
    (session.perform limit (.rule rule)).1.symbols = session.symbols ∧
      (session.perform limit (.rule rule)).1.cursor.map Cursor.tokens =
        session.cursor.map Cursor.tokens := by
  rw [Session.perform, Session.withNext]
  cases held : session.cursor with
  | none => exact ⟨rfl, by rw [Option.elim_none, held]⟩
  | some cursor =>
      have symbols := frame_of_run limit session.symbols cursor (not_declares_start member)
      have tokens := tokens_of_run limit rule.start session.symbols cursor
      exact ⟨symbols, congrArg some tokens⟩

/-- A name that the scanner makes is no keyword. -/
theorem ofText?_of_scanned {token : Token} (scanned : token.IsScanned) (name : token.kind = .name) :
    Keyword.ofText? token.text = none := by
  cases scanned with
  | @word word _ _ =>
      rw [← Option.not_isSome_iff_eq_none]
      intro keyword
      rw [wordKind, if_pos keyword] at name
      cases name
  | @piece piece _ _ made =>
      cases piece <;> cases made <;> cases name

/-- **The symbols that a check leaves behind.** Whether a source that scans without an error is
accepted or refused, and wherever its check ends, the declared symbols are the names among its first
tokens, in order, each with the type of the nearest type keyword before it. No name among them
stands there twice, each is an identifier, and none is a keyword. The rules for statements and
expressions change neither the symbols nor the tokens, however they end. -/
theorem symbols_of_check (limit : Option Nat) :
    (∀ source : Source, (scan source).errors = #[] →
      ∃ cursor, (checkWithin limit source).cursor = some cursor ∧
        ∃ count ≤ cursor.position,
          (checkWithin limit source).symbols.symbols.map Symbol.typedName =
              typedNames [] ((scan source).tokens.toList.take count) ∧
            ((checkWithin limit source).symbols.symbols.map Symbol.name).Nodup ∧
            ∀ symbol ∈ (checkWithin limit source).symbols.symbols,
              isIdentifier symbol.name = true ∧ Keyword.ofText? symbol.name = none) ∧
    ∀ rule ∈ Rule.ofStatements, ∀ session : Session,
      (session.perform limit (.rule rule)).1.symbols = session.symbols ∧
        (session.perform limit (.rule rule)).1.cursor.map Cursor.tokens =
          session.cursor.map Cursor.tokens := by
  refine ⟨fun source clean => ?_, fun rule member => frame_of_rule limit member⟩
  rw [checkWithin_of_errors_eq_empty limit clean]
  refine ⟨_, rfl, ?_⟩
  obtain ⟨read, state, begins, within, declared⟩ :=
    exists_declared_of_run limit (scan source).tokens.toList
  obtain ⟨count, less, names⟩ := declared.names
  have same : (scan source).tokens.toList.take count = read.take count := by
    rw [List.prefix_iff_eq_take.mp begins, List.take_take, Nat.min_eq_left less]
  refine ⟨count, Nat.le_trans less within, ?_, declared.distinct, fun symbol member => ?_⟩
  · rw [same]
    exact names
  · -- The symbol is one of the names read, and these are tokens of the scan.
    have typed : symbol.typedName ∈ typedNames [] (read.take count) := by
      rw [← names]
      exact List.mem_map_of_mem member
    have token : ⟨.name, symbol.name⟩ ∈ (scan source).tokens.toList :=
      begins.subset (List.mem_of_mem_take (mem_of_mem_typedNames typed))
    exact ⟨declared.identifiers symbol member,
      ofText?_of_scanned (isScanned_of_mem_scan (Array.mem_def.mpr token)) rfl⟩

/-- A check that ends inside its second group leaves what both groups declare by then, and a
statement alone declares nothing. -/
theorem symbols_of_check_secondGroup :
    (scan (.text "start integer x, y; logical z w; finish")).errors = #[] ∧
      (checkWithin (some nestingLimit) (.text "start integer x, y; logical z w; finish")).symbols =
        ⟨[⟨"x", .integer⟩, ⟨"y", .integer⟩, ⟨"z", .logical⟩]⟩ ∧
      (∃ cursor, (checkWithin (some nestingLimit)
          (.text "start integer x, y; logical z w; finish")).cursor = some cursor ∧
        ∃ count ≤ cursor.position,
          (checkWithin (some nestingLimit)
              (.text "start integer x, y; logical z w; finish")).symbols.symbols.map
                Symbol.typedName =
            typedNames [] ((scan (.text "start integer x, y; logical z w; finish")).tokens.toList.take
              count)) ∧
      ((Session.ofTokens [⟨.name, "x"⟩]).perform none (.rule .statement)).1.symbols = {} := by
  have clean : (scan (.text "start integer x, y; logical z w; finish")).errors = #[] := by
    decide +kernel
  refine ⟨clean, by decide +kernel, ?_, ?_⟩
  · obtain ⟨cursor, held, count, within, names, -⟩ :=
      (symbols_of_check (some nestingLimit)).1 _ clean
    exact ⟨cursor, held, count, within, names⟩
  · exact ((symbols_of_check none).2 .statement (by decide) _).1

end Checker

end Dopl
