import Dopl.Proofs.Checker.Acceptance
import Dopl.Proofs.Checker.Nesting
import Dopl.Proofs.Checker.ShapedPath
import Mathlib.Data.List.Perm.Basic

/-! # The order of declarations and statements

In whatever order its groups of declarations stand, and its statements, a program is accepted or
not. A statement depends on the groups only through what its names are.

* **`programTokens`** — a program from its groups and its statements, and **`Accepts`** — it is
  accepted.
* **`Fits`** — a statement can be read where some symbols are declared.
* **`accepts_iff`** — a program is accepted iff its groups can be read and its statements fit what
  they declare.
* **`accepts_iff_of_perm`** — what that makes of another order, and of one statement at a time. -/

namespace Dopl.Checker

open Grammar

/-! ## Programs from their parts -/

/-- The tokens of a program, from those of its groups of declarations and its statements. -/
def programTokens (groups statements : List (List Token)) : List Token :=
  ⟨.keyword, "start"⟩ :: groups.flatten ++ statements.flatten ++ [⟨.keyword, "finish"⟩]

/-- The tokens are accepted as a program, within a limit on the nesting. -/
def Accepts (limit : Option Nat) (tokens : List Token) : Prop :=
  (Rule.program.run limit {} (.ofTokens tokens)).outcome = .answered (.accepted none)

/-- Whether tokens are accepted can be decided. -/
instance (limit : Option Nat) (tokens : List Token) : Decidable (Accepts limit tokens) :=
  inferInstanceAs (Decidable (_ = _))

/-- The parts have the shape of groups and of statements. -/
structure Shaped (groups statements : List (List Token)) : Prop where
  /-- Each of the first is a group of declarations, but for what its names look like. -/
  group : ∀ group ∈ groups, Shape.Group (group.map Token.lexeme)
  /-- Each of the others is a statement, but for names and types. -/
  statement : ∀ statement ∈ statements, Shape.Statement (statement.map Token.lexeme)

/-- The lexemes of a program, part by part. -/
theorem map_lexeme_programTokens (groups statements : List (List Token)) :
    (programTokens groups statements).map Token.lexeme =
      .keyword .start :: ((groups.map (List.map Token.lexeme)).flatten ++
        ((statements.map (List.map Token.lexeme)).flatten ++ [.keyword .finish])) := by
  simp only [programTokens, List.map_append, List.map_cons, List.map_flatten, List.map_nil,
    List.cons_append, List.append_assoc]
  rfl

/-- No end mark stands in a program. -/
theorem unmarked_programTokens {groups statements : List (List Token)}
    (shaped : Shaped groups statements) :
    ∀ token ∈ programTokens groups statements, token.kind ≠ .endOfInput := by
  intro token member
  simp only [programTokens, List.cons_append, List.mem_cons, List.mem_append, List.mem_flatten,
    List.not_mem_nil, or_false] at member
  rcases member with rfl | (⟨group, listed, inside⟩ | ⟨statement, listed, inside⟩) | rfl
  · decide
  · refine kind_ne_of_lexeme_ne fun marks => (shaped.group group listed).unmarked ?_
    exact marks ▸ List.mem_map_of_mem inside
  · refine kind_ne_of_lexeme_ne fun marks => (shaped.statement statement listed).unmarked ?_
    exact marks ▸ List.mem_map_of_mem inside
  · decide

/-! ## Paths through programs -/

section

variable {table table' : SymbolTable} {lexemes : List Lexeme} {state' : State}
  {groups statements : List (List Lexeme)}

/-- The place of a statement outside all bodies of a program. -/
def topLevel : Nest :=
  { outermost := .program }

/-- What starts with no type leads on from the place of a group as from that of a statement. -/
theorem path_declarations_iff {first : Lexeme}
    (apart : ∀ keyword, first = .keyword keyword → keyword.valueType? = none) :
    Path table .declarations (first :: lexemes) state' table' ↔
      Path table (.statement topLevel) (first :: lexemes) state' table' := by
  refine ⟨fun path => ?_, path_of_statement (List.cons_ne_nil first lexemes)⟩
  obtain ⟨between, middle, transition, further⟩ := Path.cons_iff.mp path
  cases transition with
  | group named =>
      rw [apart _ rfl] at named
      cases named
  | statement transition => exact .step transition further

/-- Behind the groups of a program, its statements and the last keyword start with no type. -/
theorem exists_start_of_statements (shapes : ∀ lexemes ∈ statements, Shape.Statement lexemes) :
    ∃ first rest, statements.flatten ++ [.keyword .finish] = first :: rest ∧
      ∀ keyword, first = .keyword keyword → keyword.valueType? = none := by
  cases statements with
  | nil =>
      refine ⟨.keyword .finish, [], rfl, fun keyword same => ?_⟩
      cases same
      rfl
  | cons statement others =>
      obtain ⟨first, rest, rfl, apart⟩ := (shapes statement List.mem_cons_self).exists_eq_cons
      exact ⟨first, _, rfl, apart⟩

/-- Statements can be read one behind the other iff each can be read alone. -/
theorem path_statements_iff {nest : Nest}
    (shapes : ∀ lexemes ∈ statements, Shape.Statement lexemes) :
    Path table (.statement nest) statements.flatten (.statement nest) table ↔
      ∀ lexemes ∈ statements, Path table (.statement nest) lexemes (.statement nest) table := by
  induction statements with
  | nil => simp [Path.nil_iff]
  | cons first rest induction =>
      obtain ⟨shape, others⟩ := List.forall_mem_cons.mp shapes
      rw [List.flatten_cons, List.forall_mem_cons, ← induction others, Path.append_iff]
      constructor
      · rintro ⟨between, middle, before, behind⟩
        obtain rfl := state_of_statement shape before
        obtain ⟨-, rfl⟩ := frame_of_path before id
        exact ⟨before, behind⟩
      · rintro ⟨before, behind⟩
        exact ⟨_, _, before, behind⟩

/-- A program can be read iff its groups can, and behind them each of its statements alone. -/
theorem path_program_iff (groupShapes : ∀ lexemes ∈ groups, Shape.Group lexemes)
    (shapes : ∀ lexemes ∈ statements, Shape.Statement lexemes) :
    Path {} .opening
        (.keyword .start :: (groups.flatten ++ (statements.flatten ++ [.keyword .finish])))
        .trailer table ↔
      Path {} .declarations groups.flatten .declarations table ∧
        ∀ lexemes ∈ statements,
          Path table (.statement topLevel) lexemes (.statement topLevel) table := by
  rw [← path_statements_iff shapes]
  obtain ⟨first, rest, starts, apart⟩ := exists_start_of_statements shapes
  constructor
  · intro path
    obtain ⟨_, _, opens, further⟩ := Path.cons_iff.mp path
    cases opens
    obtain ⟨_, _, header, body⟩ := Path.append_iff.mp further
    obtain ⟨rfl, -⟩ := exists_header_of_shapes groupShapes header
    rw [starts, path_declarations_iff apart, ← starts] at body
    obtain ⟨_, _, inside, last⟩ := Path.append_iff.mp body
    obtain rfl := state_of_statements (Shape.Statements.flatten shapes) inside
    obtain ⟨-, rfl⟩ := frame_of_path inside id
    cases Path.singleton_iff.mp last with
    | finish => exact ⟨header, inside⟩
  · rintro ⟨header, body⟩
    have rest := body.snoc .finish
    rw [starts, ← path_declarations_iff apart, ← starts] at rest
    exact .step .opening (header.append rest)

/-- Along groups no nest is opened. -/
theorem not_exceeds_groups (shapes : ∀ lexemes ∈ groups, Shape.Group lexemes) (bound : Nat)
    (nesting : Nesting) : ¬nesting.Exceeds bound groups.flatten := by
  refine Nesting.not_exceeds_of_flat fun lexeme member => ?_
  obtain ⟨group, listed, inside⟩ := List.mem_flatten.mp member
  rcases (shapes group listed).mem_cases inside with ⟨keyword, named, rfl⟩ | ⟨_, rfl⟩ | rfl | rfl
  · cases keyword <;> first | rfl | cases named
  · rfl
  · rfl
  · rfl

/-- A program enters a nest beyond a limit iff one of its statements does by itself. -/
theorem exceeds_program_iff {bound : Nat} (shapes : ∀ lexemes ∈ groups, Shape.Group lexemes)
    (header : Path {} .declarations groups.flatten .declarations table)
    (body : ∀ lexemes ∈ statements,
      Path table (.statement topLevel) lexemes (.statement topLevel) table) :
    ({} : Nesting).Exceeds bound
        (.keyword .start :: (groups.flatten ++ (statements.flatten ++ [.keyword .finish]))) ↔
      ∃ lexemes ∈ statements, ({} : Nesting).Exceeds bound lexemes := by
  have closed : ∀ lexemes ∈ statements, lexemes.foldl Nesting.behind {} = {} :=
    fun lexemes member => (nesting_of_path (body lexemes member)).symm
  have opened : ({} : Nesting).behind (.keyword .start) = {} := rfl
  have behind : groups.flatten.foldl Nesting.behind {} = {} := (nesting_of_path header).symm
  rw [Nesting.exceeds_cons, opened, Nesting.exceeds_append, behind, Nesting.exceeds_append,
    Nesting.exceeds_flatten closed]
  have flat : ∀ nesting : Nesting, ¬nesting.Exceeds bound [.keyword .finish] :=
    fun nesting => Nesting.not_exceeds_of_flat (by simp [Lexeme.opensNest])
  simp [Lexeme.opensNest, not_exceeds_groups shapes, flat]

end

/-! ## Accepted programs -/

/-- Without a limit, tokens that can be read as a program are accepted, and all are taken. -/
theorem exists_free_run {tokens : List Token} {table : SymbolTable}
    (unmarked : ∀ token ∈ tokens, token.kind ≠ .endOfInput)
    (path : Path {} .opening (tokens.map Token.lexeme) .trailer table) :
    ∃ current, Rule.program.run none {} (.ofTokens tokens) =
      ⟨.answered (.accepted none), ⟨current, tokens.reverse, Token.endOfInput, []⟩, table⟩ := by
  rcases @run_of_program none _ _ unmarked ((path_iff_program _ _).mp path) with deep | accepted
  · exact absurd deep (run_none_ne_tooDeep _ _ _ _ _ _)
  · exact accepted

/-- Such a run enters a nest beyond a limit iff its tokens do. -/
theorem entersBeyond_iff {tokens : List Token} {table : SymbolTable} {bound : Nat}
    (unmarked : ∀ token ∈ tokens, token.kind ≠ .endOfInput)
    (path : Path {} .opening (tokens.map Token.lexeme) .trailer table) :
    Rule.program.EntersBeyond bound {} (.ofTokens tokens) ↔
      ({} : Nesting).Exceeds bound (tokens.map Token.lexeme) := by
  obtain ⟨current, same⟩ := exists_free_run unmarked path
  have taken : (Rule.program.run none {} (.ofTokens tokens)).cursor.takenSince (.ofTokens tokens) =
      tokens := by
    refine takenSince_eq ?_
    rw [same, (split_ofTokens tokens).1, List.append_nil]
  rw [Rule.EntersBeyond, taken]

/-- Tokens are accepted as a program iff they can be read as one and enter no nest beyond the
limit. -/
theorem accepts_iff_path {limit : Option Nat} {tokens : List Token}
    (unmarked : ∀ token ∈ tokens, token.kind ≠ .endOfInput) :
    Accepts limit tokens ↔
      (∃ table, Path {} .opening (tokens.map Token.lexeme) .trailer table) ∧
        ∀ bound ∈ limit, ¬({} : Nesting).Exceeds bound (tokens.map Token.lexeme) := by
  constructor
  · intro accepted
    have uncaused : (Rule.program.run limit {} (.ofTokens tokens)).cause? = none := by
      rw [Finish.cause?, accepted]
    obtain ⟨table, path⟩ := exists_path_of_accepted unmarked uncaused
    refine ⟨⟨table, path⟩, fun bound limited exceeds => ?_⟩
    obtain rfl := Option.mem_def.mp limited
    have deep := (rule_within bound _ _ _).1 ((entersBeyond_iff unmarked path).mpr exceeds)
    rw [Accepts, deep] at accepted
    cases accepted
  · rintro ⟨⟨table, path⟩, shallow⟩
    obtain ⟨current, free⟩ := exists_free_run unmarked path
    cases limit with
    | none => rw [Accepts, free]
    | some bound =>
        have stays := fun enters => shallow bound rfl ((entersBeyond_iff unmarked path).mp enters)
        rw [Accepts, (rule_within bound _ _ _).2 stays, free]

/-- A statement fits a symbol table: it can be read where these symbols are declared, and enters no
nest beyond the limit. -/
structure Fits (limit : Option Nat) (table : SymbolTable) (statement : List Token) : Prop where
  /-- It leads back to where a statement may stand. -/
  path : Path table (.statement topLevel) (statement.map Token.lexeme) (.statement topLevel) table
  /-- Its nests stay within the limit. -/
  shallow : ∀ bound ∈ limit, ¬({} : Nesting).Exceeds bound (statement.map Token.lexeme)

/-- The groups can be read one behind the other and declare a symbol table. -/
def Declare (groups : List (List Token)) (table : SymbolTable) : Prop :=
  Path {} .declarations (groups.map (List.map Token.lexeme)).flatten .declarations table

/-- **A program is accepted iff its groups declare a symbol table and each statement fits it.** -/
theorem accepts_iff (limit : Option Nat) {groups statements : List (List Token)}
    (shaped : Shaped groups statements) :
    Accepts limit (programTokens groups statements) ↔
      ∃ table, Declare groups table ∧ ∀ statement ∈ statements, Fits limit table statement := by
  have groupShapes : ∀ lexemes ∈ groups.map (List.map Token.lexeme), Shape.Group lexemes := by
    simpa using shaped.group
  have shapes : ∀ lexemes ∈ statements.map (List.map Token.lexeme), Shape.Statement lexemes := by
    simpa using shaped.statement
  rw [accepts_iff_path (unmarked_programTokens shaped), map_lexeme_programTokens]
  simp only [path_program_iff groupShapes shapes]
  constructor
  · rintro ⟨⟨table, declares, body⟩, shallow⟩
    refine ⟨table, declares, fun statement member => ?_⟩
    have listed := @List.mem_map_of_mem _ _ _ _ (List.map Token.lexeme) member
    refine ⟨body _ listed, fun bound limited exceeds => shallow bound limited ?_⟩
    exact (exceeds_program_iff groupShapes declares body).mpr ⟨_, listed, exceeds⟩
  · rintro ⟨table, declares, fits⟩
    have body : ∀ lexemes ∈ statements.map (List.map Token.lexeme),
        Path table (.statement topLevel) lexemes (.statement topLevel) table := by
      simpa using fun statement member => (fits statement member).path
    refine ⟨⟨table, declares, body⟩, fun bound limited exceeds => ?_⟩
    obtain ⟨_, listed, exceeds⟩ := (exceeds_program_iff groupShapes declares body).mp exceeds
    obtain ⟨statement, member, rfl⟩ := List.mem_map.mp listed
    exact (fits statement member).shallow bound limited exceeds

/-! ## Another order -/

/-- In another order the parts have the same shapes. -/
theorem Shaped.of_perm {groups groups' statements statements' : List (List Token)}
    (shaped : Shaped groups statements) (groupsPerm : groups'.Perm groups)
    (statementsPerm : statements'.Perm statements) : Shaped groups' statements' := by
  constructor
  · intro group member
    exact shaped.group group (groupsPerm.mem_iff.mp member)
  · intro statement member
    exact shaped.statement statement (statementsPerm.mem_iff.mp member)

/-- The groups declare one table at most. -/
theorem Declare.unique {groups : List (List Token)} {table other : SymbolTable}
    (declares : Declare groups table) (second : Declare groups other) : other = table :=
  (Path.unique declares second).2

/-- In another order the groups declare a table in which every name is the same. -/
theorem Declare.of_perm {groups groups' : List (List Token)} {table : SymbolTable}
    (shapes : ∀ group ∈ groups, Shape.Group (group.map Token.lexeme))
    (declares : Declare groups table) (perm : groups'.Perm groups) :
    ∃ other, Declare groups' other ∧ ∀ name, other.lookup name = table.lookup name := by
  have lexemeShapes : ∀ lexemes ∈ groups.map (List.map Token.lexeme), Shape.Group lexemes := by
    simpa using shapes
  obtain ⟨-, read, same, header⟩ := exists_header_of_shapes lexemeShapes declares
  -- The groups that are read in the other order are the same groups.
  obtain ⟨read', same', permRead⟩ :
      Relation.Comp (fun lexemes read => lexemes = List.map Group.lexemes read) List.Perm
        (groups'.map (List.map Token.lexeme)) read := by
    rw [List.eq_map_comp_perm]
    show (groups'.map (List.map Token.lexeme)).Perm (read.map Group.lexemes)
    rw [← same]
    exact perm.map (List.map Token.lexeme)
  have valid : ∀ group ∈ read', group.IsValid :=
    fun group member => header.valid group (permRead.mem_iff.mp member)
  have distinct : (read.flatMap Group.names).Nodup := header.fresh.1
  have distinct' : (read'.flatMap Group.names).Nodup :=
    (permRead.flatMap_right Group.names).nodup_iff.mpr distinct
  have path := groups_path valid ((SymbolTable.fresh_empty_iff _).mpr distinct')
  refine ⟨declared read', ?_, SymbolTable.lookup_eq_of_perm ?_ ?_⟩
  · rw [Declare, same']
    exact path
  · rw [header.extended]
    exact permRead.flatMap_right Group.symbols
  · rw [header.extended]
    exact (Group.map_name_flatMap_symbols read).symm ▸ distinct

/-- A statement fits every table in which all names are the same. -/
theorem Fits.of_lookup_eq {limit : Option Nat} {table other : SymbolTable} {statement : List Token}
    (fits : Fits limit table statement) (same : ∀ name, other.lookup name = table.lookup name) :
    Fits limit other statement :=
  ⟨path_of_lookup_eq same fits.path id, fits.shallow⟩

/-- A program that is accepted is accepted in any other order. -/
theorem Accepts.of_perm {limit : Option Nat}
    {groups groups' statements statements' : List (List Token)}
    (shaped : Shaped groups statements) (groupsPerm : groups'.Perm groups)
    (statementsPerm : statements'.Perm statements)
    (accepted : Accepts limit (programTokens groups statements)) :
    Accepts limit (programTokens groups' statements') := by
  obtain ⟨table, declares, fits⟩ := (accepts_iff limit shaped).mp accepted
  obtain ⟨other, declares', same⟩ := declares.of_perm shaped.group groupsPerm
  refine (accepts_iff limit (shaped.of_perm groupsPerm statementsPerm)).mpr
    ⟨other, declares', fun statement member => ?_⟩
  exact (fits statement (statementsPerm.mem_iff.mp member)).of_lookup_eq same

/-- **The order of declarations and statements does not matter.** A program of groups and statements
is accepted iff it is accepted with its groups and its statements in any other order. And it is
accepted iff it is without any statement, and with each of its statements alone. This holds with and
without a limit on the nesting. -/
theorem accepts_iff_of_perm (limit : Option Nat)
    {groups groups' statements statements' : List (List Token)}
    (shaped : Shaped groups statements) (groupsPerm : groups'.Perm groups)
    (statementsPerm : statements'.Perm statements) :
    (Accepts limit (programTokens groups statements) ↔
        Accepts limit (programTokens groups' statements')) ∧
      (Accepts limit (programTokens groups statements) ↔
        Accepts limit (programTokens groups []) ∧
          ∀ statement ∈ statements, Accepts limit (programTokens groups [statement])) := by
  have bare : Shaped groups [] := ⟨shaped.group, by simp⟩
  have single : ∀ statement ∈ statements, Shaped groups [statement] := fun statement member =>
    ⟨shaped.group, by simpa using shaped.statement statement member⟩
  refine ⟨⟨Accepts.of_perm shaped groupsPerm statementsPerm, ?_⟩, ?_⟩
  · exact Accepts.of_perm (shaped.of_perm groupsPerm statementsPerm) groupsPerm.symm
      statementsPerm.symm
  · rw [accepts_iff limit shaped, accepts_iff limit bare]
    constructor
    · rintro ⟨table, declares, fits⟩
      refine ⟨⟨table, declares, by simp⟩, fun statement member => ?_⟩
      refine (accepts_iff limit (single statement member)).mpr ⟨table, declares, ?_⟩
      simpa using fits statement member
    · rintro ⟨⟨table, declares, -⟩, alone⟩
      refine ⟨table, declares, fun statement member => ?_⟩
      obtain ⟨other, declares', fits⟩ :=
        (accepts_iff limit (single statement member)).mp (alone statement member)
      -- The groups declare the same table, whatever statement stands behind them.
      obtain rfl := declares.unique declares'
      exact fits statement List.mem_cons_self

/-- A group that declares one name. -/
def groupOf (type : ValueType) (name : String) : List Token :=
  [⟨.keyword, type.text⟩, ⟨.name, name⟩, ⟨.separator, ";"⟩]

/-- An output of one name. -/
def outputOf (name : String) : List Token :=
  [⟨.keyword, "print"⟩, ⟨.name, name⟩, ⟨.separator, ";"⟩]

/-- Two groups and two statements, each in both orders. -/
theorem accepts_iff_of_perm_swapped :
    Accepts (some nestingLimit)
        (programTokens [groupOf .integer "x", groupOf .logical "y"] [outputOf "x", outputOf "y"]) ∧
      Accepts (some nestingLimit)
        (programTokens [groupOf .logical "y", groupOf .integer "x"] [outputOf "y", outputOf "x"]) ∧
      Accepts (some nestingLimit)
        (programTokens [groupOf .integer "x", groupOf .logical "y"] [outputOf "y"]) := by
  have shaped : Shaped [groupOf .integer "x", groupOf .logical "y"]
      [outputOf "x", outputOf "y"] := by
    constructor
    · intro group member
      simp only [List.mem_cons, List.not_mem_nil, or_false] at member
      rcases member with rfl | rfl
      · exact @Shape.Group.names .integer _ rfl .one
      · exact @Shape.Group.names .logical _ rfl .one
    · intro statement member
      simp only [List.mem_cons, List.not_mem_nil, or_false] at member
      rcases member with rfl | rfl
      · exact .output (.term .name)
      · exact .output (.term .name)
  have accepted : Accepts (some nestingLimit)
      (programTokens [groupOf .integer "x", groupOf .logical "y"]
        [outputOf "x", outputOf "y"]) := by decide +kernel
  have both := accepts_iff_of_perm (some nestingLimit) shaped (.swap _ _ []) (.swap _ _ [])
  exact ⟨accepted, both.1.mp accepted, (both.2.mp accepted).2 _ (by simp)⟩

end Dopl.Checker
