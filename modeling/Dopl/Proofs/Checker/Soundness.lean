import Dopl.Proofs.Checker.Path
import Dopl.Proofs.Grammar.Declarations

/-! # What the checker has read is derived

A state says how far a derivation has come: which levels of an expression, which bodies and which
group of declarations are open around the next token, and what of each is read. The lexemes taken on
the way to a state are always such an open derivation, so at the end of a program nothing is open
and the derivation is complete.

* **`Level`**, **`Levels`**, **`Place`**, **`Aim`**, **`Header`**, **`GroupRead`** — what is read of
  a level, of all levels, up to a statement, up to an expression, of the groups, and of one group.
* **`Read`** — the open derivation of each state.
* **`read_of_transition`**, **`read_of_path`** — one token keeps it, and so does every path. -/

namespace Dopl.Checker

open Grammar

/-! ## Expressions -/

/-- What is read of a level of an expression before its operand. -/
inductive Level (symbols : SymbolTable) : Awaiting → List Lexeme → Prop where
  /-- Nothing. -/
  | start : Level symbols {} []
  /-- An expression and a binary operator behind it. -/
  | operator {type : ValueType} {operator : Operator} {lexemes : List Lexeme} :
      Expression symbols lexemes type → operator.isBinary = true →
        Level symbols { left := some (leftType type operator) } (lexemes ++ [.operator operator])
  /-- A minus sign more. -/
  | minus {awaiting : Awaiting} {lexemes : List Lexeme} :
      Level symbols awaiting lexemes → Level symbols awaiting (lexemes ++ [.operator .minus])
  /-- A negation more. -/
  | not {awaiting : Awaiting} {lexemes : List Lexeme} :
      Level symbols awaiting lexemes →
        Level symbols { awaiting with negated := true } (lexemes ++ [.operator .not])

/-- With its operand a level is an expression. The operators before the operand belong to its term,
so the induction moves them there, the last one first. -/
theorem Level.supply {symbols : SymbolTable} {awaiting : Awaiting} {lexemes operand : List Lexeme}
    {type : ValueType} (level : Level symbols awaiting lexemes) (term : Term symbols operand type) :
    Expression symbols (lexemes ++ operand) (awaiting.absorb type) := by
  induction level generalizing operand type with
  | start => exact .single term
  | operator left joins =>
      rw [List.append_assoc]
      exact left.concat joins term
  | minus _ induction =>
      rw [List.append_assoc]
      exact induction (.minus term)
  | not _ induction =>
      rw [List.append_assoc, absorb_negated]
      exact induction (.not term)

/-- What is read of the levels whose operand is an open parenthesis, the innermost level first. -/
inductive Levels (symbols : SymbolTable) : List Awaiting → List Lexeme → Prop where
  /-- No parenthesis is open. -/
  | nil : Levels symbols [] []
  /-- One parenthesis is open inside the others. -/
  | cons {awaiting : Awaiting} {outer : List Awaiting} {before lexemes : List Lexeme} :
      Levels symbols outer before → Level symbols awaiting lexemes →
        Levels symbols (awaiting :: outer) (before ++ lexemes ++ [.separator .opening])

/-! ## Declarations -/

/-- The groups of a program are complete and have led from one table to another. -/
structure Header (initial : SymbolTable) (groups : List Group) (symbols : SymbolTable) : Prop where
  /-- Each group declares something, and identifiers only. -/
  valid : ∀ group ∈ groups, group.IsValid
  /-- No name is declared twice. -/
  fresh : initial.Fresh (groups.flatMap Group.names)
  /-- The symbols are declared in order. -/
  extended : symbols = initial.extend (groups.flatMap Group.symbols)

/-- What is read of a group behind its type, and what that has led to. -/
structure GroupRead (initial : SymbolTable) (group : Group) (phase : GroupPhase)
    (lexemes : List Lexeme) (symbols : SymbolTable) : Prop where
  /-- Commas stand between the names, and behind the last one after a comma. -/
  separated : lexemes = (group.names.map Lexeme.name).intersperse (.separator .comma) ++
    if phase = .afterComma then [.separator .comma] else []
  /-- Only at first there is no name. -/
  empty : phase = .empty ↔ group.names = []
  /-- Every name is an identifier. -/
  identifiers : ∀ name ∈ group.names, isIdentifier name = true
  /-- No name is declared twice. -/
  fresh : initial.Fresh group.names
  /-- The names are declared in order. -/
  extended : symbols = initial.extend group.symbols

namespace GroupRead

variable {initial symbols : SymbolTable} {group : Group} {phase : GroupPhase}
  {lexemes : List Lexeme}

/-- Behind its type nothing is read of a group. -/
theorem start (initial : SymbolTable) (type : ValueType) :
    GroupRead initial ⟨type, []⟩ .empty [] initial := by
  refine ⟨rfl, by simp, by simp, SymbolTable.fresh_nil initial, ?_⟩
  rw [Group.symbols, List.map_nil, SymbolTable.extend_nil]

/-- A new identifier follows at the start and behind a comma. -/
theorem name (read : GroupRead initial group phase lexemes symbols) (apart : phase ≠ .afterName)
    {name : String} {declared : SymbolTable} (identifier : isIdentifier name = true)
    (added : symbols.declare? name group.type = some declared) :
    GroupRead initial (group.addName name) .afterName (lexemes ++ [.name name]) declared := by
  obtain ⟨freshName, rfl⟩ :=
    (SymbolTable.declare?_eq_some_iff_fresh symbols declared name group.type).mp added
  refine ⟨?_, by simp [Group.addName], ?_, ?_, ?_⟩
  · rw [read.separated, Group.addName, List.map_append, List.map_singleton, intersperse_concat]
    -- There is no comma before the first name; before another one it is the token read last.
    cases phase with
    | empty => simp [read.empty.mp rfl]
    | afterName => exact absurd rfl apart
    | afterComma =>
        have named : group.names ≠ [] := fun unnamed => by cases read.empty.mpr unnamed
        simp [named]
  · intro other member
    rcases List.mem_append.mp member with before | last
    · exact read.identifiers other before
    · rw [List.mem_singleton.mp last]
      exact identifier
  · rw [Group.addName, ← group.map_name_symbols, SymbolTable.fresh_append, group.map_name_symbols,
      ← read.extended]
    exact ⟨read.fresh, freshName⟩
  · rw [Group.symbols_addName, SymbolTable.extend_append, ← read.extended]

/-- A comma follows a name. -/
theorem comma (read : GroupRead initial group .afterName lexemes symbols) :
    GroupRead initial group .afterComma (lexemes ++ [.separator .comma]) symbols := by
  refine ⟨?_, ?_, read.identifiers, read.fresh, read.extended⟩
  · rw [read.separated]
    simp
  · constructor
    · intro first
      cases first
    · intro unnamed
      cases read.empty.mpr unnamed

/-- A group that ends behind a name is valid. -/
theorem isValid (read : GroupRead initial group .afterName lexemes symbols) : group.IsValid :=
  ⟨fun unnamed => (by cases read.empty.mpr unnamed), read.identifiers⟩

/-- A semicolon behind a name makes the lexemes of the group complete. -/
theorem lexemes_eq (read : GroupRead initial group .afterName lexemes symbols) :
    group.lexemes =
      .keyword (typeKeyword group.type) :: lexemes ++ [.separator .semicolon] := by
  rw [Group.lexemes, read.separated]
  simp

end GroupRead

/-- A program begins with no group. -/
theorem Header.start (initial : SymbolTable) : Header initial [] initial :=
  ⟨by simp, SymbolTable.fresh_nil initial, (SymbolTable.extend_nil initial).symm⟩

/-- A valid group of new names stands before the groups behind it. -/
theorem Header.cons {initial symbols : SymbolTable} {groups : List Group} {group : Group}
    (valid : group.IsValid) (fresh : initial.Fresh group.names)
    (header : Header (initial.extend group.symbols) groups symbols) :
    Header initial (group :: groups) symbols := by
  refine ⟨List.forall_mem_cons.mpr ⟨valid, header.valid⟩, ?_, ?_⟩
  · exact (group.fresh_flatMap_cons initial groups).mpr ⟨fresh, header.fresh⟩
  · rw [List.flatMap_cons, SymbolTable.extend_append, header.extended]

/-- A group that ends behind a name follows the groups before it. -/
theorem Header.concat {initial table symbols : SymbolTable} {groups : List Group} {group : Group}
    {lexemes : List Lexeme} (header : Header initial groups table)
    (read : GroupRead table group .afterName lexemes symbols) :
    Header initial (groups ++ [group]) symbols := by
  refine ⟨?_, ?_, ?_⟩
  · intro other member
    rcases List.mem_append.mp member with before | last
    · exact header.valid other before
    · rw [List.mem_singleton.mp last]
      exact read.isValid
  · rw [List.flatMap_append, List.flatMap_singleton, ← Group.map_name_flatMap_symbols,
      SymbolTable.fresh_append, Group.map_name_flatMap_symbols, ← header.extended]
    exact ⟨header.fresh, read.fresh⟩
  · rw [List.flatMap_append, List.flatMap_singleton, SymbolTable.extend_append, ← header.extended,
      read.extended]

/-! ## Statements -/

/-- What is read up to the place of a statement. -/
inductive Place (initial symbols : SymbolTable) : Nest → List Lexeme → Prop where
  /-- In a program, its first keyword, its groups and some statements. -/
  | program {groups : List Group} {lexemes : List Lexeme} :
      Header initial groups symbols → Statements symbols lexemes →
        Place initial symbols ⟨[], .program⟩
          (.keyword .start :: groups.flatMap Group.lexemes ++ lexemes)
  /-- In a list that is read alone, some statements. -/
  | statements {lexemes : List Lexeme} :
      Statements symbols lexemes → Place initial symbols ⟨[], .statements⟩ lexemes
  /-- Before a statement that is read alone, nothing. -/
  | statement : Place initial symbols ⟨[], .statement⟩ []
  /-- In the first body of a branch, the condition and some statements. -/
  | consequent {bodies : List Body} {outermost : Outermost}
      {before condition lexemes : List Lexeme} :
      Place initial symbols ⟨bodies, outermost⟩ before → Expression symbols condition .logical →
      Statements symbols lexemes →
        Place initial symbols ⟨.consequent :: bodies, outermost⟩
          (before ++ (.keyword .if_ :: condition ++ .keyword .then_ :: lexemes))
  /-- In the second body of a branch, also the first body. -/
  | alternative {bodies : List Body} {outermost : Outermost}
      {before condition body lexemes : List Lexeme} :
      Place initial symbols ⟨bodies, outermost⟩ before → Expression symbols condition .logical →
      Statements symbols body → Statements symbols lexemes →
        Place initial symbols ⟨.alternative :: bodies, outermost⟩
          (before ++ (.keyword .if_ :: condition ++ .keyword .then_ :: body ++
            .keyword .else_ :: lexemes))
  /-- In the body of a loop, the condition and some statements. -/
  | loop {bodies : List Body} {outermost : Outermost} {before condition lexemes : List Lexeme} :
      Place initial symbols ⟨bodies, outermost⟩ before → Expression symbols condition .logical →
      Statements symbols lexemes →
        Place initial symbols ⟨.loop :: bodies, outermost⟩
          (before ++ (.keyword .loopif :: condition ++ .keyword .do_ :: lexemes))

/-- Where any number of statements may stand, one statement more is read up to the same place. -/
theorem Place.concat {initial symbols : SymbolTable} {nest : Nest} {before lexemes : List Lexeme}
    (place : Place initial symbols nest before) (list : nest.isList = true)
    (statement : Statement symbols lexemes) : Place initial symbols nest (before ++ lexemes) := by
  cases place with
  | program header statements =>
      rw [List.append_assoc]
      exact .program header (statements.concat statement)
  | statements statements => exact .statements (statements.concat statement)
  | statement => cases list
  | consequent outside condition statements =>
      have more := Place.consequent outside condition (statements.concat statement)
      simpa only [List.append_assoc, List.cons_append] using more
  | alternative outside condition body statements =>
      have more := Place.alternative outside condition body (statements.concat statement)
      simpa only [List.append_assoc, List.cons_append] using more
  | loop outside condition statements =>
      have more := Place.loop outside condition (statements.concat statement)
      simpa only [List.append_assoc, List.cons_append] using more

/-- What is read up to an expression, by what its value is wanted for. -/
inductive Aim (initial symbols : SymbolTable) : Purpose → List Lexeme → Prop where
  /-- Nothing before a term that is read alone. -/
  | term : Aim initial symbols .term []
  /-- Nothing before an expression that is read alone. -/
  | expression : Aim initial symbols .expression []
  /-- Nothing before a condition that is read alone. -/
  | condition : Aim initial symbols .condition []
  /-- A declared name and an arrow. -/
  | assignment {nest : Nest} {before : List Lexeme} {name : String} {target : Symbol} :
      Place initial symbols nest before → symbols.lookup name = some target →
        Aim initial symbols (.assignment target nest) (before ++ [.name name, .assignment])
  /-- The keyword of an output. -/
  | output {nest : Nest} {before : List Lexeme} :
      Place initial symbols nest before →
        Aim initial symbols (.output nest) (before ++ [.keyword .print])
  /-- The keyword of a branch. -/
  | branch {nest : Nest} {before : List Lexeme} :
      Place initial symbols nest before →
        Aim initial symbols (.branch nest) (before ++ [.keyword .if_])
  /-- The keyword of a loop. -/
  | loop {nest : Nest} {before : List Lexeme} :
      Place initial symbols nest before →
        Aim initial symbols (.loop nest) (before ++ [.keyword .loopif])

/-! ## All states -/

/-- What is read on the way to a state, from a table on. -/
inductive Read (initial : SymbolTable) : SymbolTable → State → List Lexeme → Prop where
  /-- Nothing before a program. -/
  | opening : Read initial initial .opening []
  /-- The first keyword and some groups. -/
  | declarations {symbols : SymbolTable} {groups : List Group} :
      Header initial groups symbols →
        Read initial symbols .declarations (.keyword .start :: groups.flatMap Group.lexemes)
  /-- Nothing before a group that is read alone. -/
  | groupHead : Read initial initial .groupHead []
  /-- The first keyword, some groups, and a part of one more. -/
  | group {table symbols : SymbolTable} {groups : List Group} {group : Group}
      {phase : GroupPhase} {lexemes : List Lexeme} :
      Header initial groups table → GroupRead table group phase lexemes symbols →
        Read initial symbols (.group group.type phase false)
          (.keyword .start :: groups.flatMap Group.lexemes ++
            .keyword (typeKeyword group.type) :: lexemes)
  /-- A part of a group that is read alone. -/
  | groupAlone {symbols : SymbolTable} {group : Group} {phase : GroupPhase}
      {lexemes : List Lexeme} :
      GroupRead initial group phase lexemes symbols →
        Read initial symbols (.group group.type phase true)
          (.keyword (typeKeyword group.type) :: lexemes)
  /-- All up to the place of a statement. -/
  | statement {symbols : SymbolTable} {nest : Nest} {lexemes : List Lexeme} :
      Place initial symbols nest lexemes → Read initial symbols (.statement nest) lexemes
  /-- Also the name to assign to. -/
  | arrow {symbols : SymbolTable} {nest : Nest} {before : List Lexeme} {name : String}
      {target : Symbol} :
      Place initial symbols nest before → symbols.lookup name = some target →
        Read initial symbols (.arrow target nest) (before ++ [.name name])
  /-- All up to an expression, and of the expression all up to an operator before an operand. -/
  | term {symbols : SymbolTable} {reading : Reading} {before middle lexemes : List Lexeme} :
      Aim initial symbols reading.purpose before → Levels symbols reading.enclosing middle →
      Level symbols reading.innermost lexemes →
        Read initial symbols (.term reading) (before ++ (middle ++ lexemes))
  /-- The same up to an operand. -/
  | operand {symbols : SymbolTable} {reading : Reading} {before middle lexemes : List Lexeme} :
      Aim initial symbols reading.purpose before → Levels symbols reading.enclosing middle →
      Level symbols reading.innermost lexemes →
        Read initial symbols (.operand reading) (before ++ (middle ++ lexemes))
  /-- All up to an expression, the open levels, and an expression in the innermost one. -/
  | operator {symbols : SymbolTable} {type : ValueType} {enclosing : List Awaiting}
      {purpose : Purpose} {before middle lexemes : List Lexeme} :
      Aim initial symbols purpose before → Levels symbols enclosing middle →
      Expression symbols lexemes type →
        Read initial symbols (.operator type enclosing purpose) (before ++ (middle ++ lexemes))
  /-- All up to a statement, and the statement but for its semicolon. -/
  | semicolon {symbols : SymbolTable} {nest : Nest} {before lexemes : List Lexeme} :
      Place initial symbols nest before →
      Statement symbols (lexemes ++ [.separator .semicolon]) →
        Read initial symbols (.semicolon nest) (before ++ lexemes)
  /-- A whole program. -/
  | trailer {symbols : SymbolTable} {groups : List Group} {lexemes : List Lexeme} :
      Header initial groups symbols → Statements symbols lexemes →
        Read initial symbols .trailer
          (.keyword .start :: groups.flatMap Group.lexemes ++ lexemes ++ [.keyword .finish])

/-- Where a group may stand, a statement may. -/
theorem Read.place_of_declarations {initial symbols : SymbolTable} {lexemes : List Lexeme}
    (read : Read initial symbols .declarations lexemes) :
    Read initial symbols (.statement ⟨[], .program⟩) lexemes := by
  cases read with
  | declarations header =>
      have place := Place.program header .nil
      rw [List.append_nil] at place
      exact .statement place

/-- Where an operator before an operand may stand, an operand may. -/
theorem Read.operand_of_term {initial symbols : SymbolTable} {reading : Reading}
    {lexemes : List Lexeme} (read : Read initial symbols (.term reading) lexemes) :
    Read initial symbols (.operand reading) lexemes := by
  cases read with
  | term aim levels level => exact .operand aim levels level

/-- An expression starts behind what it is wanted for. -/
theorem Aim.read {initial symbols : SymbolTable} {purpose : Purpose} {before : List Lexeme}
    (aim : Aim initial symbols purpose before) :
    Read initial symbols (.term { purpose := purpose }) before := by
  have start : Read initial symbols (.term ⟨{}, [], purpose⟩) _ := .term aim .nil .start
  rw [List.append_nil, List.append_nil] at start
  exact start

/-- With its operand a level is an expression, and the open derivation goes on behind it. -/
theorem Read.supply {initial symbols : SymbolTable} {reading : Reading}
    {lexemes operand : List Lexeme} {type : ValueType}
    (read : Read initial symbols (.operand reading) lexemes) (term : Term symbols operand type) :
    Read initial symbols (reading.supplied type) (lexemes ++ operand) := by
  cases read with
  | operand aim levels level =>
      rw [List.append_assoc, List.append_assoc]
      exact .operator aim levels (level.supply term)

/-- A transition keeps the open derivation: what a state takes is read in the next one. -/
theorem read_of_transition {initial symbols symbols' : SymbolTable} {state state' : State}
    {lexeme : Lexeme} {lexemes : List Lexeme}
    (transition : Transition symbols state lexeme state' symbols')
    (read : Read initial symbols state lexemes) :
    Read initial symbols' state' (lexemes ++ [lexeme]) := by
  induction transition generalizing lexemes with
  | opening =>
      cases read
      exact .declarations (.start initial)
  | @group keyword type names =>
      cases read with
      | declarations header =>
          rw [(valueType?_eq_some_iff keyword type).mp names]
          exact .group header (.start _ type)
  | statement _ induction => exact induction read.place_of_declarations
  | @groupHead keyword type names =>
      cases read
      rw [(valueType?_eq_some_iff keyword type).mp names]
      exact .groupAlone (.start _ type)
  | groupEnd =>
      cases read with
      | group header group =>
          -- The semicolon makes the group complete, and it is one of the groups of the program.
          have groups := Read.declarations (header.concat group)
          rw [List.flatMap_append, List.flatMap_singleton, group.lexemes_eq] at groups
          simpa only [List.append_assoc, List.cons_append] using groups
  | comma =>
      cases read with
      | group header group =>
          have more := Read.group header group.comma
          simpa only [List.append_assoc, List.cons_append] using more
      | groupAlone group => exact .groupAlone group.comma
  | name apart identifier added =>
      cases read with
      | group header group =>
          have more := Read.group header (group.name apart identifier added)
          rw [Group.type_addName] at more
          simpa only [List.append_assoc, List.cons_append] using more
      | groupAlone group =>
          have more := Read.groupAlone (group.name apart identifier added)
          exact more
  | target found =>
      cases read with
      | statement place => exact .arrow place found
  | branch =>
      cases read with
      | statement place => exact (Aim.branch place).read
  | output =>
      cases read with
      | statement place => exact (Aim.output place).read
  | loop =>
      cases read with
      | statement place => exact (Aim.loop place).read
  | finish =>
      cases read with
      | statement place =>
          cases place with
          | program header statements => exact .trailer header statements
  | alternative =>
      cases read with
      | statement place =>
          cases place with
          | consequent outside condition body =>
              have more := Place.alternative outside condition body .nil
              rw [← List.append_assoc] at more
              exact .statement more
  | endConsequent =>
      cases read with
      | statement place =>
          cases place with
          | consequent outside condition body =>
              -- All that is read since the body opened is the branch but for its semicolon.
              rw [List.append_assoc]
              refine .semicolon outside ?_
              rw [List.append_assoc]
              exact .branch condition body
  | endAlternative =>
      cases read with
      | statement place =>
          cases place with
          | alternative outside condition body other =>
              rw [List.append_assoc]
              refine .semicolon outside ?_
              rw [List.append_assoc]
              exact .alternative condition body other
  | endLoop =>
      cases read with
      | statement place =>
          cases place with
          | loop outside condition body =>
              rw [List.append_assoc]
              refine .semicolon outside ?_
              rw [List.append_assoc]
              exact .loop condition body
  | arrow =>
      cases read with
      | arrow place found =>
          rw [List.append_assoc]
          exact (Aim.assignment place found).read
  | minus =>
      cases read with
      | term aim levels level =>
          rw [List.append_assoc, List.append_assoc]
          exact .term aim levels level.minus
  | not =>
      cases read with
      | term aim levels level =>
          rw [List.append_assoc, List.append_assoc]
          exact .term aim levels level.not
  | operand _ induction => exact induction read.operand_of_term
  | integer => exact read.supply .integer
  | character constant => exact read.supply (.character constant)
  | identifier found => exact read.supply (.name found)
  | @parenthesis reading =>
      cases read with
      | operand aim levels level =>
          have deeper : Read initial symbols (.term reading.deepen) _ :=
            .term aim (.cons levels level) .start
          simpa only [List.append_assoc, List.append_nil] using deeper
  | binary joins =>
      cases read with
      | operator aim levels left =>
          rw [List.append_assoc, List.append_assoc]
          exact .term aim levels (.operator left joins)
  | @closing type awaiting outer purpose =>
      cases read with
      | operator aim levels inside =>
          cases levels with
          | cons outside level =>
              -- The level around the parenthesis gets the whole of it as its operand.
              have open_ : Read initial symbols (.operand ⟨awaiting, outer, purpose⟩) _ :=
                .operand aim outside level
              have closed := open_.supply (.parentheses inside)
              simpa only [List.append_assoc, List.cons_append, List.nil_append] using closed
  | assigned list =>
      cases read with
      | operator aim levels value =>
          cases levels
          cases aim with
          | assignment place found =>
              -- No parenthesis is open, so the statement ends with the expression.
              have whole := Read.statement (place.concat list (.assignment found value))
              simpa only [List.append_assoc, List.cons_append, List.nil_append] using whole
  | printed list =>
      cases read with
      | operator aim levels value =>
          cases levels
          cases aim with
          | output place =>
              have whole := Read.statement (place.concat list (.output value))
              simpa only [List.append_assoc, List.cons_append, List.nil_append] using whole
  | @consequent nest =>
      cases read with
      | operator aim levels condition =>
          cases levels
          cases aim with
          | branch place =>
              -- Behind the condition a body is open of which nothing is read.
              have body : Read initial symbols (.statement (nest.enter .consequent)) _ :=
                .statement (.consequent place condition .nil)
              simpa only [List.append_assoc, List.cons_append, List.nil_append] using body
  | @repeated nest =>
      cases read with
      | operator aim levels condition =>
          cases levels
          cases aim with
          | loop place =>
              have body : Read initial symbols (.statement (nest.enter .loop)) _ :=
                .statement (.loop place condition .nil)
              simpa only [List.append_assoc, List.cons_append, List.nil_append] using body
  | closed list =>
      cases read with
      | semicolon place statement =>
          rw [List.append_assoc]
          exact .statement (place.concat list statement)

/-- A path keeps the open derivation. -/
theorem read_of_path {initial symbols symbols' : SymbolTable} {state state' : State}
    {before lexemes : List Lexeme} (path : Path symbols state lexemes state' symbols')
    (read : Read initial symbols state before) :
    Read initial symbols' state' (before ++ lexemes) := by
  induction path generalizing before with
  | refl =>
      rw [List.append_nil]
      exact read
  | @step _ _ _ _ _ _ lexeme lexemes transition _ induction =>
      have whole := induction (read_of_transition transition read)
      rw [List.append_assoc] at whole
      exact whole

/-- At the start of a rule nothing is read. -/
theorem Read.start (initial : SymbolTable) (rule : Rule) : Read initial initial rule.start [] := by
  cases rule with
  | program => exact .opening
  | declaration => exact .groupHead
  | statement => exact .statement .statement
  | statements => exact .statement (.statements .nil)
  | condition => exact Aim.condition.read
  | expression => exact Aim.expression.read
  | term => exact Aim.term.read
  | primary =>
      have start : Read initial initial (.operand ⟨{}, [], .term⟩) _ := .operand .term .nil .start
      exact start

end Dopl.Checker
