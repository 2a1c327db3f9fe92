import Dopl.Proofs.Checker.Acceptance
import Dopl.Proofs.Checker.Refusal
import Dopl.Proofs.Grammar.Shape

/-! # Faults are not reported late

Wherever the checker is in a program, what it has read can be completed: every open level, body and
group is closed, the innermost first. So the tokens before a fault begin some sequence of tokens
with the shape of a program, and so does the refused token itself where its place is right and only
its name, text or type is not.

* **`State.completion`** — lexemes that complete what is read on the way to a state;
  **`Read.program_of_completion`**.
* **`Refusal.shape_or_misplaced`** — the tokens that are taken and refused.
* **`viable_of_refused`** — what a refused program begins with. -/

namespace Dopl.Checker

open Grammar

/-! ## What closes the open parts -/

/-- What closes a body and the statement it belongs to. -/
def Body.closing : Body → List Lexeme
  | .consequent | .alternative => [.keyword .endif, .separator .semicolon]
  | .loop => [.keyword .endloop, .separator .semicolon]

/-- What closes the bodies open around a statement, and the program. -/
def Nest.closing (nest : Nest) : List Lexeme :=
  nest.bodies.flatMap Body.closing ++ [.keyword .finish]

/-- What goes on behind the value of an expression and closes the program. -/
def Purpose.closing : Purpose → List Lexeme
  | .term | .expression | .condition => []
  | .assignment _ nest | .output nest => .separator .semicolon :: nest.closing
  | .branch nest => .keyword .then_ :: (nest.enter .consequent).closing
  | .loop nest => .keyword .do_ :: (nest.enter .loop).closing

/-- What closes the open parentheses of an expression, and all behind it. -/
def closingBehind (enclosing : List Awaiting) (purpose : Purpose) : List Lexeme :=
  List.replicate enclosing.length (.separator .closing) ++ purpose.closing

/-- Lexemes that complete a program from a state on. -/
def State.completion : State → List Lexeme
  | .opening => [.keyword .start, .keyword .finish]
  | .declarations => [.keyword .finish]
  | .groupHead | .trailer => []
  | .group _ .afterName _ => [.separator .semicolon, .keyword .finish]
  | .group _ _ _ => [.name "x", .separator .semicolon, .keyword .finish]
  | .statement nest => nest.closing
  | .arrow _ nest => .assignment :: .integer :: .separator .semicolon :: nest.closing
  | .term reading | .operand reading =>
    .integer :: closingBehind reading.enclosing reading.purpose
  | .operator _ enclosing purpose => closingBehind enclosing purpose
  | .semicolon nest => .separator .semicolon :: nest.closing

variable {initial symbols : SymbolTable}

/-! ## Open levels of an expression -/

/-- With the shape of an operand a level has the shape of an expression. -/
theorem Level.shape {awaiting : Awaiting} {lexemes operand : List Lexeme}
    (level : Level symbols awaiting lexemes) (term : Shape.Term operand) :
    Shape.Expression (lexemes ++ operand) := by
  induction level generalizing operand with
  | start => exact .term term
  | operator left joins =>
      rw [List.append_assoc]
      exact .binary left.shape joins term
  | minus _ induction =>
      rw [List.append_assoc]
      exact induction (.unary rfl term)
  | not _ induction =>
      rw [List.append_assoc]
      exact induction (.unary rfl term)

/-- With an expression inside, the open parentheses can be closed one after the other. -/
theorem Levels.shape {enclosing : List Awaiting} {middle inside : List Lexeme}
    (levels : Levels symbols enclosing middle) (expression : Shape.Expression inside) :
    Shape.Expression
      (middle ++ inside ++ List.replicate enclosing.length (.separator .closing)) := by
  induction levels generalizing inside with
  | nil =>
      rw [List.nil_append, List.length_nil, List.replicate_zero, List.append_nil]
      exact expression
  | cons _ level induction =>
      -- The innermost parenthesis is an operand of the level around it.
      have around := induction (level.shape (.parentheses expression))
      simpa [List.replicate_succ] using around

/-! ## Open bodies -/

/-- With statements at the place of one, the open bodies and the program can be closed. The
induction is on the open bodies: each of them becomes a statement at the place around it. -/
theorem Place.shape {nest : Nest} {before lexemes : List Lexeme}
    (place : Place initial symbols nest before) (inProgram : nest.InProgram)
    (statements : Shape.Statements lexemes) :
    Shape.Program (before ++ lexemes ++ nest.closing) := by
  induction place generalizing lexemes with
  | program header body =>
      have program := Shape.Program.body (groups_shape header.valid)
        (body.shape.append statements)
      simpa [Nest.closing] using program
  | statements _ => cases inProgram
  | statement => cases inProgram
  | consequent _ condition body induction =>
      have whole := Shape.Statement.branch condition.shape (body.shape.append statements)
      have around := induction inProgram (.single whole)
      simpa [Nest.closing, Body.closing] using around
  | alternative _ condition body other induction =>
      have whole :=
        Shape.Statement.alternative condition.shape body.shape (other.shape.append statements)
      have around := induction inProgram (.single whole)
      simpa [Nest.closing, Body.closing] using around
  | loop _ condition body induction =>
      have whole := Shape.Statement.loop condition.shape (body.shape.append statements)
      have around := induction inProgram (.single whole)
      simpa [Nest.closing, Body.closing] using around

/-- With the value it is wanted for, all behind an expression can be closed. -/
theorem Aim.shape {purpose : Purpose} {before value : List Lexeme}
    (aim : Aim initial symbols purpose before) (inProgram : purpose.InProgram)
    (expression : Shape.Expression value) : Shape.Program (before ++ value ++ purpose.closing) := by
  cases aim with
  | term => exact inProgram.elim
  | expression => exact inProgram.elim
  | condition => exact inProgram.elim
  | @assignment _ _ name _ place _ =>
      have whole := @Shape.Statement.assignment name value expression
      have program := place.shape inProgram (.single whole)
      simpa [Purpose.closing] using program
  | output place =>
      have program := place.shape inProgram (.single (.output expression))
      simpa [Purpose.closing] using program
  | branch place =>
      have program := place.shape inProgram (.single (.branch expression .nil))
      simpa [Purpose.closing, Nest.closing, Nest.enter, Body.closing] using program
  | loop place =>
      have program := place.shape inProgram (.single (.loop expression .nil))
      simpa [Purpose.closing, Nest.closing, Nest.enter, Body.closing] using program

/-- With an expression in the innermost level, all around and behind it can be closed. -/
theorem program_of_expression {enclosing : List Awaiting} {purpose : Purpose}
    {before middle inside : List Lexeme} (aim : Aim initial symbols purpose before)
    (levels : Levels symbols enclosing middle) (inProgram : purpose.InProgram)
    (expression : Shape.Expression inside) :
    Shape.Program (before ++ (middle ++ inside) ++ closingBehind enclosing purpose) := by
  have program := aim.shape inProgram (levels.shape expression)
  simpa [closingBehind] using program

/-- With an operand where one is waited for, all around and behind it can be closed. -/
theorem Read.program_of_operand {reading : Reading} {lexemes operand : List Lexeme}
    (read : Read initial symbols (.operand reading) lexemes)
    (inProgram : reading.purpose.InProgram) (term : Shape.Term operand) :
    Shape.Program (lexemes ++ operand ++ closingBehind reading.enclosing reading.purpose) := by
  cases read with
  | operand aim levels level =>
      have program := program_of_expression aim levels inProgram (level.shape term)
      simpa using program

/-! ## Open groups -/

namespace GroupRead

variable {group : Group} {phase : GroupPhase} {lexemes : List Lexeme}

/-- Behind a name, what is read of a group has the shape of names. -/
theorem names_shape (read : GroupRead initial group .afterName lexemes symbols) :
    Shape.Names lexemes := by
  rw [read.separated, if_neg (by decide), List.append_nil]
  exact Shape.names_intersperse read.isValid.1

/-- Elsewhere, what is read of a group has the shape of names with a name more. -/
theorem names_shape_concat (read : GroupRead initial group phase lexemes symbols)
    (apart : phase ≠ .afterName) (name : String) : Shape.Names (lexemes ++ [.name name]) := by
  cases phase with
  | empty =>
      rw [read.separated, read.empty.mp rfl]
      exact .one
  | afterName => exact absurd rfl apart
  | afterComma =>
      have named : group.names ≠ [] := fun unnamed => by cases read.empty.mpr unnamed
      rw [read.separated, if_pos rfl, List.append_assoc]
      exact .more (Shape.names_intersperse named)

/-- Behind a name, a name is the last lexeme. -/
theorem getLast?_eq_name (read : GroupRead initial group .afterName lexemes symbols) :
    ∃ name, lexemes.getLast? = some (.name name) := by
  cases read.names_shape with
  | @one name => exact ⟨name, rfl⟩
  | @more _ name => exact ⟨name, by simp⟩

end GroupRead

/-- With the rest of its names, a group and the program can be closed. -/
theorem Header.program_of_names {table : SymbolTable} {groups : List Group} {names : List Lexeme}
    (header : Header initial groups table) (type : ValueType) (shape : Shape.Names names) :
    Shape.Program (.keyword .start :: groups.flatMap Group.lexemes ++
      .keyword (typeKeyword type) :: names ++ [.separator .semicolon, .keyword .finish]) := by
  have named : (typeKeyword type).valueType?.isSome = true := by
    rw [(valueType?_eq_some_iff _ type).mpr rfl]
    rfl
  have program := Shape.Program.body
    ((groups_shape header.valid).concat (.names named shape)) .nil
  simpa using program

/-- In a group, outside its names, a name may follow. -/
theorem Read.program_of_name {type : ValueType} {phase : GroupPhase} {lexemes : List Lexeme}
    (read : Read initial symbols (.group type phase false) lexemes) (apart : phase ≠ .afterName)
    (name : String) :
    Shape.Program (lexemes ++ [.name name] ++ [.separator .semicolon, .keyword .finish]) := by
  cases read with
  | @group _ _ _ group _ _ header read =>
      have program :=
        header.program_of_names group.type (read.names_shape_concat apart name)
      simpa using program

/-! ## All states -/

/-- **What is read in a program can be completed.** The completion of the state makes it the shape
of a program. -/
theorem Read.program_of_completion {state : State} {lexemes : List Lexeme}
    (read : Read initial symbols state lexemes) (inProgram : state.InProgram) :
    Shape.Program (lexemes ++ state.completion) := by
  cases read with
  | opening => exact .body .nil .nil
  | declarations header =>
      have program := Shape.Program.body (groups_shape header.valid) .nil
      rw [List.append_nil] at program
      exact program
  | groupHead => exact inProgram.elim
  | @group _ _ _ group phase _ header read =>
      cases phase with
      | empty =>
          have program :=
            header.program_of_names group.type (read.names_shape_concat (by decide) "x")
          simpa [State.completion] using program
      | afterName =>
          have program := header.program_of_names group.type read.names_shape
          simpa [State.completion] using program
      | afterComma =>
          have program :=
            header.program_of_names group.type (read.names_shape_concat (by decide) "x")
          simpa [State.completion] using program
  | groupAlone _ => cases inProgram
  | statement place =>
      have program := place.shape inProgram .nil
      rw [List.append_nil] at program
      exact program
  | @arrow _ _ _ name _ place _ =>
      have whole := @Shape.Statement.assignment name _ (.term .integer)
      have program := place.shape inProgram (.single whole)
      simpa [State.completion] using program
  | term aim levels level =>
      have program := (Read.operand aim levels level).program_of_operand inProgram .integer
      simpa [State.completion] using program
  | operand aim levels level =>
      have program := (Read.operand aim levels level).program_of_operand inProgram .integer
      simpa [State.completion] using program
  | operator aim levels expression =>
      exact program_of_expression aim levels inProgram expression.shape
  | semicolon place statement =>
      have program := place.shape inProgram (.single statement.shape)
      simpa [State.completion] using program
  | trailer header body =>
      have program := Shape.Program.body (groups_shape header.valid) body.shape
      simpa [State.completion] using program

/-! ## Refused tokens -/

/-- A token that is taken and refused goes on with what is read, as far as its shape counts, unless
it is misplaced in its group, or it is no identifier and stands behind a name. -/
theorem Refusal.shape_or_misplaced {state : State} {lexeme : Lexeme} {fault : CheckFault}
    {lexemes : List Lexeme} (refusal : Refusal state lexeme fault)
    (read : Read initial symbols state lexemes) (inProgram : state.InProgram) :
    (∃ rest, Shape.Program (lexemes ++ [lexeme] ++ rest)) ∨ fault.IsMisplaced ∨
      ∃ name before, fault = .badName name ∧ lexemes.getLast? = some (.name before) := by
  induction refusal with
  | declarations _ induction => exact induction read.place_of_declarations rfl
  | @target nest name =>
      cases read with
      | statement place =>
          have whole := @Shape.Statement.assignment name _ (.term .integer)
          have program := place.shape inProgram (.single whole)
          refine .inl ⟨[.assignment, .integer, .separator .semicolon] ++ nest.closing, ?_⟩
          simpa using program
  | misplaced misplaced => exact .inr (.inl misplaced)
  | @badName type phase alone name =>
      obtain rfl : alone = false := inProgram
      by_cases behind : phase = .afterName
      · subst behind
        cases read with
        | group _ group =>
            obtain ⟨before, last⟩ := group.getLast?_eq_name
            refine .inr (.inr ⟨name, before, rfl, ?_⟩)
            rw [List.getLast?_append, List.getLast?_cons, last]
            rfl
      · exact .inl ⟨_, read.program_of_name behind name⟩
  | @redeclared type phase alone name apart =>
      obtain rfl : alone = false := inProgram
      exact .inl ⟨_, read.program_of_name apart name⟩
  | term _ induction => exact induction read.operand_of_term inProgram
  | identifier => exact .inl ⟨_, read.program_of_operand inProgram .name⟩
  | character => exact .inl ⟨_, read.program_of_operand inProgram .character⟩

/-! ## Refused programs -/

/-- A run that is refused has read a path. The token that it refuses stands behind the path: the run
left it there, or it took it as the last one. -/
theorem exists_path_of_refused {limit : Option Nat} {tokens : List Token} {fault : CheckFault}
    {position : Nat}
    (refused : (Rule.program.run limit initial (.ofTokens tokens)).cause? =
      some (.check fault position)) :
    ∃ (taken : List Token) (state : State) (table : SymbolTable) (next : Token)
      (ahead : List Token),
      Path initial .opening (taken.map Token.lexeme) state table ∧
        Token.withEnd tokens = taken ++ next :: ahead ∧
        (position = taken.length + 1 ∨
          position = taken.length + 2 ∧ step state table next = .refuseTaken fault) := by
  obtain ⟨taken, state, table, moved, path, split, before, stop⟩ :=
    exists_path_of_resume limit .opening initial (.ofTokens tokens)
  rw [(split_ofTokens tokens).2] at split
  rw [(split_ofTokens tokens).1, List.append_nil] at before
  have count : moved.before.length = taken.length := by rw [before, List.length_reverse]
  refine ⟨taken, state, table, moved.next, moved.ahead, path, split, ?_⟩
  have refused : (resume limit .opening initial (.ofTokens tokens)).cause? =
    some (.check fault position) := refused
  generalize resume limit .opening initial (.ofTokens tokens) = finish at refused stop
  cases stop with
  | @leave answer left =>
      cases answer with
      | accepted type => cases refused
      | refused other =>
          cases refused
          exact .inl (congrArg (· + 1) count)
  | @takeLast answer behind took advanced =>
      cases answer with
      | accepted type => cases refused
      | refused other =>
          cases refused
          refine .inr ⟨?_, took⟩
          rw [Cursor.position_of_advance? advanced]
          exact congrArg (· + 2) count
  | exhausted _ _ =>
      cases refused
      exact .inl (congrArg (· + 1) count)
  | tooDeep _ _ _ => cases refused

/-- If the last of some lexemes is a name, the token before the next one is a name. -/
theorem exists_name_before {tokens taken ahead : List Token} {next : Token} {name : String}
    (split : Token.withEnd tokens = taken ++ next :: ahead)
    (last : (taken.map Token.lexeme).getLast? = some (.name name)) :
    ∃ before, (Token.withEnd tokens)[taken.length - 1]? = some before ∧ before.kind = .name := by
  rw [List.getLast?_map, Option.map_eq_some_iff] at last
  obtain ⟨before, ends, meaning⟩ := last
  have kind : before.kind = .name := kind_of_lexeme (by rw [meaning]; rfl)
  have nonempty : taken ≠ [] := fun none => by rw [none] at ends; cases ends
  refine ⟨before, ?_, kind⟩
  rw [split, List.getElem?_append_left (by have := List.length_pos_iff.mpr nonempty; omega),
    ← List.getLast?_eq_getElem?]
  exact ends

/-- The fault is reported behind a token that cannot stand where it does: it is misplaced in its
group, or it is no identifier and directly follows another name. -/
def ReportedBehind (tokens : List Token) (fault : CheckFault) (position : Nat) : Prop :=
  fault.IsMisplaced ∨ (∃ name, fault = .badName name) ∧
    ∃ before, (Token.withEnd tokens)[position - 3]? = some before ∧ before.kind = .name

/-- **Faults are not reported late.** If a program is refused at a position, the tokens before the
one at the position begin a sequence of tokens with the shape of a program. Only for a token that
cannot stand where it does in its group, and that is taken before the fault is reported, it is one
token less. -/
theorem viable_of_refused (limit : Option Nat) (symbols : SymbolTable) (tokens : List Token)
    (fault : CheckFault) (position : Nat)
    (refused : (Rule.program.run limit symbols (.ofTokens tokens)).cause? =
      some (.check fault position)) :
    (ReportedBehind tokens fault position →
        Shape.Viable ((Token.withEnd tokens).take (position - 2))) ∧
      (¬ReportedBehind tokens fault position →
        Shape.Viable ((Token.withEnd tokens).take (position - 1))) := by
  obtain ⟨taken, state, table, next, ahead, path, split, place⟩ := exists_path_of_refused refused
  have read := read_of_path path (Read.start symbols .program)
  rw [List.nil_append] at read
  have inProgram := inProgram_of_path path trivial
  have viable := Shape.viable_of_program (read.program_of_completion inProgram)
  have begins : ∀ count ≤ taken.length, Shape.Viable ((Token.withEnd tokens).take count) := by
    intro count within
    rw [split, List.take_append_of_le_length within]
    exact viable.take count
  rcases place with rfl | ⟨rfl, taking⟩
  · -- The refused token is left, and everything before it is read.
    exact ⟨fun _ => begins _ (by omega), fun _ => begins _ (by omega)⟩
  · refine ⟨fun _ => begins _ (by omega), fun inPlace => ?_⟩
    have all : (Token.withEnd tokens).take (taken.length + 2 - 1) = taken ++ [next] := by
      rw [split, List.append_cons]
      exact List.take_left' (by simp)
    rw [all]
    -- The refused token is taken, and it goes on with what is read unless it cannot stand there.
    rcases (refusal_of_step taking).shape_or_misplaced read inProgram with
      ⟨rest, program⟩ | misplaced | ⟨name, before, rfl, last⟩
    · refine @Shape.viable_of_program _ rest ?_
      rw [List.map_append]
      exact program
    · exact absurd (.inl misplaced) inPlace
    · exact absurd (.inr ⟨⟨name, rfl⟩, exists_name_before split last⟩) inPlace

/-- A group with two names and no comma between them, the second of which is no identifier. -/
def twoNames : List Token :=
  [⟨.keyword, "start"⟩, ⟨.keyword, "integer"⟩, ⟨.name, "x"⟩, ⟨.name, "1y"⟩, ⟨.separator, ";"⟩]

/-- What is no identifier is refused before the missing comma is, at the same place. -/
theorem cause?_twoNames :
    (Rule.program.run none {} (.ofTokens twoNames)).cause? = some (.check (.badName "1y") 5) := by
  decide +kernel

/-- Two names without a comma are reported one token late, and an undeclared name is not. -/
theorem viable_of_refused_twoNames :
    (Rule.program.run none {} (.ofTokens twoNames)).cause? = some (.check (.badName "1y") 5) ∧
      Shape.Viable [⟨.keyword, "start"⟩, ⟨.keyword, "integer"⟩, ⟨.name, "x"⟩] ∧
      Shape.Viable [⟨.keyword, "start"⟩, ⟨.name, "z"⟩] := by
  have undeclared : (Rule.program.run none {}
      (.ofTokens [⟨.keyword, "start"⟩, ⟨.name, "z"⟩])).cause? =
        some (.check (.undeclared "z") 3) := by
    decide +kernel
  refine ⟨cause?_twoNames, ?_, ?_⟩
  · exact (viable_of_refused none {} twoNames (.badName "1y") 5 cause?_twoNames).1
      (.inr ⟨⟨"1y", rfl⟩, ⟨.name, "x"⟩, rfl, rfl⟩)
  · refine (viable_of_refused none {} _ (.undeclared "z") 3 undeclared).2 ?_
    rintro (misplaced | ⟨⟨name, same⟩, -⟩)
    · exact misplaced
    · cases same

/-- The four misplaced tokens are not the only ones that are reported one token late: a name that
is no identifier is taken before the comma in front of it is missed. -/
theorem exists_badName_not_viable :
    ¬∀ (limit : Option Nat) (symbols : SymbolTable) (tokens : List Token) (fault : CheckFault)
      (position : Nat),
      (Rule.program.run limit symbols (.ofTokens tokens)).cause? = some (.check fault position) →
        (fault.IsMisplaced → Shape.Viable ((Token.withEnd tokens).take (position - 2))) ∧
          (¬fault.IsMisplaced → Shape.Viable ((Token.withEnd tokens).take (position - 1))) := by
  intro claimed
  have viable : Shape.Viable ((Token.withEnd twoNames).take (5 - 1)) :=
    (claimed none {} twoNames (.badName "1y") 5 cause?_twoNames).2 id
  obtain ⟨rest, program⟩ := viable
  exact Shape.not_program_of_two_names rfl program

end Dopl.Checker
