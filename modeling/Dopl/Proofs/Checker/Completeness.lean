import Dopl.Proofs.Checker.Path
import Dopl.Proofs.Grammar.Declarations

/-! # Whatever the grammar derives is taken

Along the lexemes of a derivation the checker never stops: a term leads from the state that waits
for it to the state behind it, whatever is open around it, and so for expressions, statements,
groups and programs.

* **`Term.path`**, **`Expression.path`** — by induction on the derivation, operators and the terms
  behind them joined from left to right.
* **`Statement.path`**, **`Statements.path`** — the same for statements in any body.
* **`Program.path`** — from the first keyword of a program to its last. -/

namespace Dopl.Grammar

open Checker

variable {symbols : SymbolTable}

/-! ## Terms and expressions -/

/-- Inside a parenthesis something stands behind every operand. -/
theorem goesOn_deepen (reading : Reading) : reading.deepen.GoesOn :=
  rfl

mutual

/-- A term leads from before its unary operators to behind its operand. -/
theorem Term.path {lexemes : List Lexeme} {type : ValueType} (term : Term symbols lexemes type)
    (reading : Reading) (further : reading.GoesOn) :
    Path symbols (.term reading) lexemes (reading.supplied type) symbols :=
  match term with
  | .integer => .single (.operand (.integer further))
  | .character constant => .single (.operand (.character constant further))
  | .name found => .single (.operand (.identifier found further))
  | .minus operand => .step .minus (operand.path reading further)
  | .not operand => by
      rw [← reading.supplied_negate]
      exact .step .not (operand.path reading.negate further)
  | .parentheses inside =>
      (Path.step (.operand .parenthesis)
        (inside.path reading.deepen.enclosing reading.purpose (goesOn_deepen reading))).snoc
        (.closing further)

/-- Operators, each with a term behind it, lead from behind a term to behind the last one. -/
theorem Operands.path {lexemes : List Lexeme} {pairs : List (Operator × ValueType)}
    (operands : Operands symbols lexemes pairs) (type : ValueType) (enclosing : List Awaiting)
    (purpose : Purpose) (further : Reading.GoesOn ⟨{}, enclosing, purpose⟩) :
    Path symbols (.operator type enclosing purpose) lexemes
      (.operator (joinedType type pairs) enclosing purpose) symbols :=
  match operands with
  | .nil => by
      rw [joinedType_nil]
      exact .refl
  | @Operands.cons _ operator _ _ operand _ joins term rest => by
      rw [joinedType_cons]
      -- The operand is absorbed into what the operator leaves on its left.
      have first :=
        term.path ⟨{ left := some (leftType type operator) }, enclosing, purpose⟩ further
      exact (Path.step (.binary joins) first).append
        (rest.path (combine type operator operand) enclosing purpose further)

/-- An expression leads from its start to behind its last term. -/
theorem Expression.path {lexemes : List Lexeme} {type : ValueType}
    (expression : Expression symbols lexemes type) (enclosing : List Awaiting) (purpose : Purpose)
    (further : Reading.GoesOn ⟨{}, enclosing, purpose⟩) :
    Path symbols (.term ⟨{}, enclosing, purpose⟩) lexemes (.operator type enclosing purpose)
      symbols :=
  match expression with
  | @Expression.join _ _ _ first _ term operands =>
      (term.path ⟨{}, enclosing, purpose⟩ further).append
        (operands.path first enclosing purpose further)

end

/-! ## Statements -/

/-- Inside a body any number of statements may stand. -/
theorem isList_enter (nest : Nest) (body : Body) : (nest.enter body).isList = true :=
  rfl

mutual

/-- A statement leads back to where a statement may stand. -/
theorem Statement.path {lexemes : List Lexeme} (statement : Statement symbols lexemes)
    (nest : Nest) (list : nest.isList = true) :
    Path symbols (.statement nest) lexemes (.statement nest) symbols :=
  match statement with
  | @Statement.assignment _ _ target _ found value =>
      (Path.step (.target found) (.step .arrow (value.path [] (.assignment target nest) rfl))).snoc
        (.assigned list)
  | .output value => (Path.step .output (value.path [] (.output nest) rfl)).snoc (.printed list)
  | .branch condition body => by
      have head := Path.step .branch (condition.path [] (.branch nest) rfl)
      have first := body.path (nest.enter .consequent) (isList_enter nest .consequent)
      exact (head.append (.step .consequent first)).append
        (.step .endConsequent (.single (.closed list)))
  | .alternative condition body other => by
      have head := Path.step .branch (condition.path [] (.branch nest) rfl)
      have first := body.path (nest.enter .consequent) (isList_enter nest .consequent)
      have second := other.path (nest.enter .alternative) (isList_enter nest .alternative)
      exact ((head.append (.step .consequent first)).append (.step .alternative second)).append
        (.step .endAlternative (.single (.closed list)))
  | .loop condition body => by
      have head := Path.step .loop (condition.path [] (.loop nest) rfl)
      have inside := body.path (nest.enter .loop) (isList_enter nest .loop)
      exact (head.append (.step .repeated inside)).append
        (.step .endLoop (.single (.closed list)))

/-- Statements lead back to where a statement may stand. -/
theorem Statements.path {lexemes : List Lexeme} (statements : Statements symbols lexemes)
    (nest : Nest) (list : nest.isList = true) :
    Path symbols (.statement nest) lexemes (.statement nest) symbols :=
  match statements with
  | .nil => .refl
  | .cons first rest => (first.path nest list).append (rest.path nest list)

end

/-! ## Groups of declarations -/

/-- New names with commas between them lead behind the last one and declare them. The induction is
on the names behind the first, since a comma stands before each of those. -/
theorem names_path (type : ValueType) (alone : Bool) (phase : GroupPhase)
    (apart : phase ≠ .afterName) (first : String) (rest : List String)
    (identifiers : ∀ name ∈ first :: rest, isIdentifier name = true) (table : SymbolTable)
    (fresh : table.Fresh (first :: rest)) :
    Path table (.group type phase alone)
      (((first :: rest).map Lexeme.name).intersperse (.separator .comma))
      (.group type .afterName alone)
      (table.extend ((first :: rest).map fun name => ⟨name, type⟩)) := by
  induction rest generalizing first phase table with
  | nil =>
      have added := (SymbolTable.declare?_eq_some_iff_fresh table _ first type).mpr ⟨fresh, rfl⟩
      exact .single (.name apart (identifiers first List.mem_cons_self) added)
  | cons second others induction =>
      -- The names behind the first one are new also where the first one is declared.
      obtain ⟨freshFirst, freshRest⟩ :=
        (SymbolTable.fresh_append table [⟨first, type⟩] (second :: others)).mp fresh
      have added :=
        (SymbolTable.declare?_eq_some_iff_fresh table _ first type).mpr ⟨freshFirst, rfl⟩
      have behind := induction .afterComma (by decide) second
        (fun name member => identifiers name (List.mem_cons_of_mem first member)) _ freshRest
      rw [← SymbolTable.extend_append] at behind
      exact .step (.name apart (identifiers first List.mem_cons_self) added) (.step .comma behind)

/-- A group of new names leads back to where a group may stand and declares them. -/
theorem Group.path {group : Group} (valid : group.IsValid) {table : SymbolTable}
    (fresh : table.Fresh group.names) :
    Path table .declarations group.lexemes .declarations (table.extend group.symbols) := by
  obtain ⟨type, names⟩ := group
  obtain ⟨some, identifiers⟩ := valid
  cases names with
  | nil => exact absurd rfl some
  | cons first rest =>
      have inside := names_path type false .empty (by decide) first rest identifiers table fresh
      exact (Path.step (.group ((valueType?_eq_some_iff _ type).mpr rfl)) inside).snoc .groupEnd

/-- Groups that declare no name twice lead back to where a group may stand. -/
theorem groups_path {groups : List Group} (valid : ∀ group ∈ groups, group.IsValid)
    {table : SymbolTable} (fresh : table.Fresh (groups.flatMap Group.names)) :
    Path table .declarations (groups.flatMap Group.lexemes) .declarations
      (table.extend (groups.flatMap Group.symbols)) := by
  induction groups generalizing table with
  | nil =>
      rw [List.flatMap_nil, List.flatMap_nil, SymbolTable.extend_nil]
      exact .refl
  | cons group rest induction =>
      rw [Group.fresh_flatMap_cons] at fresh
      rw [List.flatMap_cons, List.flatMap_cons, SymbolTable.extend_append]
      exact (Group.path (valid group List.mem_cons_self) fresh.1).append
        (induction (fun other member => valid other (List.mem_cons_of_mem group member)) fresh.2)

/-! ## Programs -/

/-- What leads on from the place of a statement of a program leads on from the place of a group. -/
theorem path_of_statement {table table' : SymbolTable} {lexemes : List Lexeme} {state : State}
    (some : lexemes ≠ []) (path : Path table (.statement ⟨[], .program⟩) lexemes state table') :
    Path table .declarations lexemes state table' := by
  cases path with
  | refl => exact absurd rfl some
  | step transition further => exact .step (.statement transition) further

/-- A program leads from its first keyword to behind its last, and declares its symbols. -/
theorem Program.path {lexemes : List Lexeme} {table : SymbolTable}
    (program : Program lexemes table) : Path {} .opening lexemes .trailer table := by
  cases program with
  | @body groups statements valid distinct body =>
      have declarations := groups_path valid ((SymbolTable.fresh_empty_iff _).mpr distinct)
      -- There need not be a statement, but the last keyword stands behind the groups in any case.
      have rest := path_of_statement (by simp) ((body.path ⟨[], .program⟩ rfl).snoc .finish)
      rw [List.append_assoc]
      exact (Path.step .opening declarations).append rest

end Dopl.Grammar
