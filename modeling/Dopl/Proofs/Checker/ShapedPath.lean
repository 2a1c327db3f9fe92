import Dopl.Proofs.Checker.Frame
import Dopl.Proofs.Checker.Soundness
import Dopl.Proofs.Grammar.Shape

/-! # Where a path along a shape leads

What has the shape of a term, a statement or a group is taken as one, whatever is open around it and
whatever stands behind it: the shape alone tells where a path along it leads, up to the type of a
value.

* **`state_of_term`**, **`state_of_expression`** — behind the term or the expression.
* **`state_of_statement`**, **`state_of_statements`** — where the next statement may stand.
* **`exists_header_of_shapes`** — where the next group may stand, with the groups read by then. -/

namespace Dopl.Checker

open Grammar

/-! ## Terms and expressions -/

mutual

/-- A path along a term leads from before its unary operators to behind its operand. -/
theorem state_of_term {lexemes : List Lexeme} (term : Shape.Term lexemes)
    {symbols symbols' : SymbolTable} {reading : Reading} {state' : State}
    (path : Path symbols (.term reading) lexemes state' symbols') :
    ∃ type, state' = reading.supplied type :=
  match term with
  | .integer => by
      cases Path.singleton_iff.mp path with
      | operand operand =>
          cases operand with
          | integer _ => exact ⟨_, rfl⟩
  | .character => by
      cases Path.singleton_iff.mp path with
      | operand operand =>
          cases operand with
          | character _ _ => exact ⟨_, rfl⟩
  | .name => by
      cases Path.singleton_iff.mp path with
      | operand operand =>
          cases operand with
          | identifier _ _ => exact ⟨_, rfl⟩
  | .unary _ inner => by
      obtain ⟨between, middle, transition, further⟩ := Path.cons_iff.mp path
      cases transition with
      | minus => exact state_of_term inner further
      | not =>
          obtain ⟨type, same⟩ := state_of_term inner further
          exact ⟨_, same.trans (reading.supplied_negate type)⟩
      | operand operand => cases operand
  | .parentheses inside => by
      -- The level around the parenthesis waits until the expression inside is read.
      obtain ⟨between, middle, transition, further⟩ := Path.cons_iff.mp path
      cases transition with
      | operand operand =>
          cases operand with
          | parenthesis =>
              obtain ⟨behind, table, first, last⟩ := Path.append_iff.mp further
              obtain ⟨type, rfl⟩ := state_of_expression inside first
              cases Path.singleton_iff.mp last with
              | closing _ => exact ⟨type, rfl⟩

/-- A path along an expression leads from its start to behind its last term. -/
theorem state_of_expression {lexemes : List Lexeme} (expression : Shape.Expression lexemes)
    {symbols symbols' : SymbolTable} {enclosing : List Awaiting} {purpose : Purpose}
    {state' : State}
    (path : Path symbols (.term ⟨{}, enclosing, purpose⟩) lexemes state' symbols') :
    ∃ type, state' = .operator type enclosing purpose :=
  match expression with
  | .term term => by
      obtain ⟨type, same⟩ := state_of_term term path
      exact ⟨_, same⟩
  | .binary left _ right => by
      obtain ⟨between, middle, first, second⟩ := Path.append_iff.mp path
      obtain ⟨type, rfl⟩ := state_of_expression left first
      obtain ⟨behind, table, transition, further⟩ := Path.cons_iff.mp second
      cases transition with
      | binary _ =>
          obtain ⟨operand, same⟩ := state_of_term right further
          exact ⟨_, same⟩

end

/-! ## Statements -/

section

variable {symbols symbols' : SymbolTable} {nest : Nest} {state' : State}

/-- A path along a condition in front of a body leads to the keyword that opens the body. -/
theorem exists_path_of_condition {condition rest : List Lexeme} {purpose : Purpose}
    (shape : Shape.Expression condition)
    (path : Path symbols (.term { purpose := purpose }) (condition ++ rest) state' symbols') :
    ∃ type, Path symbols (.operator type [] purpose) rest state' symbols' := by
  obtain ⟨between, middle, first, second⟩ := Path.append_iff.mp path
  obtain ⟨type, rfl⟩ := state_of_expression shape first
  obtain ⟨-, rfl⟩ := frame_of_path first id
  exact ⟨type, second⟩

/-- A path along the end of a body leads to where the next statement may stand. -/
theorem state_of_bodyEnd {body : Body} {keyword : Keyword}
    (ends : keyword = .endif ∨ keyword = .endloop)
    (path : Path symbols (.statement (nest.enter body)) [.keyword keyword, .separator .semicolon]
      state' symbols') :
    state' = .statement nest := by
  obtain ⟨between, middle, transition, last⟩ := Path.cons_iff.mp path
  have closes : between = .semicolon nest := by
    rcases ends with rfl | rfl
    · cases transition <;> rfl
    · cases transition; rfl
  subst closes
  cases Path.singleton_iff.mp last with
  | closed _ => rfl

end

mutual

/-- A path along a statement leads back to where a statement may stand. -/
theorem state_of_statement {lexemes : List Lexeme} (statement : Shape.Statement lexemes)
    {symbols symbols' : SymbolTable} {nest : Nest} {state' : State}
    (path : Path symbols (.statement nest) lexemes state' symbols') :
    state' = .statement nest :=
  match statement with
  | .assignment value => by
      obtain ⟨_, _, target, further⟩ := Path.cons_iff.mp path
      cases target with
      | target _ =>
          obtain ⟨_, _, arrow, further⟩ := Path.cons_iff.mp further
          cases arrow with
          | arrow =>
              obtain ⟨type, last⟩ := exists_path_of_condition value further
              cases Path.singleton_iff.mp last with
              | assigned _ => rfl
  | .output value => by
      obtain ⟨_, _, output, further⟩ := Path.cons_iff.mp path
      cases output with
      | output =>
          obtain ⟨type, last⟩ := exists_path_of_condition value further
          cases Path.singleton_iff.mp last with
          | printed _ => rfl
  | .branch condition body => by
      rw [List.append_assoc] at path
      obtain ⟨_, _, branch, further⟩ := Path.cons_iff.mp path
      cases branch with
      | branch =>
          obtain ⟨type, further⟩ := exists_path_of_condition condition further
          obtain ⟨_, _, opens, further⟩ := Path.cons_iff.mp further
          cases opens with
          | consequent =>
              obtain ⟨_, _, inside, further⟩ := Path.append_iff.mp further
              obtain rfl := state_of_statements body inside
              exact state_of_bodyEnd (.inl rfl) further
  | .alternative condition body other => by
      -- The second body opens where the first one ends, in the same statement.
      simp only [List.append_assoc, List.cons_append] at path
      obtain ⟨_, _, branch, further⟩ := Path.cons_iff.mp path
      cases branch with
      | branch =>
          obtain ⟨type, further⟩ := exists_path_of_condition condition further
          obtain ⟨_, _, opens, further⟩ := Path.cons_iff.mp further
          cases opens with
          | consequent =>
              obtain ⟨_, _, inside, further⟩ := Path.append_iff.mp further
              obtain rfl := state_of_statements body inside
              obtain ⟨_, _, parts, further⟩ := Path.cons_iff.mp further
              cases parts with
              | alternative =>
                  obtain ⟨_, _, inside, further⟩ := Path.append_iff.mp further
                  obtain rfl := state_of_statements other inside
                  exact @state_of_bodyEnd _ _ nest _ .alternative .endif (.inl rfl) further
  | .loop condition body => by
      rw [List.append_assoc] at path
      obtain ⟨_, _, loop, further⟩ := Path.cons_iff.mp path
      cases loop with
      | loop =>
          obtain ⟨type, further⟩ := exists_path_of_condition condition further
          obtain ⟨_, _, opens, further⟩ := Path.cons_iff.mp further
          cases opens with
          | repeated =>
              obtain ⟨_, _, inside, further⟩ := Path.append_iff.mp further
              obtain rfl := state_of_statements body inside
              exact state_of_bodyEnd (.inr rfl) further

/-- A path along statements leads back to where a statement may stand. -/
theorem state_of_statements {lexemes : List Lexeme} (statements : Shape.Statements lexemes)
    {symbols symbols' : SymbolTable} {nest : Nest} {state' : State}
    (path : Path symbols (.statement nest) lexemes state' symbols') :
    state' = .statement nest :=
  match statements with
  | .nil => (Path.nil_iff.mp path).1
  | .cons first rest => by
      obtain ⟨_, _, before, behind⟩ := Path.append_iff.mp path
      obtain rfl := state_of_statement first before
      exact state_of_statements rest behind

end

/-! ## Groups of declarations -/

section

variable {table table' : SymbolTable} {state' : State}

/-- A path along the names of a group leads behind the last one, and all of them are new. -/
theorem exists_read_of_names {lexemes : List Lexeme} (shape : Shape.Names lexemes)
    {type : ValueType} {alone : Bool}
    (path : Path table (.group type .empty alone) lexemes state' table') :
    ∃ names, state' = .group type .afterName alone ∧
      GroupRead table ⟨type, names⟩ .afterName lexemes table' := by
  -- The induction is on the names from the last one on, as they are read.
  induction shape generalizing state' table' with
  | one =>
      cases Path.singleton_iff.mp path with
      | name apart identifier added =>
          have read := (GroupRead.start table type).name apart identifier added
          exact ⟨_, rfl, read⟩
  | more _ induction =>
      obtain ⟨_, _, before, last⟩ := Path.append_iff.mp path
      obtain ⟨names, rfl, read⟩ := induction before
      obtain ⟨_, _, comma, last⟩ := Path.cons_iff.mp last
      cases comma with
      | comma =>
          cases Path.singleton_iff.mp last with
          | name apart identifier added =>
              have more := read.comma.name apart identifier added
              rw [List.append_assoc] at more
              exact ⟨_, rfl, more⟩

/-- A path along a group leads to where the next group may stand, and all its names are new. -/
theorem exists_group_of_shape {lexemes : List Lexeme} (shape : Shape.Group lexemes)
    (path : Path table .declarations lexemes state' table') :
    state' = .declarations ∧ ∃ group : Group, lexemes = group.lexemes ∧ group.IsValid ∧
      table.Fresh group.names ∧ table' = table.extend group.symbols := by
  cases shape with
  | @names keyword _ named shape =>
      obtain ⟨_, _, opens, further⟩ := Path.cons_iff.mp path
      cases opens with
      | @group _ type means =>
          obtain ⟨_, _, inside, last⟩ := Path.append_iff.mp further
          obtain ⟨names, rfl, read⟩ := exists_read_of_names shape inside
          cases Path.singleton_iff.mp last with
          | groupEnd =>
              obtain rfl := (valueType?_eq_some_iff keyword type).mp means
              exact ⟨rfl, ⟨type, names⟩, read.lexemes_eq.symm, read.isValid, read.fresh,
                read.extended⟩
      | statement starts =>
          -- No keyword that starts a statement or ends a program names a type.
          cases starts <;> cases named

/-- A path along groups leads to where the next group may stand. The groups declare no name twice,
and the table is theirs. -/
theorem exists_header_of_shapes {groups : List (List Lexeme)}
    (shapes : ∀ lexemes ∈ groups, Shape.Group lexemes)
    (path : Path table .declarations groups.flatten state' table') :
    state' = .declarations ∧
      ∃ read : List Group, groups = read.map Group.lexemes ∧ Header table read table' := by
  induction groups generalizing table with
  | nil =>
      obtain ⟨same, rfl⟩ := Path.nil_iff.mp path
      exact ⟨same, [], rfl, Header.start table'⟩
  | cons first rest induction =>
      obtain ⟨shape, others⟩ := List.forall_mem_cons.mp shapes
      rw [List.flatten_cons] at path
      obtain ⟨_, _, before, behind⟩ := Path.append_iff.mp path
      obtain ⟨rfl, group, rfl, valid, fresh, rfl⟩ := exists_group_of_shape shape before
      obtain ⟨same, read, rfl, header⟩ := induction others behind
      exact ⟨same, group :: read, rfl, header.cons valid fresh⟩

end

end Dopl.Checker
