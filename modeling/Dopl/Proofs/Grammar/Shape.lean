import Dopl.Grammar.Shape
import Dopl.Proofs.Grammar.Declarations
import Dopl.Proofs.Lexeme
import Mathlib.Data.List.Induction

/-! # Shapes of what the grammar derives

What is well formed has the shape of it, and a shape may be continued:

* **`Term.shape`**, **`Expression.shape`**, **`Statement.shape`**, **`Group.shape`** — without
  declarations and types a derivation is still one.
* **`Shape.Statement.unmarked`**, **`Shape.Group.unmarked`** — no end mark stands in what has a
  shape.
* **`Shape.Viable`** — the tokens begin a sequence of tokens that has the shape of a program. -/

namespace Dopl.Grammar

variable {symbols : SymbolTable}

/-! ## Terms and expressions -/

mutual

/-- A term has the shape of one. -/
theorem Term.shape {lexemes : List Lexeme} {type : ValueType} (term : Term symbols lexemes type) :
    Shape.Term lexemes :=
  match term with
  | .integer => .integer
  | .character _ => .character
  | .name _ => .name
  | .minus operand => .unary rfl operand.shape
  | .not operand => .unary rfl operand.shape
  | .parentheses inside => .parentheses inside.shape

/-- Operators with terms behind them go on with the shape of an expression. -/
theorem Operands.shape {lexemes left : List Lexeme} {pairs : List (Operator × ValueType)}
    (operands : Operands symbols lexemes pairs) (expression : Shape.Expression left) :
    Shape.Expression (left ++ lexemes) :=
  match operands with
  | .nil => by
      rw [List.append_nil]
      exact expression
  | .cons joins term rest => by
      rw [← List.append_assoc]
      exact rest.shape (.binary expression joins term.shape)

/-- An expression has the shape of one. -/
theorem Expression.shape {lexemes : List Lexeme} {type : ValueType}
    (expression : Expression symbols lexemes type) : Shape.Expression lexemes :=
  match expression with
  | .join term operands => operands.shape (.term term.shape)

end

/-! ## Statements -/

mutual

/-- A statement has the shape of one. -/
theorem Statement.shape {lexemes : List Lexeme} (statement : Statement symbols lexemes) :
    Shape.Statement lexemes :=
  match statement with
  | .assignment _ value => .assignment value.shape
  | .output value => .output value.shape
  | .branch condition body => .branch condition.shape body.shape
  | .alternative condition body other => .alternative condition.shape body.shape other.shape
  | .loop condition body => .loop condition.shape body.shape

/-- Statements have the shape of some. -/
theorem Statements.shape {lexemes : List Lexeme} (statements : Statements symbols lexemes) :
    Shape.Statements lexemes :=
  match statements with
  | .nil => .nil
  | .cons first rest => .cons first.shape rest.shape

end

/-- Statements go on with statements. -/
theorem Shape.Statements.append {lexemes others : List Lexeme}
    (statements : Shape.Statements lexemes) (rest : Shape.Statements others) :
    Shape.Statements (lexemes ++ others) :=
  match statements with
  | .nil => rest
  | .cons first behind => by
      rw [List.append_assoc]
      exact .cons first (behind.append rest)

/-- A statement alone has the shape of statements. -/
theorem Shape.Statements.single {lexemes : List Lexeme} (statement : Shape.Statement lexemes) :
    Shape.Statements lexemes := by
  have statements := Shape.Statements.cons statement .nil
  rw [List.append_nil] at statements
  exact statements

/-- Statements one behind the other have the shape of statements. -/
theorem Shape.Statements.flatten {statements : List (List Lexeme)}
    (shapes : ∀ lexemes ∈ statements, Shape.Statement lexemes) :
    Shape.Statements statements.flatten := by
  induction statements with
  | nil => exact .nil
  | cons first rest induction =>
      obtain ⟨shape, others⟩ := List.forall_mem_cons.mp shapes
      exact .cons shape (induction others)

/-! ## Declarations -/

/-- Names with commas between them have the shape of names. The induction is on the names from the
last one on, since that is where the shape grows. -/
theorem Shape.names_intersperse {names : List String} (some : names ≠ []) :
    Shape.Names ((names.map Lexeme.name).intersperse (.separator .comma)) := by
  induction names using List.reverseRecOn with
  | nil => exact absurd rfl some
  | append_singleton names last induction =>
      rw [List.map_append, List.map_singleton, intersperse_concat]
      by_cases first : names = []
      · subst first
        exact .one
      · rw [if_neg (by simpa using first), List.append_assoc]
        exact .more (induction first)

/-- A valid group has the shape of one. -/
theorem Group.shape {group : Group} (valid : group.IsValid) : Shape.Group group.lexemes := by
  refine .names ?_ (Shape.names_intersperse valid.1)
  rw [(valueType?_eq_some_iff _ group.type).mpr rfl]
  rfl

/-- Valid groups have the shape of groups. -/
theorem groups_shape {groups : List Group} (valid : ∀ group ∈ groups, group.IsValid) :
    Shape.Groups (groups.flatMap Group.lexemes) := by
  induction groups with
  | nil => exact .nil
  | cons group groups induction =>
      obtain ⟨validFirst, validRest⟩ := List.forall_mem_cons.mp valid
      exact .cons (Group.shape validFirst) (induction validRest)

/-- Groups go on with one group more. -/
theorem Shape.Groups.concat {lexemes last : List Lexeme} (groups : Shape.Groups lexemes)
    (group : Shape.Group last) : Shape.Groups (lexemes ++ last) :=
  match groups with
  | .nil => by
      have single := Shape.Groups.cons group .nil
      rw [List.append_nil] at single
      exact single
  | .cons first rest => by
      rw [List.append_assoc]
      exact .cons first (rest.concat group)

/-- Behind the first of some names only a comma stands. -/
theorem Shape.Names.exists_eq_cons {lexemes : List Lexeme} (names : Shape.Names lexemes) :
    ∃ name rest, lexemes = .name name :: rest ∧
      (rest = [] ∨ ∃ more, rest = .separator .comma :: more) := by
  induction names with
  | @one name => exact ⟨name, [], rfl, .inl rfl⟩
  | @more _ last _ induction =>
      obtain ⟨name, rest, rfl, rfl | ⟨more, rfl⟩⟩ := induction
      · exact ⟨name, _, rfl, .inr ⟨_, rfl⟩⟩
      · exact ⟨name, _, rfl, .inr ⟨_, rfl⟩⟩

/-- A statement starts with no type. -/
theorem Shape.Statement.exists_eq_cons {lexemes : List Lexeme}
    (statement : Shape.Statement lexemes) :
    ∃ first rest, lexemes = first :: rest ∧
      ∀ keyword, first = .keyword keyword → keyword.valueType? = none := by
  cases statement <;> exact ⟨_, _, rfl, fun keyword same => by cases same <;> rfl⟩

/-- A program whose first group has two names without a comma between them has not the shape of
one. -/
theorem Shape.not_program_of_two_names {keyword : Keyword} {name other : String}
    {rest : List Lexeme} (names : keyword.valueType?.isSome = true) :
    ¬Shape.Program (.keyword .start :: .keyword keyword :: .name name :: .name other :: rest) := by
  intro program
  generalize same : Lexeme.keyword .start :: .keyword keyword :: .name name :: .name other :: rest =
    lexemes at program
  cases program with
  | body groups statements =>
      cases groups with
      | nil =>
          -- Without a group, a statement or the last keyword is where the type is.
          cases statements with
          | nil => cases same
          | cons statement _ =>
              obtain ⟨first, behind, rfl, apart⟩ := statement.exists_eq_cons
              have named : Lexeme.keyword keyword = first := by
                simp only [List.cons_append, List.nil_append, List.append_assoc,
                  List.cons.injEq] at same
                exact same.2.1
              rw [apart keyword named.symm] at names
              cases names
      | cons group _ =>
          cases group with
          | names _ listed =>
              obtain ⟨_, _, rfl, rfl | ⟨_, rfl⟩⟩ := listed.exists_eq_cons <;> cases same

/-! ## What stands in a shape -/

namespace Shape

mutual

/-- No end mark stands in a term. -/
theorem Term.unmarked {lexemes : List Lexeme} (term : Term lexemes) :
    Lexeme.endOfInput ∉ lexemes :=
  match term with
  | .integer => by simp
  | .character => by simp
  | .name => by simp
  | .unary _ inner => by simp [inner.unmarked]
  | .parentheses inside => by simp [inside.unmarked]

/-- No end mark stands in an expression. -/
theorem Expression.unmarked {lexemes : List Lexeme} (expression : Expression lexemes) :
    Lexeme.endOfInput ∉ lexemes :=
  match expression with
  | .term term => term.unmarked
  | .binary left _ right => by simp [left.unmarked, right.unmarked]

end

mutual

/-- No end mark stands in a statement. -/
theorem Statement.unmarked {lexemes : List Lexeme} (statement : Statement lexemes) :
    Lexeme.endOfInput ∉ lexemes :=
  match statement with
  | .assignment value => by simp [value.unmarked]
  | .output value => by simp [value.unmarked]
  | .branch condition body => by simp [condition.unmarked, body.unmarked]
  | .alternative condition body other => by
      simp [condition.unmarked, body.unmarked, other.unmarked]
  | .loop condition body => by simp [condition.unmarked, body.unmarked]

/-- No end mark stands in statements. -/
theorem Statements.unmarked {lexemes : List Lexeme} (statements : Statements lexemes) :
    Lexeme.endOfInput ∉ lexemes :=
  match statements with
  | .nil => by simp
  | .cons first rest => by simp [first.unmarked, rest.unmarked]

end

/-- Names and commas stand in the names of a group. -/
theorem Names.mem_cases {lexemes : List Lexeme} (names : Names lexemes) {lexeme : Lexeme}
    (member : lexeme ∈ lexemes) : (∃ name, lexeme = .name name) ∨ lexeme = .separator .comma := by
  induction names with
  | @one name =>
      rw [List.mem_singleton] at member
      exact .inl ⟨name, member⟩
  | @more _ name _ induction =>
      rcases List.mem_append.mp member with before | last
      · exact induction before
      · simp only [List.mem_cons, List.not_mem_nil, or_false] at last
        exact last.symm.imp (fun same => ⟨name, same⟩) id

/-- A type, names and separators stand in a group. -/
theorem Group.mem_cases {lexemes : List Lexeme} (group : Group lexemes) {lexeme : Lexeme}
    (member : lexeme ∈ lexemes) :
    (∃ keyword : Keyword, keyword.valueType?.isSome = true ∧ lexeme = .keyword keyword) ∨
      (∃ name, lexeme = .name name) ∨ lexeme = .separator .comma ∨
        lexeme = .separator .semicolon := by
  cases group with
  | @names keyword _ named names =>
      simp only [List.cons_append, List.mem_cons, List.mem_append, List.not_mem_nil,
        or_false] at member
      rcases member with first | inside | last
      · exact .inl ⟨keyword, named, first⟩
      · rcases names.mem_cases inside with name | comma
        · exact .inr (.inl name)
        · exact .inr (.inr (.inl comma))
      · exact .inr (.inr (.inr last))

/-- No end mark stands in a group. -/
theorem Group.unmarked {lexemes : List Lexeme} (group : Group lexemes) :
    Lexeme.endOfInput ∉ lexemes := by
  intro member
  rcases group.mem_cases member with ⟨_, _, same⟩ | ⟨_, same⟩ | same | same <;> cases same

end Shape

/-! ## Viable prefixes -/

namespace Shape

/-- The tokens begin a sequence of tokens that has the shape of a program. -/
def Viable (tokens : List Token) : Prop :=
  ∃ rest : List Token, Program ((tokens ++ rest).map Token.lexeme)

/-- The beginning of what is viable is viable. -/
theorem Viable.take {tokens : List Token} (viable : Viable tokens) (count : Nat) :
    Viable (tokens.take count) := by
  obtain ⟨rest, program⟩ := viable
  refine ⟨tokens.drop count ++ rest, ?_⟩
  rw [← List.append_assoc, List.take_append_drop]
  exact program

/-- Tokens are viable if some lexemes behind what they mean make the shape of a program. -/
theorem viable_of_program {tokens : List Token} {rest : List Lexeme}
    (program : Program (tokens.map Token.lexeme ++ rest)) : Viable tokens := by
  refine ⟨rest.map Lexeme.token, ?_⟩
  rw [List.map_append, Lexeme.map_lexeme_token]
  exact program

end Shape

end Dopl.Grammar
