import Dopl.Grammar.Expression

/-! # Statements, declarations and programs

Which lists of lexemes are well-formed and well-typed statements, groups of declarations and
programs:

* **`Statement`**, **`Statements`** — one statement, and any number of them.
* **`Group`** — the type and the names of a group of declarations, with its lexemes.
* **`Program`** — the lexemes of a program, with the symbols it declares. -/

namespace Dopl.Grammar

mutual

/-- The lexemes are a statement. -/
inductive Statement (symbols : SymbolTable) : List Lexeme → Prop where
  /-- An assignment of a value of the target's type. -/
  | assignment {name : String} {symbol : Symbol} {value : List Lexeme} :
      symbols.lookup name = some symbol → Expression symbols value symbol.type →
        Statement symbols (.name name :: .assignment :: value ++ [.separator .semicolon])
  /-- An output of a value of any type. -/
  | output {value : List Lexeme} {type : ValueType} :
      Expression symbols value type →
        Statement symbols (.keyword .print :: value ++ [.separator .semicolon])
  /-- A branch with one body. -/
  | branch {condition body : List Lexeme} :
      Expression symbols condition .logical → Statements symbols body →
        Statement symbols (.keyword .if_ :: condition ++ .keyword .then_ :: body ++
          [.keyword .endif, .separator .semicolon])
  /-- A branch with two bodies. -/
  | alternative {condition body other : List Lexeme} :
      Expression symbols condition .logical → Statements symbols body →
        Statements symbols other →
        Statement symbols (.keyword .if_ :: condition ++ .keyword .then_ :: body ++
          .keyword .else_ :: other ++ [.keyword .endif, .separator .semicolon])
  /-- A loop. -/
  | loop {condition body : List Lexeme} :
      Expression symbols condition .logical → Statements symbols body →
        Statement symbols (.keyword .loopif :: condition ++ .keyword .do_ :: body ++
          [.keyword .endloop, .separator .semicolon])

/-- The lexemes are statements, one behind the other. -/
inductive Statements (symbols : SymbolTable) : List Lexeme → Prop where
  /-- No statement. -/
  | nil : Statements symbols []
  /-- One statement before the others. -/
  | cons {lexemes rest : List Lexeme} :
      Statement symbols lexemes → Statements symbols rest → Statements symbols (lexemes ++ rest)

end

/-- The keyword that names a value type. -/
def typeKeyword : ValueType → Keyword
  | .integer => .integer
  | .character => .character
  | .logical => .logical

/-- A group of declarations. -/
structure Group where
  /-- The type that the names get. -/
  type : ValueType
  /-- The names, in order. -/
  names : List String
deriving DecidableEq, Repr

namespace Group

/-- The lexemes of the group: the type, the names with commas between them, and a semicolon. -/
def lexemes (group : Group) : List Lexeme :=
  .keyword (typeKeyword group.type) ::
    (group.names.map Lexeme.name).intersperse (.separator .comma) ++ [.separator .semicolon]

/-- The symbols that the group declares. -/
def symbols (group : Group) : List Symbol :=
  group.names.map fun name => ⟨name, group.type⟩

/-- Whether the group declares something, and identifiers only. -/
def IsValid (group : Group) : Prop :=
  group.names ≠ [] ∧ ∀ name ∈ group.names, isIdentifier name = true

end Group

/-- The symbols that groups declare, in order. -/
def declared (groups : List Group) : SymbolTable :=
  ⟨groups.flatMap Group.symbols⟩

/-- The lexemes are a program that declares the symbols. -/
inductive Program : List Lexeme → SymbolTable → Prop where
  /-- Groups of declarations that declare no name twice, and statements over their symbols. -/
  | body {groups : List Group} {statements : List Lexeme} :
      (∀ group ∈ groups, group.IsValid) → (groups.flatMap Group.names).Nodup →
      Statements (declared groups) statements →
        Program (.keyword .start :: groups.flatMap Group.lexemes ++ statements ++
          [.keyword .finish]) (declared groups)

end Dopl.Grammar
