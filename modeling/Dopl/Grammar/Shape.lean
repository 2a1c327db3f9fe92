import Dopl.Token

/-! # The shape of programs

The grammar without declarations and types: any name may stand for an identifier, and any quoted
text for a character constant. What has this shape may still be refused for its names and types. -/

namespace Dopl.Grammar.Shape

mutual

/-- The lexemes have the shape of a term. -/
inductive Term : List Lexeme → Prop where
  /-- An integer constant. -/
  | integer : Term [.integer]
  /-- A quoted text. -/
  | character {text : String} : Term [.character text]
  /-- A name. -/
  | name {name : String} : Term [.name name]
  /-- A unary operator before a term. -/
  | unary {operator : Operator} {lexemes : List Lexeme} :
      operator.isUnary = true → Term lexemes → Term (.operator operator :: lexemes)
  /-- An expression in parentheses. -/
  | parentheses {lexemes : List Lexeme} :
      Expression lexemes → Term (.separator .opening :: lexemes ++ [.separator .closing])

/-- The lexemes have the shape of an expression. -/
inductive Expression : List Lexeme → Prop where
  /-- A single term. -/
  | term {lexemes : List Lexeme} : Term lexemes → Expression lexemes
  /-- An expression, a binary operator and a term. -/
  | binary {left right : List Lexeme} {operator : Operator} :
      Expression left → operator.isBinary = true → Term right →
        Expression (left ++ .operator operator :: right)

end

mutual

/-- The lexemes have the shape of a statement. -/
inductive Statement : List Lexeme → Prop where
  /-- An assignment. -/
  | assignment {name : String} {value : List Lexeme} :
      Expression value → Statement (.name name :: .assignment :: value ++ [.separator .semicolon])
  /-- An output. -/
  | output {value : List Lexeme} :
      Expression value → Statement (.keyword .print :: value ++ [.separator .semicolon])
  /-- A branch with one body. -/
  | branch {condition body : List Lexeme} :
      Expression condition → Statements body →
        Statement (.keyword .if_ :: condition ++ .keyword .then_ :: body ++
          [.keyword .endif, .separator .semicolon])
  /-- A branch with two bodies. -/
  | alternative {condition body other : List Lexeme} :
      Expression condition → Statements body → Statements other →
        Statement (.keyword .if_ :: condition ++ .keyword .then_ :: body ++
          .keyword .else_ :: other ++ [.keyword .endif, .separator .semicolon])
  /-- A loop. -/
  | loop {condition body : List Lexeme} :
      Expression condition → Statements body →
        Statement (.keyword .loopif :: condition ++ .keyword .do_ :: body ++
          [.keyword .endloop, .separator .semicolon])

/-- The lexemes have the shape of statements, one behind the other. -/
inductive Statements : List Lexeme → Prop where
  /-- No statement. -/
  | nil : Statements []
  /-- One statement before the others. -/
  | cons {lexemes rest : List Lexeme} :
      Statement lexemes → Statements rest → Statements (lexemes ++ rest)

end

/-- The lexemes have the shape of names with commas between them. -/
inductive Names : List Lexeme → Prop where
  /-- One name. -/
  | one {name : String} : Names [.name name]
  /-- Names, a comma and a name more. -/
  | more {lexemes : List Lexeme} {name : String} :
      Names lexemes → Names (lexemes ++ [.separator .comma, .name name])

/-- The lexemes have the shape of a group of declarations. -/
inductive Group : List Lexeme → Prop where
  /-- A keyword that names a type, names, and a semicolon. -/
  | names {keyword : Keyword} {names : List Lexeme} :
      keyword.valueType?.isSome = true → Names names →
        Group (.keyword keyword :: names ++ [.separator .semicolon])

/-- The lexemes have the shape of groups, one behind the other. -/
inductive Groups : List Lexeme → Prop where
  /-- No group. -/
  | nil : Groups []
  /-- One group before the others. -/
  | cons {lexemes rest : List Lexeme} : Group lexemes → Groups rest → Groups (lexemes ++ rest)

/-- The lexemes have the shape of a program. -/
inductive Program : List Lexeme → Prop where
  /-- The first keyword, groups, statements, and the last keyword. -/
  | body {groups statements : List Lexeme} :
      Groups groups → Statements statements →
        Program (.keyword .start :: groups ++ statements ++ [.keyword .finish])

end Dopl.Grammar.Shape
