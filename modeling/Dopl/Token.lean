import Dopl.Text.Quoted
import Dopl.Vocabulary.Operator
import Dopl.Vocabulary.Separator

/-! # Tokens

A token is a kind and the source text it was cut from. The two are independent: a token of any kind
may carry any text, and what a token means to the checker is its **`lexeme`**, which is
`unknown` where kind and text do not fit together. -/

namespace Dopl

/-- The kind of a token. -/
inductive TokenKind where
  /-- Reserved; the scanner never makes one. -/
  | reserved
  /-- A keyword. -/
  | keyword
  /-- An identifier, valid or not. -/
  | name
  /-- An integer constant. -/
  | integer
  /-- A text between double quotes. -/
  | character
  /-- A text between dots. -/
  | operator
  /-- A separator. -/
  | separator
  /-- The assignment arrow. -/
  | assignment
  /-- The end of the input. -/
  | endOfInput
deriving DecidableEq, Repr

namespace TokenKind

/-- The kinds, in the order of their codes. -/
def all : List TokenKind :=
  [.reserved, .keyword, .name, .integer, .character, .operator, .separator, .assignment,
    .endOfInput]

/-- The label of the kind in messages, in capitals. -/
def label : TokenKind → String
  | .reserved => "NONE"
  | .keyword => "KEYWORD"
  | .name => "NAME"
  | .integer => "INT"
  | .character => "CHAR"
  | .operator => "OP"
  | .separator => "SEP"
  | .assignment => "ASN"
  | .endOfInput => "EOF"

/-- The code of the kind: its place among the kinds. -/
def code (kind : TokenKind) : Nat :=
  all.idxOf kind

end TokenKind

/-- A piece of source text with its kind. -/
structure Token where
  /-- The kind. -/
  kind : TokenKind
  /-- The source text. -/
  text : String
deriving DecidableEq, Repr

/-- What a token means: the word of the vocabulary it is, or the kind of operand. -/
inductive Lexeme where
  /-- A keyword of the table. -/
  | keyword (keyword : Keyword)
  /-- An identifier. -/
  | name (name : String)
  /-- An integer constant. -/
  | integer
  /-- A quoted text. -/
  | character (text : String)
  /-- An operator of the table. -/
  | operator (operator : Operator)
  /-- A separator of the table. -/
  | separator (separator : Separator)
  /-- The assignment arrow. -/
  | assignment
  /-- The end of the input. -/
  | endOfInput
  /-- A token that means nothing. -/
  | unknown
deriving DecidableEq, Repr

namespace Token

/-- The token that ends a stream. -/
def endOfInput : Token :=
  ⟨.endOfInput, ""⟩

/-- The token as messages show it: kind and quoted text between angle brackets. -/
def shown (token : Token) : String :=
  "<" ++ token.kind.label ++ ", " ++ Text.quote token.text ++ ">"

/-- What the token means. -/
def lexeme (token : Token) : Lexeme :=
  match token.kind with
  | .reserved => .unknown
  | .keyword => (Keyword.ofText? token.text).elim .unknown .keyword
  | .name => .name token.text
  | .integer => .integer
  | .character => .character token.text
  | .operator => (Operator.ofText? token.text).elim .unknown .operator
  | .separator => (Separator.ofText? token.text).elim .unknown .separator
  | .assignment => .assignment
  | .endOfInput => .endOfInput

/-- Whether the token ends an expression: a separator or keyword token with the text of an
expression ender. -/
def endsExpression (token : Token) : Bool :=
  (token.kind == .separator || token.kind == .keyword) && Dopl.endsExpression token.text

/-- The value type that the token names, if it is such a keyword. -/
def valueType? (token : Token) : Option ValueType :=
  match token.lexeme with
  | .keyword keyword => keyword.valueType?
  | _ => none

end Token

end Dopl
