import Dopl.Vocabulary.Keyword

/-! # Separators

The four punctuation marks that are tokens by themselves, and the words that end an expression
without being part of it. -/

namespace Dopl

/-- A punctuation mark. -/
inductive Separator where
  /-- Stands between the names of a declaration. -/
  | comma
  /-- Ends a declaration or a statement. -/
  | semicolon
  /-- Opens a parenthesis. -/
  | opening
  /-- Closes a parenthesis. -/
  | closing
deriving DecidableEq, Repr

namespace Separator

/-- The separators, in the order of their codes. -/
def all : List Separator :=
  [.comma, .semicolon, .opening, .closing]

/-- The mark itself. -/
def char : Separator → Char
  | .comma => ','
  | .semicolon => ';'
  | .opening => '('
  | .closing => ')'

/-- The mark as a text. -/
def text (separator : Separator) : String :=
  String.singleton separator.char

/-- The label of the separator in tables and messages. -/
def label : Separator → String
  | .comma => "COMMA"
  | .semicolon => "SEMI"
  | .opening => "LBRA"
  | .closing => "RBRA"

/-- The code of the separator: its place among the separators. -/
def code (separator : Separator) : Nat :=
  all.idxOf separator

/-- The separator that a word is. -/
def ofText? (word : String) : Option Separator :=
  all.find? fun separator => separator.text == word

/-- A word is a separator iff it is that separator's text. -/
theorem ofText?_eq_some_iff (word : String) (separator : Separator) :
    ofText? word = some separator ↔ word = separator.text := by
  constructor
  · intro found
    have same := List.find?_some found
    simpa using (beq_iff_eq.mp same).symm
  · rintro rfl
    cases separator <;> rfl

/-- Whether the character is a separator. -/
def isSeparator (c : Char) : Bool :=
  all.any fun separator => separator.char == c

end Separator

/-- The words that end an expression without being part of it. -/
def expressionEnders : List String :=
  [Separator.semicolon.text, Keyword.then_.text, Keyword.do_.text, Keyword.else_.text,
    Separator.closing.text]

/-- Whether the word ends an expression without being part of it. -/
def endsExpression (word : String) : Bool :=
  expressionEnders.contains word

end Dopl
