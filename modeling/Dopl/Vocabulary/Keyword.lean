import Dopl.Vocabulary.ValueType

/-! # Keywords

The reserved words of the language. Three of them name value types; four of them end a list of
statements. -/

namespace Dopl

/-- A reserved word. -/
inductive Keyword where
  /-- Opens a program. -/
  | start
  /-- Closes a program. -/
  | finish
  /-- Opens a branch. -/
  | if_
  /-- Opens the first body of a branch. -/
  | then_
  /-- Opens the second body of a branch. -/
  | else_
  /-- Closes a branch. -/
  | endif
  /-- Opens a loop. -/
  | loopif
  /-- Opens the body of a loop. -/
  | do_
  /-- Closes a loop. -/
  | endloop
  /-- Opens an output statement. -/
  | print
  /-- Declares whole numbers. -/
  | integer
  /-- Declares single characters. -/
  | character
  /-- Declares truth values. -/
  | logical
deriving DecidableEq, Repr

namespace Keyword

/-- The keywords, in the order of their codes. -/
def all : List Keyword :=
  [.start, .finish, .if_, .then_, .else_, .endif, .loopif, .do_, .endloop, .print, .integer,
    .character, .logical]

/-- The keyword as a program writes it. -/
def text : Keyword → String
  | .start => "start"
  | .finish => "finish"
  | .if_ => "if"
  | .then_ => "then"
  | .else_ => "else"
  | .endif => "endif"
  | .loopif => "loopif"
  | .do_ => "do"
  | .endloop => "endloop"
  | .print => "print"
  | .integer => "integer"
  | .character => "character"
  | .logical => "logical"

/-- The label of the keyword in tables and messages, in capitals. -/
def label : Keyword → String
  | .start => "START"
  | .finish => "FINISH"
  | .if_ => "IF"
  | .then_ => "THEN"
  | .else_ => "ELSE"
  | .endif => "ENDIF"
  | .loopif => "LOOPIF"
  | .do_ => "DO"
  | .endloop => "ENDLOOP"
  | .print => "PRINT"
  | .integer => "INTEGER"
  | .character => "CHARACTER"
  | .logical => "LOGICAL"

/-- The code of the keyword: its place among the keywords. -/
def code (keyword : Keyword) : Nat :=
  all.idxOf keyword

/-- The keyword that a word is. -/
def ofText? (word : String) : Option Keyword :=
  all.find? fun keyword => keyword.text == word

/-- A word is a keyword iff it is that keyword's text. -/
theorem ofText?_eq_some_iff (word : String) (keyword : Keyword) :
    ofText? word = some keyword ↔ word = keyword.text := by
  constructor
  · intro found
    have same := List.find?_some found
    simpa using (beq_iff_eq.mp same).symm
  · rintro rfl
    cases keyword <;> rfl

/-- The value type that the keyword names, if it names one. -/
def valueType? : Keyword → Option ValueType
  | .integer => some .integer
  | .character => some .character
  | .logical => some .logical
  | _ => none

/-- Whether the keyword ends a list of statements. -/
def endsStatements : Keyword → Bool
  | .finish | .else_ | .endif | .endloop => true
  | _ => false

end Keyword

/-- Whether the word is a keyword that ends a list of statements. -/
def endsStatements (word : String) : Bool :=
  (Keyword.ofText? word).any Keyword.endsStatements

end Dopl
