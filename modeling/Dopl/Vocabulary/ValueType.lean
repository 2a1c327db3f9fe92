/-! # Value types

Every value of a program has one of three types. -/

namespace Dopl

/-- The type of a value. -/
inductive ValueType where
  /-- Whole numbers. -/
  | integer
  /-- Single characters. -/
  | character
  /-- Truth values. -/
  | logical
deriving DecidableEq, Repr

namespace ValueType

/-- The three types, in the order of their codes. -/
def all : List ValueType :=
  [.integer, .character, .logical]

/-- The word that names the type in a program and in messages. -/
def text : ValueType → String
  | .integer => "integer"
  | .character => "character"
  | .logical => "logical"

/-- The label of the type in tables, in capitals. -/
def label : ValueType → String
  | .integer => "INTEGER"
  | .character => "CHARACTER"
  | .logical => "LOGICAL"

/-- The code of the type: its place among the types. -/
def code (type : ValueType) : Nat :=
  all.idxOf type

/-- The type that a word names. -/
def ofText? (word : String) : Option ValueType :=
  all.find? fun type => type.text == word

/-- A word names a type iff it is that type's text. -/
theorem ofText?_eq_some_iff (word : String) (type : ValueType) :
    ofText? word = some type ↔ word = type.text := by
  constructor
  · intro found
    have same := List.find?_some found
    simpa using (beq_iff_eq.mp same).symm
  · rintro rfl
    cases type <;> rfl

end ValueType

end Dopl
