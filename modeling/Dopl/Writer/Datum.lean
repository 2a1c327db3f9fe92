import Dopl.Text.Quoted

/-! # Plain values

A **`Datum`** is a plain value as a client may hand it over, and **`Datum.shown`** is how messages
show it. -/

namespace Dopl

/-- A plain value. -/
inductive Datum where
  /-- No value. -/
  | nothing
  /-- A truth value. -/
  | truth (value : Bool)
  /-- A whole number. -/
  | number (value : Int)
  /-- A text. -/
  | text (content : String)
  /-- Values in order. -/
  | list (items : List Datum)
  /-- Values under names. -/
  | record (members : List (String × Datum))
deriving Inhabited

namespace Datum

/-- The word for a truth value. -/
def truthText (value : Bool) : String :=
  if value then "True" else "False"

/-- The word for no value. -/
def nothingText : String :=
  "None"

mutual

/-- The value as messages show it: texts quoted, lists in brackets, records in braces. -/
def shown : Datum → String
  | .nothing => nothingText
  | .truth value => truthText value
  | .number value => toString value
  | .text content => Text.quote content
  | .list items => "[" ++ ", ".intercalate (shownItems items) ++ "]"
  | .record members => "\x7b" ++ ", ".intercalate (shownMembers members) ++ "\x7d"

/-- The values of a list, each as messages show it. -/
def shownItems : List Datum → List String
  | [] => []
  | item :: items => item.shown :: shownItems items

/-- The values of a record, each behind its quoted name. -/
def shownMembers : List (String × Datum) → List String
  | [] => []
  | (name, value) :: members =>
    (Text.quote name ++ ": " ++ value.shown) :: shownMembers members

end

/-- Whether the value is empty: nothing, false, zero, or without content. -/
def isEmpty : Datum → Bool
  | .nothing => true
  | .truth value => !value
  | .number value => value == 0
  | .text content => content.isEmpty
  | .list items => items.isEmpty
  | .record members => members.isEmpty

end Datum

end Dopl
