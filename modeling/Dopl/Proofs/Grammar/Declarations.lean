import Dopl.Grammar.Program
import Dopl.Proofs.SymbolTable

/-! # Groups of declarations, name by name

A group is read from its first name to its last:

* **`intersperse_concat`** — how the separators stand when an element comes last.
* **`Group.map_name_symbols`** — the symbols of a group have its names, in order.
* **`Group.fresh_flatMap_cons`** — groups can be declared one after the other.
* **`valueType?_eq_some_iff`** — each type has one keyword. -/

namespace Dopl.Grammar

/-- A separator stands before every element but the first. -/
theorem intersperse_concat {α : Type} (separator last : α) (list : List α) :
    (list ++ [last]).intersperse separator =
      list.intersperse separator ++ (if list = [] then [] else [separator]) ++ [last] := by
  induction list with
  | nil => rfl
  | cons first rest induction =>
      cases rest with
      | nil => rfl
      | cons second others =>
          simp only [List.cons_append, reduceCtorEq, if_false] at induction ⊢
          simp only [List.intersperse, induction, List.cons_append]

namespace Group

/-- The symbols of a group have its names. -/
theorem map_name_symbols (group : Group) : group.symbols.map Symbol.name = group.names := by
  rw [symbols, List.map_map]
  exact List.map_id _

/-- The symbols of groups have their names. -/
theorem map_name_flatMap_symbols (groups : List Group) :
    (groups.flatMap symbols).map Symbol.name = groups.flatMap names := by
  rw [List.map_flatMap]
  simp only [map_name_symbols]

/-- Groups can be declared iff the first one can, and the others behind it. -/
theorem fresh_flatMap_cons (table : SymbolTable) (group : Group) (groups : List Group) :
    table.Fresh ((group :: groups).flatMap names) ↔
      table.Fresh group.names ∧ (table.extend group.symbols).Fresh (groups.flatMap names) := by
  rw [List.flatMap_cons, ← group.map_name_symbols, SymbolTable.fresh_append,
    group.map_name_symbols]

/-- The group with one name more. -/
def addName (group : Group) (name : String) : Group :=
  { group with names := group.names ++ [name] }

/-- One name more changes no type. -/
@[simp] theorem type_addName (group : Group) (name : String) :
    (group.addName name).type = group.type :=
  rfl

/-- One name more is one symbol more. -/
theorem symbols_addName (group : Group) (name : String) :
    (group.addName name).symbols = group.symbols ++ [⟨name, group.type⟩] := by
  rw [symbols, addName, List.map_append]
  rfl

end Group

/-- A keyword names a type iff it is the keyword of that type. -/
theorem valueType?_eq_some_iff (keyword : Keyword) (type : ValueType) :
    keyword.valueType? = some type ↔ keyword = typeKeyword type := by
  constructor
  · intro names
    cases keyword <;> cases names <;> rfl
  · rintro rfl
    cases type <;> rfl

end Dopl.Grammar
