import Dopl.Vocabulary.ValueType

/-! # The symbol table

The declared identifiers with their types, in the order of their declarations. A name is declared at
most once; a second declaration is refused and changes nothing. -/

namespace Dopl

/-- A declared identifier. -/
structure Symbol where
  /-- The name. -/
  name : String
  /-- The type of its values. -/
  type : ValueType
deriving DecidableEq, Repr

/-- The symbol as messages show it. -/
def Symbol.shown (symbol : Symbol) : String :=
  "[Symbol " ++ symbol.name ++ ": " ++ symbol.type.text ++ "]"

/-- The declared identifiers, in the order of their declarations. -/
structure SymbolTable where
  /-- The symbols, the earliest first. -/
  symbols : List Symbol := []
deriving DecidableEq, Repr

namespace SymbolTable

/-- The symbol declared under a name. -/
def lookup (table : SymbolTable) (name : String) : Option Symbol :=
  table.symbols.find? fun symbol => symbol.name == name

/-- The type declared for a name. -/
def typeOf (table : SymbolTable) (name : String) : Option ValueType :=
  (table.lookup name).map Symbol.type

/-- Whether a name is declared. -/
def contains (table : SymbolTable) (name : String) : Bool :=
  (table.lookup name).isSome

/-- The number of declared names. -/
def size (table : SymbolTable) : Nat :=
  table.symbols.length

/-- The table with one symbol more, at its end. -/
def insert (table : SymbolTable) (symbol : Symbol) : SymbolTable :=
  ⟨table.symbols ++ [symbol]⟩

/-- Declares a name, unless it is declared already. -/
def declare? (table : SymbolTable) (name : String) (type : ValueType) : Option SymbolTable :=
  if table.contains name then none else some (table.insert ⟨name, type⟩)

/-- A name is declared iff some symbol has it. -/
theorem contains_iff (table : SymbolTable) (name : String) :
    table.contains name = true ↔ ∃ symbol ∈ table.symbols, symbol.name = name := by
  simp [contains, lookup]

/-- A declaration goes through iff no symbol has the name, and then adds one symbol at the end. -/
theorem declare?_eq_some_iff (table declared : SymbolTable) (name : String) (type : ValueType) :
    table.declare? name type = some declared ↔
      (∀ symbol ∈ table.symbols, symbol.name ≠ name) ∧ declared = table.insert ⟨name, type⟩ := by
  unfold declare?
  cases found : table.contains name with
  | true =>
    obtain ⟨symbol, member, same⟩ := (contains_iff table name).mp found
    simp only [if_true, reduceCtorEq, false_iff, not_and]
    exact fun absent => absurd same (absent symbol member)
  | false =>
    have absent : ∀ symbol ∈ table.symbols, symbol.name ≠ name := fun symbol member same => by
      have := (contains_iff table name).mpr ⟨symbol, member, same⟩
      simp [found] at this
    simp only [Bool.false_eq_true, if_false, Option.some.injEq]
    exact ⟨fun same => ⟨absent, same.symm⟩, fun both => both.2.symm⟩

end SymbolTable

end Dopl
