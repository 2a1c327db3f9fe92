import Dopl.SymbolTable

/-! # Declaring many names

A list of names can be declared one after the other iff no name stands in it twice and none is
declared before:

* **`SymbolTable.extend`** — the table with symbols more, at its end.
* **`SymbolTable.Fresh`** — the names can be declared.
* **`SymbolTable.fresh_append`** — some names first, and the others behind them.
* **`SymbolTable.lookup_eq_of_perm`** — the order of the declarations does not matter for a name. -/

namespace Dopl.SymbolTable

/-- The table with some symbols more, at its end. -/
def extend (table : SymbolTable) (symbols : List Symbol) : SymbolTable :=
  ⟨table.symbols ++ symbols⟩

/-- Adding no symbol changes nothing. -/
@[simp] theorem extend_nil (table : SymbolTable) : table.extend [] = table := by
  rw [extend, List.append_nil]

/-- Symbols are added one after the other. -/
theorem extend_append (table : SymbolTable) (symbols others : List Symbol) :
    table.extend (symbols ++ others) = (table.extend symbols).extend others := by
  simp only [extend, List.append_assoc]

/-- One symbol more is a list of one symbol more. -/
theorem insert_eq_extend (table : SymbolTable) (symbol : Symbol) :
    table.insert symbol = table.extend [symbol] :=
  rfl

/-- The names can be declared one after the other: they are distinct, and none is declared yet. -/
def Fresh (table : SymbolTable) (names : List String) : Prop :=
  names.Nodup ∧ ∀ name ∈ names, ∀ symbol ∈ table.symbols, symbol.name ≠ name

/-- No names can always be declared. -/
@[simp] theorem fresh_nil (table : SymbolTable) : table.Fresh [] :=
  ⟨List.nodup_nil, fun _ member => absurd member List.not_mem_nil⟩

/-- In an empty table all distinct names can be declared. -/
theorem fresh_empty_iff (names : List String) :
    (SymbolTable.mk []).Fresh names ↔ names.Nodup := by
  simp [Fresh]

/-- Names can be declared behind some symbols iff they can be declared together with their names. -/
theorem fresh_append (table : SymbolTable) (symbols : List Symbol) (others : List String) :
    table.Fresh (symbols.map Symbol.name ++ others) ↔
      table.Fresh (symbols.map Symbol.name) ∧ (table.extend symbols).Fresh others := by
  simp only [Fresh, extend, List.nodup_append, List.mem_append]
  constructor
  · rintro ⟨⟨distinct, othersDistinct, apart⟩, absent⟩
    refine ⟨⟨distinct, fun name member => absent name (.inl member)⟩, othersDistinct, ?_⟩
    rintro name member symbol (declared | added)
    · exact absent name (.inr member) symbol declared
    · exact apart symbol.name (List.mem_map_of_mem added) name member
  · rintro ⟨⟨distinct, absent⟩, othersDistinct, othersAbsent⟩
    refine ⟨⟨distinct, othersDistinct, ?_⟩, ?_⟩
    · intro name member other otherMember
      obtain ⟨symbol, added, rfl⟩ := List.mem_map.mp member
      exact othersAbsent other otherMember symbol (.inr added)
    · rintro name (member | member) symbol declared
      · exact absent name member symbol declared
      · exact othersAbsent name member symbol (.inl declared)

/-- A declaration goes through iff the name can be declared, and then adds it at the end. -/
theorem declare?_eq_some_iff_fresh (table declared : SymbolTable) (name : String)
    (type : ValueType) :
    table.declare? name type = some declared ↔
      table.Fresh [name] ∧ declared = table.extend [⟨name, type⟩] := by
  rw [declare?_eq_some_iff, insert_eq_extend]
  simp [Fresh]

/-! ## The order of the symbols -/

/-- Where no name is declared twice, a name is that of the symbol that has it. -/
theorem lookup_eq_some_iff {table : SymbolTable} (distinct : (table.symbols.map Symbol.name).Nodup)
    (name : String) (symbol : Symbol) :
    table.lookup name = some symbol ↔ symbol ∈ table.symbols ∧ symbol.name = name := by
  obtain ⟨symbols⟩ := table
  unfold lookup
  dsimp only at distinct ⊢
  induction symbols with
  | nil => simp
  | cons first rest induction =>
      rw [List.map_cons, List.nodup_cons] at distinct
      rw [List.find?_cons, List.mem_cons]
      by_cases same : first.name = name
      · simp only [same, beq_self_eq_true, Option.some.injEq]
        constructor
        · rintro rfl
          exact ⟨.inl rfl, same⟩
        · rintro ⟨rfl | later, named⟩
          · rfl
          · -- A later symbol has not the name of the first one.
            rw [same, ← named] at distinct
            exact absurd (List.mem_map_of_mem later) distinct.1
      · simp only [beq_eq_false_iff_ne.mpr same]
        rw [induction distinct.2]
        constructor
        · rintro ⟨later, named⟩
          exact ⟨.inr later, named⟩
        · rintro ⟨rfl | later, named⟩
          · exact absurd named same
          · exact ⟨later, named⟩

/-- Where no name is declared twice, another order of the declarations changes nothing for a
name. -/
theorem lookup_eq_of_perm {table other : SymbolTable} (perm : other.symbols.Perm table.symbols)
    (distinct : (table.symbols.map Symbol.name).Nodup) (name : String) :
    other.lookup name = table.lookup name := by
  have otherDistinct : (other.symbols.map Symbol.name).Nodup :=
    (perm.map Symbol.name).nodup_iff.mpr distinct
  ext symbol
  rw [lookup_eq_some_iff otherDistinct, lookup_eq_some_iff distinct, perm.mem_iff]

end Dopl.SymbolTable
