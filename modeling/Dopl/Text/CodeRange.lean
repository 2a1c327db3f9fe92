/-! # Ranges of code points

A property of characters is given by a table of ranges of code points. This file holds the range
itself and the test that a table is searched with:

* **`CodeRange`** — a run of consecutive code points, both ends included.
* **`CodeRange.covers table c`** — whether some range of `table` holds the character `c`. -/

namespace Dopl.Text

/-- A run of consecutive code points, both ends included. -/
structure CodeRange where
  /-- The lowest code point of the run. -/
  first : Nat
  /-- The highest code point of the run. -/
  last : Nat
deriving DecidableEq, Repr

namespace CodeRange

/-- Whether the character's code point lies in the range. -/
def holds (range : CodeRange) (c : Char) : Bool :=
  decide (range.first ≤ c.toNat) && decide (c.toNat ≤ range.last)

/-- Whether some range of the table holds the character. -/
def covers (table : List CodeRange) (c : Char) : Bool :=
  table.any fun range => range.holds c

/-- A character lies in a range iff its code point lies between the two ends. -/
theorem holds_iff (range : CodeRange) (c : Char) :
    range.holds c = true ↔ range.first ≤ c.toNat ∧ c.toNat ≤ range.last := by
  simp [holds]

/-- A table covers a character iff one of its ranges holds it. -/
theorem covers_iff (table : List CodeRange) (c : Char) :
    covers table c = true ↔ ∃ range ∈ table, range.first ≤ c.toNat ∧ c.toNat ≤ range.last := by
  simp [covers, holds_iff]

end CodeRange

end Dopl.Text
