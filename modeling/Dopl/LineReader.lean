import Dopl.Text.Lines

/-! # Reading lines one after another

A source is a whole text or a list of lines; either way it comes down to lines without their ends. A
**`LineReader`** holds them with the position of the next one. -/

namespace Dopl

/-- What is to be scanned. -/
inductive Source where
  /-- A whole text, which falls into lines at its line breaks. -/
  | text (text : String)
  /-- Lines that are not split any further. -/
  | lines (lines : List String)
deriving DecidableEq, Repr

/-- The lines of a source, none ending in a carriage return or a line feed. -/
def Source.toLines : Source → List String
  | .text content => (Text.splitLines Text.isTextBreak content).map Text.trimLineEnd
  | .lines contents => contents.map Text.trimLineEnd

/-- Lines and the position of the next one. -/
structure LineReader where
  /-- All the lines. -/
  lines : List String
  /-- The index of the next line. It may be moved before the first line and behind the last. -/
  position : Int := 0
deriving DecidableEq, Repr

namespace LineReader

/-- A reader at the first line of a source. -/
def ofSource (source : Source) : LineReader :=
  { lines := source.toLines }

/-- The line at the position. A negative position counts from the end of the lines. -/
def line? (reader : LineReader) : Option String :=
  let index := if reader.position < 0 then reader.position + reader.lines.length
    else reader.position
  if index < 0 then none else reader.lines[index.toNat]?

/-- Whether no line is left. -/
def atEnd (reader : LineReader) : Bool :=
  decide ((reader.lines.length : Int) ≤ reader.position)

/-- Moves by a number of lines, in either direction. -/
def move (reader : LineReader) (count : Int) : LineReader :=
  { reader with position := reader.position + count }

/-- The lines that are left. -/
def remaining (reader : LineReader) : List String :=
  reader.lines.drop reader.position.toNat

end LineReader

end Dopl
