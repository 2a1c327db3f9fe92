import Dopl.Text.Hex
import Dopl.Text.Printable

/-! # Quoted text

Messages show a piece of source text between quotes, so that its ends and its invisible characters
can be seen:

* **`quoteMark text`** — the mark used: the apostrophe, unless the text has an apostrophe and no
  double quote.
* **`escape printable mark c`** — one character inside the quotes: the mark in use and the
  backslash after a backslash, the three common control characters by a letter, every other
  character that is not printable by its code point, and all else as it is.
* **`quoteWith printable text`** — the text between its marks, for any choice of the printable
  characters; **`quote`** takes those of `isPrintable`. -/

namespace Dopl.Text

/-- The mark around a quoted text: the double quote iff the text has an apostrophe and no double
quote, otherwise the apostrophe. -/
def quoteMark (text : List Char) : Char :=
  if text.contains '\'' && !text.contains '"' then '"' else '\''

/-- The escape of a character by its code point, as short as the code point allows: two, four or
eight hexadecimal digits after `x`, `u` or `U`. -/
def escapeCode (c : Char) : List Char :=
  if c.toNat < 0x100 then '\\' :: 'x' :: hexDigits 2 c.toNat
  else if c.toNat < 0x10000 then '\\' :: 'u' :: hexDigits 4 c.toNat
  else '\\' :: 'U' :: hexDigits 8 c.toNat

/-- One character between quotes. -/
def escape (printable : Char → Bool) (mark c : Char) : List Char :=
  if c = mark ∨ c = '\\' then ['\\', c]
  else if c = '\n' then ['\\', 'n']
  else if c = '\r' then ['\\', 'r']
  else if c = '\t' then ['\\', 't']
  else if printable c then [c]
  else escapeCode c

/-- A text between its quote marks, where `printable` tells which characters are shown as they
are. -/
def quoteWith (printable : Char → Bool) (text : List Char) : List Char :=
  let mark := quoteMark text
  mark :: text.flatMap (escape printable mark) ++ [mark]

/-- A text between its quote marks, its printable characters shown as they are. -/
def quote (text : String) : String :=
  String.ofList (quoteWith isPrintable text.toList)

end Dopl.Text
