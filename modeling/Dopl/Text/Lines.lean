/-! # Lines of a text

A text falls into lines at its line breaks. Which characters break a line depends on where the text
comes from, so the break is a parameter:

* **`splitLines isBreak text`** — the lines of a text. A carriage return and the line feed after it
  are one break; a break at the very end opens no further line.
* **`isTextBreak`** — the breaks of a text given as a whole.
* **`isFileBreak`** — the breaks of a file.
* **`trimLineEnd line`** — the line without the carriage returns and line feeds it ends in. -/

namespace Dopl.Text

/-- Puts a character in front of the first of some lines, opening one if there is none. -/
def consFirstLine (c : Char) : List (List Char) → List (List Char)
  | [] => [[c]]
  | line :: lines => (c :: line) :: lines

/-- The lines of a sequence of characters, without their breaks. -/
def splitChars (isBreak : Char → Bool) : List Char → List (List Char)
  | [] => []
  | '\r' :: '\n' :: rest => [] :: splitChars isBreak rest
  | c :: rest =>
    if isBreak c then [] :: splitChars isBreak rest
    else consFirstLine c (splitChars isBreak rest)

/-- The lines of a text, without their breaks. -/
def splitLines (isBreak : Char → Bool) (text : String) : List String :=
  (splitChars isBreak text.toList).map String.ofList

/-- Whether the character ends a line of a file: a line feed or a carriage return. -/
def isFileBreak (c : Char) : Bool :=
  c = '\n' || c = '\r'

/-- The characters other than line feed and carriage return that end a line of a text: the vertical
tab, the form feed, three record separators, the next-line control, and the line and paragraph
separators. -/
def extraBreaks : List Char :=
  ['\x0b', '\x0c', '\x1c', '\x1d', '\x1e', '\u0085', '\u2028', '\u2029']

/-- Whether the character ends a line of a text given as a whole. -/
def isTextBreak (c : Char) : Bool :=
  isFileBreak c || extraBreaks.contains c

/-- The line without the carriage returns and line feeds it ends in. -/
def trimLineEnd (line : String) : String :=
  String.ofList (line.toList.reverse.dropWhile isFileBreak).reverse

end Dopl.Text
