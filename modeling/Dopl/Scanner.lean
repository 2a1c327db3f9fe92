import Dopl.LineReader
import Dopl.Scanner.Fault
import Dopl.Text.Blank
import Dopl.Token
import Dopl.Vocabulary.Word

/-! # The scanner

The scanner reads lines character by character and splits them into tokens. Outside a literal the
pieces of a line are white space, which only separates; a separator; the assignment arrow; a quoted
text; an operator between two dots, without white space; and words, which are everything else. A
piece that is none of these is dropped and noted as an error, and the scan goes on.

* **`ScanMode`** — which piece the next character may go on with.
* **`Scanner`** — the tokens and errors so far, the piece being read, and the source.
* **`Scanner.feed`** reads one character, **`Scanner.endLine`** the end of a line,
  **`Scanner.scanLine`** a whole line and **`Scanner.scan?`** the rest of the source.
* **`scan`** — the scan of a whole source; **`tokenize`** gives its tokens, or its first error. -/

namespace Dopl

/-- Which piece the next character may go on with. -/
inductive ScanMode where
  /-- A word, or none: any piece may start. -/
  | plain
  /-- A quoted text, open until the next double quote. -/
  | quoted
  /-- An operator, open until the next dot. -/
  | dotted
  /-- An assignment arrow of which the less-than sign is read. -/
  | angle
deriving DecidableEq, Repr

/-- The state of a scan. -/
structure Scanner where
  /-- The lines being scanned, if a source is loaded. -/
  reader : Option LineReader := none
  /-- The tokens so far. -/
  tokens : Array Token := #[]
  /-- The errors so far. -/
  errors : Array ScanError := #[]
  /-- Which piece the next character may go on with. -/
  mode : ScanMode := .plain
  /-- The characters of the piece being read. -/
  pending : String := ""
deriving DecidableEq, Repr

/-- The kind of the token that a word makes: a keyword if it is one, an integer constant if it is
made of digits, and a name otherwise. -/
def wordKind (word : String) : TokenKind :=
  if (Keyword.ofText? word).isSome then .keyword
  else if isIntegerConstant word then .integer
  else .name

/-- The assignment arrow. -/
def Token.arrow : Token :=
  ⟨.assignment, "<-"⟩

namespace Scanner

/-! ## Tokens and errors -/

/-- The number of the line being scanned: one more than the lines read before it, or zero without a
source. -/
def lineNumber (scanner : Scanner) : Int :=
  match scanner.reader with
  | none => 0
  | some reader => reader.position + 1

/-- Adds a token. -/
def push (scanner : Scanner) (token : Token) : Scanner :=
  { scanner with tokens := scanner.tokens.push token }

/-- Notes a fault on the line being scanned. -/
def fail (scanner : Scanner) (fault : ScanFault) : Scanner :=
  { scanner with errors := scanner.errors.push ⟨fault, scanner.lineNumber⟩ }

/-- Makes the pending characters a token of a kind. -/
def emit (scanner : Scanner) (kind : TokenKind) : Scanner :=
  { scanner.push ⟨kind, scanner.pending⟩ with pending := "" }

/-- Makes the pending characters a word, if there are any. -/
def flush (scanner : Scanner) : Scanner :=
  if scanner.pending = "" then scanner else scanner.emit (wordKind scanner.pending)

/-- Goes back to plain text with nothing pending. -/
def reset (scanner : Scanner) : Scanner :=
  { scanner with mode := .plain, pending := "" }

/-- Adds a character to the pending ones. -/
def keep (scanner : Scanner) (c : Char) : Scanner :=
  { scanner with pending := scanner.pending.push c }

/-- Starts a piece with a character. -/
def enter (scanner : Scanner) (mode : ScanMode) (c : Char) : Scanner :=
  { scanner with mode := mode, pending := String.singleton c }

/-! ## Characters and lines -/

/-- Reads a character of plain text: a word goes on with it, or it ends the word and starts another
piece. -/
def feedPlain (scanner : Scanner) (c : Char) : Scanner :=
  if Text.isBlank c then scanner.flush
  else if c = '.' then scanner.flush.enter .dotted c
  else if c = '"' then scanner.flush.enter .quoted c
  else if Separator.isSeparator c then scanner.flush.push ⟨.separator, String.singleton c⟩
  else if c = '<' then { scanner.flush with mode := .angle }
  else scanner.keep c

/-- Reads a character. -/
def feed (scanner : Scanner) (c : Char) : Scanner :=
  match scanner.mode with
  | .plain => scanner.feedPlain c
  | .quoted =>
    if c = '"' then { (scanner.keep c).emit .character with mode := .plain } else scanner.keep c
  | .dotted =>
    if c = '.' then { (scanner.keep c).emit .operator with mode := .plain }
    else if Text.isBlank c then (scanner.fail (.blankInOperator scanner.pending)).reset
    else scanner.keep c
  | .angle =>
    if c = '-' then { scanner.push Token.arrow with mode := .plain }
    else { scanner.fail .loneAngle with mode := .plain }.feedPlain c

/-- Reads the end of a line. A word ends there, and no other piece may be open. -/
def endLine (scanner : Scanner) : Scanner :=
  match scanner.mode with
  | .plain => scanner.flush.reset
  | .quoted => (scanner.fail (.openLiteral scanner.pending)).reset
  | .dotted => (scanner.fail (.openOperator scanner.pending)).reset
  | .angle => (scanner.fail .loneAngle).reset

/-- Reads a line to its end. No character is left pending from before. -/
def scanLine (scanner : Scanner) (line : String) : Scanner :=
  (line.toList.foldl feed { scanner with pending := "" }).endLine

/-- Behind the end of a line no piece is open. -/
@[simp] theorem mode_endLine (scanner : Scanner) : scanner.endLine.mode = .plain := by
  unfold endLine
  split <;> rfl

/-- Behind the end of a line no character is pending. -/
@[simp] theorem pending_endLine (scanner : Scanner) : scanner.endLine.pending = "" := by
  unfold endLine
  split <;> rfl

/-- A scanned line leaves no piece open. -/
theorem mode_scanLine (scanner : Scanner) (line : String) :
    (scanner.scanLine line).mode = .plain :=
  mode_endLine _

/-- A scanned line leaves no character pending. -/
theorem pending_scanLine (scanner : Scanner) (line : String) :
    (scanner.scanLine line).pending = "" :=
  pending_endLine _

/-! ## Sources -/

/-- A scanner at the first line of a source. -/
def load (source : Source) : Scanner :=
  { reader := some (LineReader.ofSource source) }

/-- Moves on to the next line of the source. -/
def nextLine (scanner : Scanner) : Scanner :=
  { scanner with reader := scanner.reader.map fun reader => reader.move 1 }

/-- Scans the lines that are left, if a source is loaded. -/
def scan? (scanner : Scanner) : Option Scanner :=
  scanner.reader.map fun reader =>
    reader.remaining.foldl (fun scanner line => (scanner.scanLine line).nextLine) scanner

/-- Whether some error was noted. -/
def hasErrors (scanner : Scanner) : Bool :=
  !scanner.errors.isEmpty

end Scanner

/-- The scan of a whole source. -/
def scan (source : Source) : Scanner :=
  let reader := LineReader.ofSource source
  reader.lines.foldl (fun scanner line => (scanner.scanLine line).nextLine)
    { reader := some reader }

/-- The tokens of a source, or the first error in it. -/
def tokenize (source : Source) : Except ScanError (Array Token) :=
  let scanned := scan source
  match scanned.errors[0]? with
  | some error => .error error
  | none => .ok scanned.tokens

/-- The scan of a whole source is what a scanner loaded with it comes to. -/
theorem scan?_load (source : Source) : (Scanner.load source).scan? = some (scan source) := by
  simp [Scanner.load, Scanner.scan?, scan, LineReader.remaining, LineReader.ofSource]

end Dopl
