import Dopl.Disk
import Dopl.Report
import Dopl.Writer.Datum

/-! # Writing text

A **`Writer`** puts values one behind another into a text, with a separator behind a word and a line
end behind a line. The text goes to a buffer of the client, to the console or to a file; only a file
can be closed, and takes nothing more then.

* **`Target.ofDatum`** — the target that a plain value stands for, if it is one.
* **`Cell`** — a value that can be written.
* **`Writer.perform`** carries out one **`WriteCommand`**. -/

namespace Dopl

/-- Where text goes. -/
inductive Target where
  /-- To a buffer of the client. -/
  | buffer
  /-- To the console. -/
  | console
  /-- To a file. -/
  | file (path : String)
deriving DecidableEq, Repr

/-- Why there is no writer. -/
inductive TargetFault where
  /-- The value is no target. -/
  | notTarget (value : Datum)
  /-- The text holds a null character, and is no path. -/
  | notPath (text : String)
  /-- The file cannot be opened. -/
  | notOpened (fault : PathFault)

/-- The wording of the fault, where it has one. -/
def TargetFault.text? : TargetFault → Option String
  | .notTarget value => some ("Cannot write to " ++ value.shown)
  | .notPath _ | .notOpened _ => none

/-- The target that a plain value stands for: the console if it is empty, and a file if it is a
text. -/
def Target.ofDatum (value : Datum) : Except TargetFault Target :=
  if value.isEmpty then .ok .console
  else
    match value with
    | .text path => .ok (.file path)
    | other => .error (.notTarget other)

/-- A value that can be written. -/
inductive Cell where
  /-- A text, written as it is. -/
  | text (content : String)
  /-- A whole number. -/
  | number (value : Int)
  /-- A truth value. -/
  | truth (value : Bool)
  /-- No value. -/
  | nothing
  /-- A verdict. -/
  | verdict (verdict : Verdict)
  /-- A value type. -/
  | type (type : ValueType)
  /-- A token. -/
  | token (token : Token)
deriving DecidableEq, Repr

/-- What is written for a value. -/
def Cell.shown : Cell → String
  | .text content => content
  | .number value => toString value
  | .truth value => Datum.truthText value
  | .nothing => Datum.nothingText
  | .verdict value => value.text
  | .type value => value.text
  | .token value => value.shown

/-- A text being written. -/
structure Writer where
  /-- Where the text goes. -/
  target : Target
  /-- What stands behind a word. -/
  separator : String := " "
  /-- What stands behind a line. -/
  lineEnd : String := "\n"
  /-- The text so far. -/
  text : String := ""
  /-- Whether the target takes more text. -/
  isOpen : Bool := true
deriving DecidableEq, Repr

/-- Something a writer can be told to do. -/
inductive WriteCommand where
  /-- Writes a value. -/
  | write (cell : Cell)
  /-- Writes a value and a line end. -/
  | writeLine (cell : Cell)
  /-- Writes a value and a separator. -/
  | writeWord (cell : Cell)
  /-- Closes the target, if it can be closed. -/
  | close
deriving DecidableEq, Repr

namespace Writer

/-- A writer to a target. A file is emptied; it has to be one, or to be new in a folder. -/
def open? (disk : Disk) (target : Target) (separator lineEnd : String) :
    Except TargetFault Writer :=
  let writer : Writer := { target := target, separator := separator, lineEnd := lineEnd }
  match target with
  | .file path =>
    if Path.hasNull path then .error (.notPath path)
    else
      match disk.place? path with
      | .ok _ => .ok writer
      | .error fault => .error (.notOpened fault)
  | .buffer | .console => .ok writer

/-- Whether the target can be closed. -/
def isCloseable (writer : Writer) : Bool :=
  match writer.target with
  | .file _ => true
  | .buffer | .console => false

/-- Adds to the text, unless the target is closed. -/
def append? (writer : Writer) (added : String) : Option Writer :=
  if writer.isOpen then some { writer with text := writer.text ++ added } else none

/-- Carries out a command; a closed target takes no text. -/
def perform (writer : Writer) : WriteCommand → Option Writer
  | .write cell => writer.append? cell.shown
  | .writeLine cell => writer.append? (cell.shown ++ writer.lineEnd)
  | .writeWord cell => writer.append? (cell.shown ++ writer.separator)
  | .close => some (if writer.isCloseable then { writer with isOpen := false } else writer)

end Writer

end Dopl
