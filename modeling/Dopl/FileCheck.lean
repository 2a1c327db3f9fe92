import Dopl.Library
import Dopl.Report

/-! # Checking a source file

A source file is found, read and checked; only a file that is read has a verdict. A **`FileCheck`**
tells how far that came, and the log is read off it: **`LogEvent`** is what is noted on the way, and
**`LogEvent.line`** the line it makes. -/

namespace Dopl

/-- What comes of checking a source file. -/
structure FileCheck where
  /-- The full name of the file, if it is found. -/
  fullName : Option String
  /-- The report on its lines, if they can be read. -/
  result : Except ReadFault Report

/-- Checks the source file that a name stands for. -/
def checkFile (library : Library) (disk : Disk) (name : String) : FileCheck :=
  match library.locate disk name with
  | .error fault => ⟨none, .error fault⟩
  | .ok fullName =>
    ⟨some fullName, (Library.read disk name fullName).map fun lines => check (.lines lines)⟩

/-- A file has the report on its lines iff they can be read, and otherwise the fault of reading. -/
theorem checkFile_result (library : Library) (disk : Disk) (name : String) :
    (checkFile library disk name).result =
      (library.readLines disk name).map fun lines => check (.lines lines) := by
  unfold checkFile Library.readLines
  cases located : library.locate disk name <;> rfl

/-! ## The log -/

/-- Something noted on the way. -/
inductive LogEvent where
  /-- A file is found and read. -/
  | reading (fullName : String)
  /-- The scan notes an error. -/
  | scanError (error : ScanError)
  /-- The scan is over. -/
  | scanned (tokens errors : Nat)
  /-- The program is refused. -/
  | refused (cause : Cause)
  /-- A file of a batch has its verdict. -/
  | judged (name : String) (verdict : Verdict)
deriving DecidableEq, Repr

namespace LogEvent

/-- The part of the program that notes the event. -/
def source : LogEvent → String
  | .reading _ => "pydopl.preprocess"
  | .scanError _ | .scanned .. => "pydopl.lex"
  | .refused _ => "pydopl.parse"
  | .judged .. => "pydopl.debug"

/-- What is noted. -/
def text : LogEvent → String
  | .reading fullName => "Reading " ++ fullName
  | .scanError error => error.diagnostic.message
  | .scanned tokens errors =>
    "Scanned " ++ toString tokens ++ " tokens, " ++ toString errors ++ " lexical errors"
  | .refused (.tooDeep position) =>
    "Program nested too deeply at token " ++ toString position
  | .refused (.scan error) => error.diagnostic.message
  | .refused (.check fault position) => (fault.placedAt position).message
  | .judged name verdict => name ++ ": " ++ verdict.text

/-- The line of the log. -/
def line (event : LogEvent) : String :=
  "DEBUG:" ++ event.source ++ ":" ++ event.text ++ "\n"

end LogEvent

/-- What is noted while a source is checked. -/
def Report.events (report : Report) : List LogEvent :=
  report.scanned.errors.toList.map LogEvent.scanError ++
    [.scanned report.scanned.tokens.size report.scanned.errors.size] ++
    report.cause.toList.map LogEvent.refused

/-- What is noted while a file is checked. -/
def FileCheck.events (file : FileCheck) : List LogEvent :=
  file.fullName.toList.map LogEvent.reading ++
    match file.result with
    | .ok report => report.events
    | .error _ => []

/-- The lines of a log. -/
def logText (events : List LogEvent) : String :=
  String.join (events.map LogEvent.line)

end Dopl
