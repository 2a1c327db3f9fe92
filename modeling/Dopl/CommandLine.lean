import Dopl.Batch

/-! # The command line

The program checks one file, or all the source files of some folders:

* **`Request.ofArguments`** — what the arguments ask for.
* **`Request.carryOut`** — the exit code and the two texts that are written, given the disk.
* **`runArguments`** — both of these. -/

namespace Dopl

/-- The name of the option that asks for help. -/
def helpOption : String := "-h"

/-- The name of the option that turns the log on. -/
def logOption : String := "-v"

/-- The name of the command that checks folders. -/
def batchCommand : String := "batch"

/-- How the program is called with one file. -/
def usageLine : String :=
  "dopl [-v] FILE"

/-- How the program is called, and what for. -/
def usage : String :=
  usageLine ++ "\ndopl [-v] batch FOLDER...\n\nCheck a DOPL program and print \"ok\" or \"error\"."

/-- What is asked for. -/
inductive Job where
  /-- To be told how the program is called. -/
  | help
  /-- The verdict on a file. -/
  | file (name : String)
  /-- The verdicts on all the files of some folders. -/
  | folders (folders : List String)
  /-- A batch without folders. -/
  | noFolders
  /-- Not exactly one file. -/
  | badCount
deriving DecidableEq, Repr

/-- What the arguments ask for. -/
structure Request where
  /-- Whether the log is written too. -/
  logged : Bool
  /-- What is asked for. -/
  job : Job
deriving DecidableEq, Repr

/-- What the arguments without options ask for. -/
def Job.ofArguments : List String → Job
  | [] => .badCount
  | first :: rest =>
    if first = batchCommand then
      if rest.isEmpty then .noFolders else .folders rest
    else if rest.isEmpty then .file first
    else .badCount

/-- What the arguments ask for. Help comes before all else; only the first option for the log is
an option. -/
def Request.ofArguments (arguments : List String) : Request :=
  if arguments.contains helpOption then ⟨false, .help⟩
  else ⟨arguments.contains logOption, .ofArguments (arguments.erase logOption)⟩

/-- What a call of the program leaves behind. -/
structure Exit where
  /-- The exit code. -/
  code : Nat
  /-- What is written to the output. -/
  output : String := ""
  /-- What is written to the error output, the log apart. -/
  errors : String := ""
deriving DecidableEq, Repr

/-- A text on a line of its own. -/
def asLine (text : String) : String :=
  text ++ "\n"

/-- The exit after a batch. -/
def Batch.exit (batch : Batch) : Exit :=
  match batch.fault? with
  | none => { code := 0, output := batch.text "\n" }
  | some fault =>
    { code := 1, output := batch.text "\n", errors := asLine fault.diagnostic.message }

/-- The exit after checking a file of a name. -/
def FileCheck.exit (name : String) (file : FileCheck) : Exit :=
  match file.result with
  | .ok report => { code := 0, output := asLine report.verdict.text }
  | .error fault =>
    { code := 1
      errors := asLine ("Exception parsing: " ++ name) ++ asLine fault.diagnostic.message }

/-- The exit of a job, and what is noted in the log. -/
def Job.carryOut (library : Library) (disk : Disk) : Job → Exit × List LogEvent
  | .help => ({ code := 0, output := asLine usage }, [])
  | .noFolders => ({ code := 2, errors := asLine "Error: No input folders" }, [])
  | .badCount => ({ code := 2, errors := asLine ("Usage: " ++ usageLine) }, [])
  | .folders names =>
    let batch := Batch.ofFolders library disk names
    (batch.exit, batch.events)
  | .file name =>
    if library.admits name then
      let file := checkFile library disk name
      (file.exit name, file.events)
    else ({ code := 2, errors := asLine (ReadFault.badSuffix name).text }, [])

/-- The exit of a request. The log comes first in the error output: whatever else is written there
ends the program. -/
def Request.carryOut (library : Library) (disk : Disk) (request : Request) : Exit :=
  let (exit, events) := request.job.carryOut library disk
  if request.logged then { exit with errors := logText events ++ exit.errors } else exit

/-- Runs the program with some arguments. -/
def runArguments (disk : Disk) (arguments : List String) : Exit :=
  (Request.ofArguments arguments).carryOut {} disk

end Dopl
