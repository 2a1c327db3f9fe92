import Dopl.FileCheck

/-! # Checking whole folders

A batch checks every source file of some folders, folder by folder in the given order and the files
of a folder in the order of their names. It ends early at the first folder or file that cannot be
read. The **`BatchEntry`**s of a batch tell all that happened, in order, and the rest is read off
them: the text that is written, the verdict of each file, the log, and the fault it ended at. -/

namespace Dopl

/-- Something that happened in a batch. -/
inductive BatchEntry where
  /-- A file is checked. -/
  | checked (name : String) (fullName : Option String) (report : Report)
  /-- A file, found or not, or a folder cannot be read. -/
  | unread (fullName : Option String) (fault : ReadFault)
  /-- All the files of a folder are checked. -/
  | folderEnd

namespace BatchEntry

/-- What a file makes of a batch. -/
def ofFile (library : Library) (disk : Disk) (name : String) : BatchEntry :=
  let file := checkFile library disk name
  match file.result with
  | .ok report => .checked name file.fullName report
  | .error fault => .unread file.fullName fault

/-- The fault that ends the batch, if the entry is one. -/
def fault? : BatchEntry → Option ReadFault
  | .unread _ fault => some fault
  | .checked .. | .folderEnd => none

/-- The line between the folders of a batch, without its end. -/
def folderSeparator : String :=
  "\n==============\n"

/-- What is written for the entry: the verdict of a file, and a separator behind a folder, each with
a line end. -/
def text (lineEnd : String) : BatchEntry → String
  | .checked _ _ report => report.verdict.text ++ lineEnd
  | .unread .. => ""
  | .folderEnd => folderSeparator ++ lineEnd

/-- What is noted in the log. -/
def events : BatchEntry → List LogEvent
  | .checked name fullName report =>
    FileCheck.events ⟨fullName, .ok report⟩ ++ [.judged name report.verdict]
  | .unread fullName fault => FileCheck.events ⟨fullName, .error fault⟩
  | .folderEnd => []

end BatchEntry

/-- All that happened in a batch, in order. -/
structure Batch where
  /-- The entries, the earliest first. -/
  entries : List BatchEntry := []

namespace Batch

/-- The fault that the batch ended at, if it ended early. -/
def fault? (batch : Batch) : Option ReadFault :=
  batch.entries.findSome? BatchEntry.fault?

/-- Goes on with another batch, unless this one ended early. -/
def followedBy (batch next : Batch) : Batch :=
  if batch.fault?.isSome then batch else ⟨batch.entries ++ next.entries⟩

/-- Checks files one after another. -/
def ofFiles (library : Library) (disk : Disk) : List String → Batch
  | [] => {}
  | name :: names =>
    followedBy ⟨[.ofFile library disk name]⟩ (ofFiles library disk names)

/-- Checks the files of a folder. -/
def ofFolder (library : Library) (disk : Disk) (folder : String) : Batch :=
  match library.list disk folder with
  | .error fault => ⟨[.unread none fault]⟩
  | .ok names => (ofFiles library disk names).followedBy ⟨[.folderEnd]⟩

/-- Checks folders one after another. -/
def ofFolders (library : Library) (disk : Disk) : List String → Batch
  | [] => {}
  | folder :: folders => (ofFolder library disk folder).followedBy (ofFolders library disk folders)

/-- All that is written. -/
def text (lineEnd : String) (batch : Batch) : String :=
  String.join (batch.entries.map (BatchEntry.text lineEnd))

/-- All that is noted in the log. -/
def events (batch : Batch) : List LogEvent :=
  batch.entries.flatMap BatchEntry.events

/-- The verdicts with one more: a name seen before keeps its place. -/
def record (verdicts : List (String × Verdict)) (name : String) (verdict : Verdict) :
    List (String × Verdict) :=
  if verdicts.any fun old => old.1 == name then
    verdicts.map fun old => if old.1 = name then (name, verdict) else old
  else verdicts ++ [(name, verdict)]

/-- The verdict of each file, in the order in which the files were first checked. -/
def verdicts (batch : Batch) : List (String × Verdict) :=
  batch.entries.foldl (fun verdicts entry =>
    match entry with
    | .checked name _ report => record verdicts name report.verdict
    | .unread .. | .folderEnd => verdicts) []

end Batch

end Dopl
