import Dopl.Disk
import Dopl.Library.Fault
import Dopl.Text.Lines

/-! # Finding and reading source files

A **`Library`** says how the names of source files end and in which folders they are looked for:

* **`Library.checkName`** — refuses a name that does not end so.
* **`Library.fullName`** — the full name of the file that a name stands for.
* **`Library.locate`** — both of these.
* **`Library.read`** — the lines of a located file, and **`Library.readLines`** those of a name.
* **`Library.list`** — the source files in a folder. -/

namespace Dopl

/-- How source files are named and where they are looked for. -/
structure Library where
  /-- What the name of a source file ends in. -/
  suffix : String := ".dopl"
  /-- The folders in which relative names are looked for, in order. -/
  folders : List String := ["."]
deriving DecidableEq, Repr

namespace Library

/-- The library with a suffix and some folders; with none given, the working folder is searched. -/
def ofFolders (suffix : String) (folders : List String) : Library :=
  { suffix := suffix, folders := if folders.isEmpty then ["."] else folders }

/-- Whether a name ends as the names of source files do. -/
def admits (library : Library) (name : String) : Bool :=
  library.suffix.toList.isSuffixOf name.toList

/-- Refuses a name that does not end as the names of source files do. -/
def checkName (library : Library) (name : String) : Except ReadFault Unit :=
  if library.admits name then .ok () else .error (.badSuffix name)

/-- The full name of the file that a name stands for. An absolute name is its own full name; any
other is looked for in each folder in turn, and the first file found gives the full name. -/
def fullName (library : Library) (disk : Disk) (name : String) : Except ReadFault String :=
  if Path.isAbsolute name then
    if disk.isFile name then .ok name else .error (.noFile name)
  else
    match library.folders.find? fun folder => disk.isFile (Path.join folder name) with
    | some folder => .ok (disk.absolute (Path.join folder name))
    | none => .error (.noFile name)

/-- The full name of the source file that a name stands for. -/
def locate (library : Library) (disk : Disk) (name : String) : Except ReadFault String := do
  library.checkName name
  library.fullName disk name

/-- The lines of the text of a file. -/
def linesOf (text : String) : List String :=
  (Text.splitLines Text.isFileBreak text).map Text.trimLineEnd

/-- The lines of a file by its full name, which may be longer than the path it was found under. A
fault names the file by the name it was asked for. -/
def read (disk : Disk) (name fullName : String) : Except ReadFault (List String) :=
  match disk.read fullName with
  | .error fault => .error (.unopened name fullName fault)
  | .ok content =>
    match Text.decode content with
    | .ok text => .ok (linesOf text)
    | .error fault => .error (.undecodable name fault)

/-- The lines of the source file that a name stands for. -/
def readLines (library : Library) (disk : Disk) (name : String) :
    Except ReadFault (List String) := do
  let fullName ← library.locate disk name
  read disk name fullName

/-- The source files directly in a folder, each seen from the folder, in the order of their code
points. -/
def list (library : Library) (disk : Disk) (folder : String) : Except ReadFault (List String) :=
  match disk.names? folder with
  | none => .error (.noFolder folder)
  | some names =>
    let sources := names.filter fun name =>
      library.admits name && disk.isFile (Path.join folder name)
    .ok ((sources.map (Path.join folder)).mergeSort fun a b => decide (a ≤ b))

end Library

end Dopl
