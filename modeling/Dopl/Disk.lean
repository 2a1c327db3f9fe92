import Dopl.Path

/-! # Files and folders

A **`Disk`** is a tree of files and folders at one moment, with a working folder. A place in the
tree is a **`Location`**: the names on the way to it, the innermost first, so that the folder it
lies in is its tail and the root is empty.

* **`Disk.resolve`** — the location that a path names.
* **`Disk.read`**, **`Disk.names?`** — the bytes of a file, the names in a folder.
* **`Disk.place?`** — where a file opened for writing under a path lies.
* **`Disk.addFolder`**, **`Disk.addFile`** — the tree with a folder or a file more. -/

namespace Dopl

/-- A place in the tree: the names on the way to it, the innermost first. -/
abbrev Location := List String

/-- The normalised path of a location. -/
def Location.path (location : Location) : String :=
  Path.ofComponents "/" location

/-- What stands at a location. -/
inductive DiskEntry where
  /-- A file with its bytes. -/
  | file (content : List UInt8)
  /-- A folder. -/
  | folder
deriving DecidableEq, Repr

/-- Why a path names nothing. -/
inductive PathFault where
  /-- Nothing has one of its names. -/
  | missing
  /-- It goes on behind a file. -/
  | notFolder
  /-- It names a folder where a file is wanted. -/
  | isFolder
  /-- It is longer than a path can be, or one of its names is longer than a name can be. -/
  | tooLong
deriving DecidableEq, Repr

/-- The wording of the fault, with its number. -/
def PathFault.text : PathFault → String
  | .missing => "[Errno 2] No such file or directory"
  | .notFolder => "[Errno 20] Not a directory"
  | .isFolder => "[Errno 21] Is a directory"
  | .tooLong => "[Errno 36] File name too long"

/-- A tree of files and folders with a working folder. -/
structure Disk where
  /-- What stands in the tree, apart from the root. -/
  entries : List (Location × DiskEntry) := []
  /-- Where relative paths start. -/
  workingFolder : Location := []
deriving Repr

namespace Disk

/-- What stands at a location. The root is a folder. -/
def entry? (disk : Disk) (location : Location) : Option DiskEntry :=
  if location = [] then some .folder else disk.entries.lookup location

/-- Whether a folder stands at a location. -/
def hasFolder (disk : Disk) (location : Location) : Bool :=
  disk.entry? location == some .folder

/-! ## Paths -/

/-- The length of the longest path, in bytes, that can name anything. -/
def longestPath : Nat := 4095

/-- The length of the longest name, in bytes, that anything can have. -/
def longestName : Nat := 255

/-- Follows components from a location. Each has to be followed from a folder: an empty or self
component stays there, a parent component goes to the folder it lies in, and the root lies in
itself. -/
def walk (disk : Disk) : Location → List String → Except PathFault Location
  | location, [] => .ok location
  | location, component :: rest =>
    if disk.hasFolder location then
      if component = "" ∨ component = "." then disk.walk location rest
      else if component = ".." then disk.walk location.tail rest
      else if longestName < component.utf8ByteSize then .error .tooLong
      else if (disk.entry? (component :: location)).isSome then
        disk.walk (component :: location) rest
      else .error .missing
    else .error .notFolder

/-- Where the components of a path are followed from. -/
def origin (disk : Disk) (path : String) : Location :=
  if Path.isAbsolute path then [] else disk.workingFolder

/-- The location that a path names. The empty path names nothing, and neither does one with a null
character. -/
def resolve (disk : Disk) (path : String) : Except PathFault Location :=
  if path.isEmpty || Path.hasNull path then .error .missing
  else if longestPath < path.utf8ByteSize then .error .tooLong
  else disk.walk (disk.origin path) (Path.components path)

/-- The bytes of the file that a path names. -/
def read (disk : Disk) (path : String) : Except PathFault (List UInt8) := do
  let location ← disk.resolve path
  match disk.entry? location with
  | some (.file content) => .ok content
  | some .folder => .error .isFolder
  | none => .error .missing

/-- Whether a path names a file. -/
def isFile (disk : Disk) (path : String) : Bool :=
  (disk.read path).isOk

/-- The names of what lies directly in a folder. -/
def namesAt (disk : Disk) (folder : Location) : List String :=
  disk.entries.filterMap fun entry =>
    match entry.1 with
    | name :: parent => if parent = folder then some name else none
    | [] => none

/-- The names in the folder that a path names. -/
def names? (disk : Disk) (path : String) : Option (List String) :=
  match disk.resolve path with
  | .ok location => if disk.hasFolder location then some (disk.namesAt location) else none
  | .error _ => none

/-- The normalised absolute path of a path. -/
def absolute (disk : Disk) (path : String) : String :=
  Path.absolute (Location.path disk.workingFolder) path

/-- Where the file lies that is opened for writing under a path, whether it exists or not. Its
folder has to exist; a path that ends in a slash is taken for a folder. -/
def place? (disk : Disk) (path : String) : Except PathFault Location := do
  if path.isEmpty || Path.hasNull path then throw .missing
  if longestPath < path.utf8ByteSize then throw .tooLong
  let reversed := (Path.components path).reverse
  match reversed.dropWhile fun component => component = "" with
  | [] => .error .isFolder
  | name :: parents =>
    let folder ← disk.walk (disk.origin path) parents.reverse
    if !disk.hasFolder folder then .error .notFolder
    else if reversed.head? = some "" ∨ name = "." ∨ name = ".." then .error .isFolder
    else if longestName < name.utf8ByteSize then .error .tooLong
    else if disk.hasFolder (name :: folder) then .error .isFolder
    else .ok (name :: folder)

/-! ## Building a tree -/

/-- The tree with an entry at a location, instead of what stood there. -/
def put (disk : Disk) (location : Location) (entry : DiskEntry) : Disk :=
  { disk with entries := (location, entry) :: disk.entries.filter fun old => old.1 ≠ location }

/-- The tree with a folder at a location, and with all the folders it lies in. -/
def addFolder (disk : Disk) : Location → Disk
  | [] => disk
  | name :: parent =>
    let outside := disk.addFolder parent
    if outside.hasFolder (name :: parent) then outside else outside.put (name :: parent) .folder

/-- The tree with a file at a location, and with the folders it lies in. -/
def addFile (disk : Disk) (location : Location) (content : List UInt8) : Disk :=
  (disk.addFolder location.tail).put location (.file content)

/-- A tree that holds a working folder and nothing else. -/
def ofWorkingFolder (folder : Location) : Disk :=
  { (addFolder {} folder) with workingFolder := folder }

end Disk

end Dopl
