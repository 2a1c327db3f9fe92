/-! # Paths

A path is a text: names between slashes, absolute if it starts with a slash. What a path names is
decided by a disk; this file holds what the text alone decides.

* **`Path.components`** — the pieces between the slashes, empty ones included.
* **`Path.join`** — a path seen from a folder.
* **`Path.normalise`** — an absolute path without empty, self and parent components.
* **`Path.absolute`** — the normalised path of a path seen from a working folder. -/

namespace Dopl.Path

/-- The pieces of a sequence of characters between its slashes. -/
def splitSlashes : List Char → List (List Char)
  | [] => [[]]
  | c :: rest =>
    if c = '/' then [] :: splitSlashes rest
    else
      match splitSlashes rest with
      | [] => [[c]]
      | piece :: pieces => (c :: piece) :: pieces

/-- The pieces of a path between its slashes. -/
def components (path : String) : List String :=
  (splitSlashes path.toList).map String.ofList

/-- Whether the path starts at the root. -/
def isAbsolute (path : String) : Bool :=
  path.toList.head? == some '/'

/-- Whether the path holds a null character, which nothing that has a name can have in it. -/
def hasNull (path : String) : Bool :=
  path.toList.contains '\x00'

/-- A path seen from a folder: an absolute path stays, and otherwise a slash stands between the
two unless the folder ends in one or is empty. -/
def join (folder path : String) : String :=
  if isAbsolute path then path
  else if folder.toList.isEmpty || folder.toList.getLast? == some '/' then folder ++ path
  else folder ++ "/" ++ path

/-- Adds a component to those of an absolute path, the innermost first: empty and self components
add nothing, a parent component takes the innermost one away. -/
def addComponent (inner : List String) (component : String) : List String :=
  if component = "" ∨ component = "." then inner
  else if component = ".." then inner.tail
  else component :: inner

/-- The slashes that a normalised absolute path starts with: two stay two, any other number becomes
one. -/
def leadingSlashes (path : String) : String :=
  match path.toList with
  | '/' :: '/' :: '/' :: _ => "/"
  | '/' :: '/' :: _ => "//"
  | _ => "/"

/-- The text of the absolute path with some components, the innermost first. -/
def ofComponents (slashes : String) (inner : List String) : String :=
  slashes ++ "/".intercalate inner.reverse

/-- An absolute path without empty, self and parent components. -/
def normalise (path : String) : String :=
  ofComponents (leadingSlashes path) ((components path).foldl addComponent [])

/-- The normalised path of a path seen from a working folder. -/
def absolute (workingFolder path : String) : String :=
  normalise (join workingFolder path)

end Dopl.Path
