import Dopl.CommandLine

/-! # The program

The outer layer: it looks at the files and folders that the arguments name, and writes what
`Dopl.runArguments` says about them. -/

namespace Dopl

/-- Adds to a disk what a path leads to, at its location. -/
def observe (disk : Disk) (location : Location) (path : String) : IO Disk := do
  let place := { (← IO.currentDir) with toString := path }
  if ← place.isDir then return disk.addFolder location
  else if ← place.pathExists then
    return disk.addFile location (← IO.FS.readBinFile place).toList
  else return disk

/-- Adds to a disk all that a path leads through. The path is never made absolute, since it may be
the only one that is short enough. -/
def observePath (disk : Disk) (path : String) : IO Disk := do
  let (disk, _, _) ← (Path.components path).foldlM (fun (disk, location, seen) component => do
    let next := Path.addComponent location component
    let reached := seen ++ component
    return (← observe disk next reached, next, reached ++ "/")) (disk, disk.origin path, "")
  return disk

/-- Adds to a disk all that a path leads through, and the source files in the folder it names. -/
def observeFolder (library : Library) (disk : Disk) (path : String) : IO Disk := do
  let disk ← observePath disk path
  match disk.resolve path with
  | .error _ => return disk
  | .ok location =>
    let place := { (← IO.currentDir) with toString := path }
    if ← place.isDir then
      let names := (← place.readDir).toList.map fun entry => entry.fileName
      (names.filter library.admits).foldlM (fun disk name =>
        observe disk (name :: location) (Path.join path name)) disk
    else return disk

/-- The part of the real tree that a request looks at. -/
def Request.observe (library : Library) (request : Request) : IO Disk := do
  let workingFolder := (← IO.currentDir).toString
  let disk := Disk.ofWorkingFolder ((Path.components workingFolder).foldl Path.addComponent [])
  match request.job with
  | .file name => observePath disk name
  | .folders names => names.foldlM (observeFolder library) disk
  | .help | .noFolders | .badCount => return disk

end Dopl

/-- Runs the program. -/
def main (arguments : List String) : IO UInt32 := do
  let disk ← (Dopl.Request.ofArguments arguments).observe {}
  let exit := Dopl.runArguments disk arguments
  IO.print exit.output
  IO.eprint exit.errors
  return exit.code.toUInt32
