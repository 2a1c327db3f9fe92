import Dopl.Diagnostic
import Dopl.Disk
import Dopl.Text.Quoted
import Dopl.Text.Utf8

/-! # Why a source file cannot be read

The causes for which a file or a folder is not read, with their wording. Each names the file as the
caller named it. -/

namespace Dopl

/-- Why a file or a folder is not read. -/
inductive ReadFault where
  /-- The name does not end as the name of a source file does. -/
  | badSuffix (name : String)
  /-- No file has the name. -/
  | noFile (name : String)
  /-- No folder has the name. -/
  | noFolder (name : String)
  /-- The file is found but cannot be opened under its full name. -/
  | unopened (name fullName : String) (fault : PathFault)
  /-- The bytes of the file are not UTF-8. -/
  | undecodable (name : String) (fault : Text.DecodeFault)
deriving DecidableEq, Repr

namespace ReadFault

/-- The wording of the fault. -/
def text : ReadFault → String
  | .badSuffix name => "Unrecognised file type: " ++ name
  | .noFile name => "File " ++ name ++ " does not exist"
  | .noFolder name => "Folder " ++ name ++ " does not exist"
  | .unopened name fullName fault =>
    "Cannot read " ++ name ++ ": " ++ fault.text ++ ": " ++ Text.quote fullName
  | .undecodable name fault => "Cannot read " ++ name ++ ": " ++ fault.text

/-- The fault as it is reported. -/
def diagnostic (fault : ReadFault) : Diagnostic :=
  .reading fault.text

end ReadFault

end Dopl
