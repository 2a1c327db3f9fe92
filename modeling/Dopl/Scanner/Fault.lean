import Dopl.Diagnostic

/-! # Why a line cannot be split into tokens

The causes for which the scanner drops a piece of a line, with their wording, and such a cause with
the line it was met on. -/

namespace Dopl

/-- Why a piece of a line is no token. -/
inductive ScanFault where
  /-- White space between the dots of an operator. -/
  | blankInOperator (text : String)
  /-- A less-than sign that starts no assignment arrow. -/
  | loneAngle
  /-- A line that ends inside a quoted text. -/
  | openLiteral (text : String)
  /-- A line that ends between the dots of an operator. -/
  | openOperator (text : String)
  /-- A fault noted by the caller, in the caller's words. -/
  | noted (text : String)
deriving DecidableEq, Repr

/-- The wording of the fault. -/
def ScanFault.text : ScanFault → String
  | .blankInOperator piece => "Whitespace inside operator " ++ piece
  | .loneAngle => "\"<\" not followed by \"-\""
  | .openLiteral piece => "Unterminated literal " ++ piece
  | .openOperator piece => "Unterminated operator " ++ piece
  | .noted words => words

/-- A fault and the line it was met on. -/
structure ScanError where
  /-- The cause. -/
  fault : ScanFault
  /-- The number of the line, the first being one; zero if the line belongs to no source. -/
  line : Int
deriving DecidableEq, Repr

/-- The fault as it is reported. -/
def ScanError.diagnostic (error : ScanError) : Diagnostic :=
  .lexical error.fault.text error.line

end Dopl
