/-! # Diagnostics

What a reader of a program is told when something is wrong: the area of the fault, its text, and the
line or token it is placed at. The causes are types of their own (`ReadFault`, `ScanFault`,
`CheckFault`), each with its wording; a diagnostic is what they are turned into, and
**`Diagnostic.message`** is the line that is shown. -/

namespace Dopl

/-- The area of a fault that the checker places at a token. -/
inductive CheckArea where
  /-- The order of the tokens. -/
  | grammar
  /-- A group of declarations or a name declared twice. -/
  | declaration
  /-- The type of a value. -/
  | typing
deriving DecidableEq, Repr

/-- A fault as it is reported. -/
inductive Diagnostic where
  /-- A source file cannot be found or read. -/
  | reading (text : String)
  /-- A line cannot be split into tokens. -/
  | lexical (text : String) (line : Int)
  /-- The tokens are not a well-formed and well-typed program. -/
  | checking (area : CheckArea) (text : String) (position : Int)
deriving DecidableEq, Repr

namespace Diagnostic

/-- The line that is shown. All three areas of the checker are reported under one heading. -/
def message : Diagnostic → String
  | .reading text => "Reading error: " ++ text
  | .lexical text line => "LexicalError at line " ++ toString line ++ ": " ++ text
  | .checking _ text position => "SyntaxError at token " ++ toString position ++ ": " ++ text

/-- The position of a declaration fault whose place is not known. -/
def unknownPosition : Int := -1

end Diagnostic

end Dopl
