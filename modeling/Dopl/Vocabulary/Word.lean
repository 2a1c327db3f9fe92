import Dopl.Text.DecimalDigit
import Dopl.Text.Letter

/-! # Identifiers and constants

Which texts are identifiers, integer constants and character constants. -/

namespace Dopl

/-- Whether the character may stand in an identifier: a letter, a decimal digit or the
underscore. -/
def isIdentifierChar (c : Char) : Bool :=
  Text.isLetter c || Text.isDecimalDigit c || c == '_'

/-- Whether the text is an identifier: a letter, then letters, decimal digits and underscores. -/
def isIdentifier (text : String) : Bool :=
  text.toList.head?.any Text.isLetter && text.toList.all isIdentifierChar

/-- Whether the character is one of the ten digits that integer constants are made of. -/
def isPlainDigit (c : Char) : Bool :=
  decide ('0' ≤ c) && decide (c ≤ '9')

/-- Whether the text is an integer constant: digits `0` to `9`, at least one. -/
def isIntegerConstant (text : String) : Bool :=
  !text.toList.isEmpty && text.toList.all isPlainDigit

/-- Whether the text is a character constant: one character between double quotes. -/
def isCharacterConstant (text : String) : Bool :=
  match text.toList with
  | ['"', _, '"'] => true
  | _ => false

end Dopl
