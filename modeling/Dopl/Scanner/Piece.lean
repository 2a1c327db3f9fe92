import Dopl.Scanner

/-! # The pieces of a line

A line that scans without an error is a sequence of pieces. Each piece stands for characters of the
line, and the tokens are read off the pieces: every maximal run of word characters is one token,
every other piece but white space is a token by itself.

* **`Piece`** — a piece, its characters, and whether it is one.
* **`Piece.tokens`** — the tokens of a sequence of pieces. -/

namespace Dopl

/-- Whether the character can only stand in a word: it is neither white space nor the start of
another piece. -/
def isWordChar (c : Char) : Bool :=
  !(Text.isBlank c || c == '.' || c == '"' || c == '<' || Separator.isSeparator c)

/-- A piece of a line. -/
inductive Piece where
  /-- A character of white space. -/
  | blank (c : Char)
  /-- A separator. -/
  | separator (separator : Separator)
  /-- The assignment arrow. -/
  | arrow
  /-- A text between double quotes. -/
  | quoted (content : List Char)
  /-- A text between dots. -/
  | dotted (content : List Char)
  /-- A character of a word. -/
  | word (c : Char)
deriving DecidableEq, Repr

namespace Piece

/-- The characters that the piece stands for. -/
def chars : Piece → List Char
  | .blank c => [c]
  | .separator mark => [mark.char]
  | .arrow => ['<', '-']
  | .quoted content => '"' :: content ++ ['"']
  | .dotted content => '.' :: content ++ ['.']
  | .word c => [c]

/-- Whether the piece holds what its kind allows: a quoted text has no double quote inside, and a
dotted one neither a dot nor white space. -/
def IsValid : Piece → Prop
  | .blank c => Text.isBlank c = true
  | .separator _ | .arrow => True
  | .quoted content => ∀ c ∈ content, c ≠ '"'
  | .dotted content => ∀ c ∈ content, c ≠ '.' ∧ Text.isBlank c = false
  | .word c => isWordChar c = true

/-- The token that a piece makes by itself, if it makes one. -/
def token? : Piece → Option Token
  | .blank _ | .word _ => none
  | .separator mark => some ⟨.separator, mark.text⟩
  | .arrow => some Token.arrow
  | .quoted content => some ⟨.character, String.ofList ('"' :: content ++ ['"'])⟩
  | .dotted content => some ⟨.operator, String.ofList ('.' :: content ++ ['.'])⟩

/-- The token of a run of word characters, if there are any. -/
def wordToken? (word : List Char) : Option Token :=
  if word.isEmpty then none
  else some ⟨wordKind (String.ofList word), String.ofList word⟩

/-- The tokens of a sequence of pieces before which some word characters stand. -/
def tokensAfter (word : List Char) : List Piece → List Token
  | [] => (wordToken? word).toList
  | .word c :: pieces => tokensAfter (word ++ [c]) pieces
  | piece :: pieces =>
    (wordToken? word).toList ++ piece.token?.toList ++ tokensAfter [] pieces

/-- The tokens of a sequence of pieces. -/
def tokens (pieces : List Piece) : List Token :=
  tokensAfter [] pieces

end Piece

end Dopl
