import Dopl.Text.CodeRange

/-! # White space

The characters that stand between the tokens of a program: the control characters that move the
carriage or separate records, and every space separator. Zero-width characters are not blank. -/

namespace Dopl.Text

/-- The ranges of the white-space characters, in ascending order. -/
def blankTable : List CodeRange :=
  [⟨0x09, 0x0D⟩, ⟨0x1C, 0x20⟩, ⟨0x85, 0x85⟩, ⟨0xA0, 0xA0⟩, ⟨0x1680, 0x1680⟩, ⟨0x2000, 0x200A⟩,
    ⟨0x2028, 0x2029⟩, ⟨0x202F, 0x202F⟩, ⟨0x205F, 0x205F⟩, ⟨0x3000, 0x3000⟩]

/-- Whether the character is white space. -/
def isBlank (c : Char) : Bool :=
  CodeRange.covers blankTable c

end Dopl.Text
