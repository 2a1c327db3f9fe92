/-! # Hexadecimal numerals of a fixed width

The escapes of quoted text and the reports on undecodable bytes write a number in a given count of
lower-case hexadecimal digits. -/

namespace Dopl.Text

/-- The last `width` hexadecimal digits of `n`, most significant first, in lower case and padded
with zeros. -/
def hexDigits : Nat → Nat → List Char
  | 0, _ => []
  | width + 1, n => hexDigits width (n / 16) ++ [Nat.digitChar (n % 16)]

/-- A numeral of width `width` has exactly `width` digits. -/
@[simp] theorem length_hexDigits (width n : Nat) : (hexDigits width n).length = width := by
  induction width generalizing n with
  | zero => rfl
  | succ width inductionHypothesis => simp [hexDigits, inductionHypothesis]

end Dopl.Text
