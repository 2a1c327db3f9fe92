import Dopl.Proofs.Scanner.Pieces
import Mathlib.Algebra.Group.Nat.Defs

/-! # Shown tokens are told apart

A message shows a token by its kind and its text between quote marks. Whatever the text holds, the
message says where it ends and what it was:

* **`Text.SelfDelimiting`** — what is written says where it ends, so that anything may follow it.
* **`Text.hexValue_hexDigits`** — a number is read back from its hexadecimal numeral.
* **`Text.CodePoint`** — a character or a surrogate, and **`Text.quotePoints`** — a text of code
  points between quote marks, which is `Text.quoteWith` where they all are characters.
* **`Text.readPoint?_escapePoint`** — a code point is read back from its escape, for any choice of
  the printable characters.
* **`Text.selfDelimiting_quotePoints`** — quoted texts are self-delimiting.
* **`Token.selfDelimiting_showPoints`** — so are shown tokens, and **`Token.shown_eq_iff`** — tokens
  that are shown alike are the same, and none is shown as the beginning of another one. -/

namespace Dopl

namespace Text

/-! ## Writing that says where it ends -/

/-- What is written for a value says where it ends: it is read in one way, whatever follows it. -/
def SelfDelimiting {α : Type} (write : α → List Char) : Prop :=
  ∀ ⦃first second : α⦄ ⦃rest others : List Char⦄,
    write first ++ rest = write second ++ others → first = second ∧ rest = others

/-- Of values that say where they end, none is written as the beginning of another one. -/
theorem SelfDelimiting.prefix_iff {α : Type} {write : α → List Char}
    (delimiting : SelfDelimiting write) {first second : α} :
    write first <+: write second ↔ first = second := by
  constructor
  · rintro ⟨rest, same⟩
    exact (delimiting (same.trans (List.append_nil (write second)).symm)).1
  · rintro rfl
    exact List.prefix_rfl

/-- Values that say where they end are written apart. -/
theorem SelfDelimiting.eq_iff {α : Type} {write : α → List Char}
    (delimiting : SelfDelimiting write) {first second : α} :
    write first = write second ↔ first = second :=
  ⟨fun same => delimiting.prefix_iff.mp (same ▸ List.prefix_rfl), congrArg write⟩

/-! ## Hexadecimal numerals -/

/-- The value of a hexadecimal digit. -/
def hexDigitValue (digit : Char) : Nat :=
  if digit.toNat < 'a'.toNat then digit.toNat - '0'.toNat else digit.toNat - 'a'.toNat + 10

/-- The value of a hexadecimal numeral. -/
def hexValue (digits : List Char) : Nat :=
  digits.foldl (fun value digit => 16 * value + hexDigitValue digit) 0

/-- A digit is read back. -/
theorem hexDigitValue_digitChar : ∀ digit < 16, hexDigitValue (Nat.digitChar digit) = digit := by
  decide

/-- A numeral has the value of the number, as far as its digits reach. -/
theorem hexValue_hexDigits (width n : Nat) : hexValue (hexDigits width n) = n % 16 ^ width := by
  induction width generalizing n with
  | zero => exact (Nat.mod_one n).symm
  | succ width induction =>
      have last := hexDigitValue_digitChar (n % 16) (Nat.mod_lt n (by decide))
      calc hexValue (hexDigits (width + 1) n)
          = 16 * hexValue (hexDigits width (n / 16)) + hexDigitValue (Nat.digitChar (n % 16)) := by
            rw [hexDigits, hexValue, List.foldl_append]
            rfl
        _ = 16 * (n / 16 % 16 ^ width) + n % 16 := by rw [induction, last]
        _ = n % 16 ^ (width + 1) := by
            rw [Nat.pow_succ, Nat.mul_comm (16 ^ width), Nat.mod_mul, Nat.add_comm]

/-! ## Texts of code points -/

/-- A code point. -/
inductive CodePoint where
  /-- That of a character. -/
  | char (c : Char)
  /-- A surrogate, which is no character. -/
  | surrogate (code : Nat) (range : 0xD800 ≤ code ∧ code < 0xE000)

namespace CodePoint

/-- The code point with a number. -/
def ofNat (code : Nat) : CodePoint :=
  if range : 0xD800 ≤ code ∧ code < 0xE000 then .surrogate code range
  else .char (Char.ofNat code)

/-- The character, if the code point is that of one. -/
def char? : CodePoint → Option Char
  | .char c => some c
  | .surrogate .. => none

/-- The number of a character is no surrogate. -/
theorem ofNat_toNat (c : Char) : ofNat c.toNat = .char c := by
  have apart : ¬(0xD800 ≤ c.toNat ∧ c.toNat < 0xE000) := by
    rcases c.valid with small | ⟨large, -⟩
    · exact fun range => absurd small (Nat.not_lt.mpr range.1)
    · exact fun range => absurd large (Nat.not_lt.mpr (Nat.le_of_lt_succ range.2))
  rw [ofNat, dif_neg apart, Char.ofNat_toNat]

end CodePoint

/-- A code point between quotes: a character as it is escaped, a surrogate by its number. -/
def escapePoint (printable : Char → Bool) (mark : Char) : CodePoint → List Char
  | .char c => escape printable mark c
  | .surrogate code _ => '\\' :: 'u' :: hexDigits 4 code

/-- A text of code points between its quote marks, where `printable` tells which characters are
shown as they are. -/
def quotePoints (printable : Char → Bool) (text : List CodePoint) : List Char :=
  let mark := quoteMark (text.filterMap CodePoint.char?)
  mark :: text.flatMap (escapePoint printable mark) ++ [mark]

/-- A text of characters is quoted alike. -/
theorem quotePoints_map_char (printable : Char → Bool) (text : List Char) :
    quotePoints printable (text.map .char) = quoteWith printable text := by
  have chars : (text.map CodePoint.char).filterMap CodePoint.char? = text := by
    simp [List.filterMap_map, Function.comp_def, CodePoint.char?]
  rw [quotePoints, chars, quoteWith, List.flatMap_map]
  rfl

/-! ## Reading an escape back -/

/-- Reads a code point from a numeral of some digits. -/
def readCode (width : Nat) (chars : List Char) : CodePoint × List Char :=
  (.ofNat (hexValue (chars.take width)), chars.drop width)

/-- Reads what stands behind a backslash: a letter for a control character, a numeral, or the
character itself. -/
def readEscaped : Char → List Char → CodePoint × List Char
  | 'n', rest => (.char '\n', rest)
  | 'r', rest => (.char '\r', rest)
  | 't', rest => (.char '\t', rest)
  | 'x', rest => readCode 2 rest
  | 'u', rest => readCode 4 rest
  | 'U', rest => readCode 8 rest
  | c, rest => (.char c, rest)

/-- Reads the next code point of a quoted text, if the text does not end at its mark. -/
def readPoint? (mark : Char) : List Char → Option (CodePoint × List Char)
  | [] => none
  | c :: rest =>
    if c = mark then none
    else if c = '\\' then rest.head?.map fun kind => readEscaped kind rest.tail
    else some (.char c, rest)

/-- A code point is read back from a numeral with enough digits for it. -/
theorem readCode_hexDigits {width code : Nat} (fits : code < 16 ^ width) (rest : List Char) :
    readCode width (hexDigits width code ++ rest) = (.ofNat code, rest) := by
  have length := length_hexDigits width code
  rw [readCode, List.take_left' length, List.drop_left' length, hexValue_hexDigits,
    Nat.mod_eq_of_lt fits]

/-- The mark of a quoted text is one of two. -/
theorem quoteMark_cases (text : List Char) : quoteMark text = '\'' ∨ quoteMark text = '"' := by
  unfold quoteMark
  split
  · exact .inr rfl
  · exact .inl rfl

variable {mark : Char}

/-- Behind a backslash a code point is read by what stands there. -/
theorem readPoint?_backslash (isMark : mark = '\'' ∨ mark = '"') (kind : Char) (rest : List Char) :
    readPoint? mark ('\\' :: kind :: rest) = some (readEscaped kind rest) := by
  have other : '\\' ≠ mark := by rcases isMark with rfl | rfl <;> decide
  rw [readPoint?, if_neg other, if_pos rfl]
  rfl

/-- A quoted text ends at its mark. -/
theorem readPoint?_mark (mark : Char) (rest : List Char) :
    readPoint? mark (mark :: rest) = none := by
  rw [readPoint?, if_pos rfl]

/-- A character is read back from its number. -/
theorem readPoint?_escapeCode (isMark : mark = '\'' ∨ mark = '"') (c : Char) (rest : List Char) :
    readPoint? mark (escapeCode c ++ rest) = some (.char c, rest) := by
  have bound : c.toNat < 16 ^ 8 := c.val.toNat_lt
  rw [← CodePoint.ofNat_toNat c]
  unfold escapeCode
  split
  · next short =>
    rw [List.cons_append, List.cons_append, readPoint?_backslash isMark]
    exact congrArg some (readCode_hexDigits short rest)
  · split
    · next middle =>
      rw [List.cons_append, List.cons_append, readPoint?_backslash isMark]
      exact congrArg some (readCode_hexDigits middle rest)
    · rw [List.cons_append, List.cons_append, readPoint?_backslash isMark]
      exact congrArg some (readCode_hexDigits bound rest)

/-- A character is read back from its escape, whichever characters are printable. -/
theorem readPoint?_escape (printable : Char → Bool) (isMark : mark = '\'' ∨ mark = '"') (c : Char)
    (rest : List Char) :
    readPoint? mark (escape printable mark c ++ rest) = some (.char c, rest) := by
  unfold escape
  split_ifs with itself newline carriageReturn tab printed
  · -- The mark and the backslash stand for themselves behind a backslash.
    rw [List.cons_append, List.singleton_append, readPoint?_backslash isMark]
    rcases itself with rfl | rfl
    · rcases isMark with rfl | rfl <;> rfl
    · rfl
  · rw [newline]
    exact readPoint?_backslash isMark 'n' rest
  · rw [carriageReturn]
    exact readPoint?_backslash isMark 'r' rest
  · rw [tab]
    exact readPoint?_backslash isMark 't' rest
  · obtain ⟨noMark, noBackslash⟩ := not_or.mp itself
    rw [List.singleton_append, readPoint?, if_neg noMark, if_neg noBackslash]
  · exact readPoint?_escapeCode isMark c rest

/-- A code point is read back from its escape, whichever characters are printable. -/
theorem readPoint?_escapePoint (printable : Char → Bool) (isMark : mark = '\'' ∨ mark = '"')
    (point : CodePoint) (rest : List Char) :
    readPoint? mark (escapePoint printable mark point ++ rest) = some (point, rest) := by
  cases point with
  | char c => exact readPoint?_escape printable isMark c rest
  | surrogate code range =>
      have fits : code < 16 ^ 4 := by omega
      have same : CodePoint.ofNat code = .surrogate code range := dif_pos range
      rw [escapePoint, List.cons_append, List.cons_append, readPoint?_backslash isMark, ← same]
      exact congrArg some (readCode_hexDigits fits rest)

/-! ## Quoted texts -/

/-- What stands between quote marks is read in one way, up to the mark. The induction is on the
first text; as long as both go on, their next code points are read back from what is written
alike. -/
theorem eq_of_flatMap_escapePoint_eq (printable : Char → Bool) (isMark : mark = '\'' ∨ mark = '"')
    {first second : List CodePoint} {rest others : List Char}
    (same : first.flatMap (escapePoint printable mark) ++ mark :: rest =
      second.flatMap (escapePoint printable mark) ++ mark :: others) :
    first = second ∧ rest = others := by
  induction first generalizing second with
  | nil =>
      cases second with
      | nil => exact ⟨rfl, (List.cons.inj same).2⟩
      | cons point second =>
          have read := congrArg (readPoint? mark) same
          rw [List.flatMap_nil, List.nil_append, readPoint?_mark, List.flatMap_cons,
            List.append_assoc, readPoint?_escapePoint printable isMark] at read
          cases read
  | cons point first induction =>
      have read := congrArg (readPoint? mark) same
      rw [List.flatMap_cons, List.append_assoc, readPoint?_escapePoint printable isMark] at read
      cases second with
      | nil =>
          rw [List.flatMap_nil, List.nil_append, readPoint?_mark] at read
          cases read
      | cons other second =>
          rw [List.flatMap_cons, List.append_assoc, readPoint?_escapePoint printable isMark,
            Option.some.injEq, Prod.mk.injEq] at read
          obtain ⟨rfl, behind⟩ := read
          obtain ⟨rfl, sameRest⟩ := induction behind
          exact ⟨rfl, sameRest⟩

/-- **Quoted texts say where they end,** whichever characters are printable. The mark that is used
depends on the text, but a quoted text starts with it. -/
theorem selfDelimiting_quotePoints (printable : Char → Bool) :
    SelfDelimiting (quotePoints printable) := by
  intro first second rest others same
  simp only [quotePoints, List.cons_append, List.append_assoc, List.nil_append, List.cons.injEq]
    at same
  obtain ⟨sameMark, sameBody⟩ := same
  rw [← sameMark] at sameBody
  exact eq_of_flatMap_escapePoint_eq printable (quoteMark_cases _) sameBody

end Text

/-! ## Tokens -/

/-- Every kind is among the kinds. -/
theorem TokenKind.mem_all (kind : TokenKind) : kind ∈ all := by
  cases kind <;> decide

/-- Kinds with the same label are the same. -/
theorem TokenKind.eq_of_label_eq {kind other : TokenKind} (same : kind.label = other.label) :
    kind = other := by
  have apart : ∀ kind ∈ all, ∀ other ∈ all, kind.label = other.label → kind = other := by decide
  exact apart kind kind.mem_all other other.mem_all same

/-- No label has a comma in it. -/
theorem TokenKind.ne_comma_of_mem_label (kind : TokenKind) : ∀ c ∈ kind.label.toList, c ≠ ',' := by
  have absent : ∀ kind ∈ all, ',' ∉ kind.label.toList := by decide
  rintro _ member rfl
  exact absent kind kind.mem_all member

namespace Token

/-- A kind and a text of code points as messages show them, for any choice of the printable
characters. -/
def showPoints (printable : Char → Bool) (token : TokenKind × List Text.CodePoint) : List Char :=
  '<' :: token.1.label.toList ++ ',' :: ' ' :: Text.quotePoints printable token.2 ++ ['>']

/-- The kind of a token with the code points of its text. -/
def points (token : Token) : TokenKind × List Text.CodePoint :=
  (token.kind, token.text.toList.map .char)

/-- Messages show a token with the printable characters of `Text.isPrintable`. -/
theorem toList_shown (token : Token) :
    token.shown.toList = showPoints Text.isPrintable token.points := by
  simp [shown, showPoints, points, Text.quote, Text.quotePoints_map_char]

/-- Tokens with the same kind and code points are the same. -/
theorem points_inj {token other : Token} : token.points = other.points ↔ token = other := by
  refine ⟨fun same => ?_, congrArg points⟩
  obtain ⟨kind, text⟩ := token
  obtain ⟨otherKind, otherText⟩ := other
  obtain ⟨rfl, sameText⟩ := Prod.mk.inj same
  have chars := (List.map_inj_right fun _ _ => Text.CodePoint.char.inj).mp sameText
  obtain rfl : text = otherText := String.toList_injective chars
  rfl

/-- A shown token says where it ends: its label ends at the first comma, and behind its text there
is one character more. -/
theorem selfDelimiting_showPoints (printable : Char → Bool) :
    Text.SelfDelimiting (showPoints printable) := by
  rintro ⟨kind, text⟩ ⟨otherKind, otherText⟩ rest others same
  simp only [showPoints, List.cons_append, List.append_assoc, List.nil_append, List.cons.injEq,
    true_and] at same
  obtain ⟨sameLabel, sameBehind⟩ := Piece.eq_of_append_mark_eq kind.ne_comma_of_mem_label
    otherKind.ne_comma_of_mem_label same
  obtain ⟨sameText, sameRest⟩ :=
    Text.selfDelimiting_quotePoints printable (List.cons.inj sameBehind).2
  rw [TokenKind.eq_of_label_eq (String.toList_injective sameLabel), sameText]
  exact ⟨rfl, (List.cons.inj sameRest).2⟩

/-- **Shown tokens are told apart.** Tokens of any kinds with any texts are shown alike iff they are
the same, and the one is shown as the beginning of the other only then. That is so for any choice of
the printable characters, and for texts in which there are surrogates. -/
theorem shown_eq_iff (token other : Token) :
    (token.shown = other.shown ↔ token = other) ∧
      (token.shown.toList <+: other.shown.toList ↔ token = other) ∧
      ∀ (printable : Char → Bool) (written others : TokenKind × List Text.CodePoint),
        (showPoints printable written = showPoints printable others ↔ written = others) ∧
          (showPoints printable written <+: showPoints printable others ↔ written = others) := by
  have delimiting := selfDelimiting_showPoints Text.isPrintable
  refine ⟨?_, ?_, fun printable written others => ?_⟩
  · rw [← String.toList_inj, toList_shown, toList_shown, delimiting.eq_iff, points_inj]
  · rw [toList_shown, toList_shown, delimiting.prefix_iff, points_inj]
  · exact ⟨(selfDelimiting_showPoints printable).eq_iff,
      (selfDelimiting_showPoints printable).prefix_iff⟩

/-- Texts that look like escapes, or like the end of a token, are shown apart from what they look
like. -/
example : (⟨.name, "\\n"⟩ : Token).shown = "<NAME, '\\\\n'>" ∧
    (⟨.name, "\n"⟩ : Token).shown = "<NAME, '\\n'>" ∧
    (⟨.character, "'>"⟩ : Token).shown = "<CHAR, \"'>\">" := by
  decide +kernel

end Token

end Dopl
