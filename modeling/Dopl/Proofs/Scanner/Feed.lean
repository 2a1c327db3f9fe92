import Dopl.Scanner.Piece
import Mathlib.Tactic.SplitIfs

/-! # One character of a line

What the scanner does with a character depends on the piece it is in and on what the character may
start:

* **`CharClass`** — what a character starts in plain text; every character is in exactly one class.
* **`Scanner.Fed`** — all that reading a character can do; **`Scanner.fed_feed`** says so.
* **`Scanner.Fits`** — the pending characters are the part of a piece that the mode says.
* **`Scanner.opened`** — the characters read of a piece that is still open. -/

namespace Dopl

/-! ## Classes of characters -/

/-- A class of characters, by what they start in plain text. -/
inductive CharClass where
  /-- White space starts nothing. -/
  | blank
  /-- A dot starts an operator. -/
  | dot
  /-- A double quote starts a quoted text. -/
  | quote
  /-- A separator is a token by itself. -/
  | separator
  /-- A less-than sign starts an arrow. -/
  | angle
  /-- Any other character starts a word. -/
  | word
deriving DecidableEq

/-- The class of a character. -/
def charClass (c : Char) : CharClass :=
  if Text.isBlank c then .blank
  else if c = '.' then .dot
  else if c = '"' then .quote
  else if Separator.isSeparator c then .separator
  else if c = '<' then .angle
  else .word

/-- What the class says of a character. -/
def CharClass.Holds (c : Char) : CharClass → Prop
  | .blank => Text.isBlank c = true
  | .dot => c = '.'
  | .quote => c = '"'
  | .separator => ∃ mark : Separator, mark.char = c
  | .angle => c = '<'
  | .word => isWordChar c = true

/-- A character is a separator iff it is the mark of one. -/
theorem isSeparator_iff (c : Char) :
    Separator.isSeparator c = true ↔ ∃ mark : Separator, mark.char = c := by
  rw [Separator.isSeparator, List.any_eq_true]
  constructor
  · rintro ⟨mark, -, same⟩
    exact ⟨mark, by simpa using same⟩
  · rintro ⟨mark, rfl⟩
    exact ⟨mark, by cases mark <;> decide, by simp⟩

/-- A character of a word is in no other class. -/
theorem isWordChar_iff (c : Char) :
    isWordChar c = true ↔ Text.isBlank c = false ∧ c ≠ '.' ∧ c ≠ '"' ∧ c ≠ '<' ∧
      Separator.isSeparator c = false := by
  simp [isWordChar, and_assoc]

/-- Every character is what its class says. -/
theorem holds_charClass (c : Char) : (charClass c).Holds c := by
  unfold charClass
  split_ifs with blank dot quote separator angle
  · exact blank
  · exact dot
  · exact quote
  · exact (isSeparator_iff c).mp separator
  · exact angle
  · refine (isWordChar_iff c).mpr ⟨?_, dot, quote, angle, ?_⟩
    · exact Bool.eq_false_iff.mpr blank
    · exact Bool.eq_false_iff.mpr separator

/-- What a class says holds of no character of another class. -/
theorem charClass_eq_of_holds {c : Char} {kind : CharClass} (holds : kind.Holds c) :
    charClass c = kind := by
  cases kind with
  | blank => exact if_pos holds
  | dot =>
      rw [holds]
      decide
  | quote =>
      rw [holds]
      decide
  | separator =>
      obtain ⟨mark, rfl⟩ := holds
      cases mark <;> decide
  | angle =>
      rw [holds]
      decide
  | word =>
      obtain ⟨blank, dot, quote, angle, separator⟩ := (isWordChar_iff c).mp holds
      simp [charClass, blank, dot, quote, angle, separator]

namespace Scanner

/-- A text with a character more is spelled with that character behind it. -/
theorem push_eq_ofList {text : String} {chars : List Char} (spelled : text.toList = chars)
    (c : Char) : text.push c = String.ofList (chars ++ [c]) := by
  rw [String.ext_iff, String.toList_push, spelled, String.toList_ofList]

/-! ## Plain text -/

section

variable (scanner : Scanner)

/-- In plain text, a character is read by its class. -/
theorem feed_plain (plain : scanner.mode = .plain) (c : Char) :
    scanner.feed c = scanner.feedPlain c := by
  unfold feed
  rw [plain]

/-- White space ends a word. -/
theorem feedPlain_blank {c : Char} (blank : Text.isBlank c = true) :
    scanner.feedPlain c = scanner.flush := by
  rw [feedPlain, if_pos blank]

/-- A dot ends a word and starts an operator. -/
theorem feedPlain_dot : scanner.feedPlain '.' = scanner.flush.enter .dotted '.' := by
  rw [feedPlain, if_neg (by decide), if_pos rfl]

/-- A double quote ends a word and starts a quoted text. -/
theorem feedPlain_quote : scanner.feedPlain '"' = scanner.flush.enter .quoted '"' := by
  rw [feedPlain, if_neg (by decide), if_neg (by decide), if_pos rfl]

/-- A separator ends a word and is a token. -/
theorem feedPlain_separator (mark : Separator) :
    scanner.feedPlain mark.char = scanner.flush.push ⟨.separator, mark.text⟩ := by
  cases mark <;> rfl

/-- A less-than sign ends a word and starts an arrow. -/
theorem feedPlain_angle : scanner.feedPlain '<' = { scanner.flush with mode := .angle } := by
  rw [feedPlain, if_neg (by decide), if_neg (by decide), if_neg (by decide), if_neg (by decide),
    if_pos rfl]

/-- Any other character goes on with a word. -/
theorem feedPlain_word {c : Char} (word : isWordChar c = true) :
    scanner.feedPlain c = scanner.keep c := by
  obtain ⟨blank, dot, quote, angle, separator⟩ := (isWordChar_iff c).mp word
  simp [feedPlain, blank, dot, quote, angle, separator]

/-- Ending a word notes no fault. -/
@[simp] theorem errors_flush : scanner.flush.errors = scanner.errors := by
  unfold flush
  split <;> rfl

/-- Ending a word leaves the mode. -/
@[simp] theorem mode_flush : scanner.flush.mode = scanner.mode := by
  unfold flush
  split <;> rfl

/-- Behind the end of a word nothing is pending. -/
@[simp] theorem pending_flush : scanner.flush.pending = "" := by
  unfold flush
  split
  · next empty => exact empty
  · rfl

end

/-! ## Any mode -/

/-- What reading a character makes of a scanner. -/
inductive Fed : Scanner → Char → Scanner → Prop where
  /-- White space ends a word. -/
  | blank {scanner : Scanner} {c : Char} :
      scanner.mode = .plain → Text.isBlank c = true → Fed scanner c scanner.flush
  /-- A dot starts an operator. -/
  | dot {scanner : Scanner} :
      scanner.mode = .plain → Fed scanner '.' (scanner.flush.enter .dotted '.')
  /-- A double quote starts a quoted text. -/
  | quote {scanner : Scanner} :
      scanner.mode = .plain → Fed scanner '"' (scanner.flush.enter .quoted '"')
  /-- A separator is a token. -/
  | separator {scanner : Scanner} (mark : Separator) :
      scanner.mode = .plain → Fed scanner mark.char (scanner.flush.push ⟨.separator, mark.text⟩)
  /-- A less-than sign starts an arrow. -/
  | angle {scanner : Scanner} :
      scanner.mode = .plain → Fed scanner '<' { scanner.flush with mode := .angle }
  /-- A word goes on. -/
  | word {scanner : Scanner} {c : Char} :
      scanner.mode = .plain → isWordChar c = true → Fed scanner c (scanner.keep c)
  /-- The second double quote ends a quoted text. -/
  | endQuoted {scanner : Scanner} :
      scanner.mode = .quoted →
        Fed scanner '"' { (scanner.keep '"').emit .character with mode := .plain }
  /-- A quoted text goes on. -/
  | quoted {scanner : Scanner} {c : Char} :
      scanner.mode = .quoted → c ≠ '"' → Fed scanner c (scanner.keep c)
  /-- The second dot ends an operator. -/
  | endDotted {scanner : Scanner} :
      scanner.mode = .dotted →
        Fed scanner '.' { (scanner.keep '.').emit .operator with mode := .plain }
  /-- White space drops an operator. -/
  | blankInOperator {scanner : Scanner} {c : Char} :
      scanner.mode = .dotted → Text.isBlank c = true →
        Fed scanner c (scanner.fail (.blankInOperator scanner.pending)).reset
  /-- An operator goes on. -/
  | dotted {scanner : Scanner} {c : Char} :
      scanner.mode = .dotted → c ≠ '.' → Text.isBlank c = false → Fed scanner c (scanner.keep c)
  /-- A minus sign ends an arrow. -/
  | arrow {scanner : Scanner} :
      scanner.mode = .angle → Fed scanner '-' { scanner.push Token.arrow with mode := .plain }
  /-- Any other character drops an arrow, and is read as plain text. -/
  | loneAngle {scanner after : Scanner} {c : Char} :
      scanner.mode = .angle → Fed { scanner.fail .loneAngle with mode := .plain } c after →
        Fed scanner c after

/-- In plain text, a character is read by its class. -/
theorem fed_feedPlain (scanner : Scanner) (plain : scanner.mode = .plain) (c : Char) :
    Fed scanner c (scanner.feedPlain c) := by
  have holds := holds_charClass c
  cases kind : charClass c <;> rw [kind] at holds
  case blank =>
    rw [feedPlain_blank scanner holds]
    exact .blank plain holds
  case dot =>
    rw [holds, feedPlain_dot]
    exact .dot plain
  case quote =>
    rw [holds, feedPlain_quote]
    exact .quote plain
  case separator =>
    obtain ⟨mark, rfl⟩ := holds
    rw [feedPlain_separator]
    exact .separator mark plain
  case angle =>
    rw [holds, feedPlain_angle]
    exact .angle plain
  case word =>
    rw [feedPlain_word scanner holds]
    exact .word plain holds

/-- Reading a character does nothing else. -/
theorem fed_feed (scanner : Scanner) (c : Char) : Fed scanner c (scanner.feed c) := by
  unfold feed
  split
  · next plain => exact fed_feedPlain scanner plain c
  · next quoted =>
    split
    · next ends =>
      rw [ends]
      exact .endQuoted quoted
    · next goesOn => exact .quoted quoted goesOn
  · next dotted =>
    split
    · next ends =>
      rw [ends]
      exact .endDotted dotted
    · next goesOn =>
      split
      · next blank => exact .blankInOperator dotted blank
      · next blank => exact .dotted dotted goesOn (by simpa using blank)
  · next angle =>
    split
    · next ends =>
      rw [ends]
      exact .arrow angle
    · exact .loneAngle angle (fed_feedPlain _ rfl c)

/-! ## Open pieces -/

/-- The pending characters are what the mode says: those of a word, or those of a quoted text or an
operator without its end. -/
def Fits (scanner : Scanner) : Prop :=
  match scanner.mode with
  | .plain => ∀ c ∈ scanner.pending.toList, isWordChar c = true
  | .quoted => ∃ content, scanner.pending.toList = '"' :: content ∧ (Piece.quoted content).IsValid
  | .dotted => ∃ content, scanner.pending.toList = '.' :: content ∧ (Piece.dotted content).IsValid
  | .angle => scanner.pending = ""

/-- The characters read of a piece that is still open. Those of a word are pieces by themselves. -/
def opened (scanner : Scanner) : List Char :=
  match scanner.mode with
  | .plain => []
  | .quoted | .dotted => scanner.pending.toList
  | .angle => ['<']

variable {scanner after : Scanner} {c : Char}

/-- What is pending in plain text is a word. -/
theorem fits_plain (plain : scanner.mode = .plain) :
    scanner.Fits ↔ ∀ c ∈ scanner.pending.toList, isWordChar c = true := by
  rw [Fits, plain]

/-- In plain text with nothing pending, everything fits. -/
theorem fits_of_pending (plain : scanner.mode = .plain) (empty : scanner.pending = "") :
    scanner.Fits := by
  rw [fits_plain plain, empty]
  exact fun _ member => absurd member List.not_mem_nil

/-- What is pending inside a quoted text is its beginning. -/
theorem fits_quoted (quoted : scanner.mode = .quoted) :
    scanner.Fits ↔
      ∃ content, scanner.pending.toList = '"' :: content ∧ (Piece.quoted content).IsValid := by
  rw [Fits, quoted]

/-- What is pending inside an operator is its beginning. -/
theorem fits_dotted (dotted : scanner.mode = .dotted) :
    scanner.Fits ↔
      ∃ content, scanner.pending.toList = '.' :: content ∧ (Piece.dotted content).IsValid := by
  rw [Fits, dotted]

/-- Nothing is pending inside an arrow. -/
theorem fits_angle (angle : scanner.mode = .angle) : scanner.Fits ↔ scanner.pending = "" := by
  rw [Fits, angle]

/-- In plain text no piece is open. -/
theorem opened_plain (plain : scanner.mode = .plain) : scanner.opened = [] := by
  rw [opened, plain]

/-- An open quoted text is pending. -/
theorem opened_quoted (quoted : scanner.mode = .quoted) :
    scanner.opened = scanner.pending.toList := by
  rw [opened, quoted]

/-- An open operator is pending. -/
theorem opened_dotted (dotted : scanner.mode = .dotted) :
    scanner.opened = scanner.pending.toList := by
  rw [opened, dotted]

/-- An open arrow is a less-than sign. -/
theorem opened_angle (angle : scanner.mode = .angle) : scanner.opened = ['<'] := by
  rw [opened, angle]

/-- The pending characters fit also behind the next one. -/
theorem fits_of_fed (fed : Fed scanner c after) (fits : scanner.Fits) : after.Fits := by
  induction fed with
  | blank plain _ => exact fits_of_pending (by simp [plain]) (by simp)
  | dot _ =>
      exact (fits_dotted rfl).mpr
        ⟨[], String.toList_singleton '.', fun _ member => absurd member List.not_mem_nil⟩
  | quote _ =>
      exact (fits_quoted rfl).mpr
        ⟨[], String.toList_singleton '"', fun _ member => absurd member List.not_mem_nil⟩
  | @separator scanner _ plain =>
      exact fits_of_pending ((mode_flush scanner).trans plain) (pending_flush scanner)
  | @angle scanner _ => exact (fits_angle rfl).mpr (pending_flush scanner)
  | @word scanner c plain word =>
      have kept : (scanner.keep c).mode = .plain := plain
      rw [fits_plain kept]
      rw [fits_plain plain] at fits
      simp only [keep, String.toList_push, List.mem_append, List.mem_singleton]
      rintro other (before | rfl)
      · exact fits other before
      · exact word
  | endQuoted _ => exact fits_of_pending rfl rfl
  | @quoted scanner c quoted other =>
      have kept : (scanner.keep c).mode = .quoted := quoted
      rw [fits_quoted kept]
      obtain ⟨content, pending, valid⟩ := (fits_quoted quoted).mp fits
      refine ⟨content ++ [c], ?_, ?_⟩
      · rw [keep, String.toList_push, pending, List.cons_append]
      · exact List.forall_mem_append.mpr ⟨valid, List.forall_mem_singleton.mpr other⟩
  | endDotted _ => exact fits_of_pending rfl rfl
  | blankInOperator _ _ => exact fits_of_pending rfl rfl
  | @dotted scanner c dotted other blank =>
      have kept : (scanner.keep c).mode = .dotted := dotted
      rw [fits_dotted kept]
      obtain ⟨content, pending, valid⟩ := (fits_dotted dotted).mp fits
      refine ⟨content ++ [c], ?_, ?_⟩
      · rw [keep, String.toList_push, pending, List.cons_append]
      · exact List.forall_mem_append.mpr ⟨valid, List.forall_mem_singleton.mpr ⟨other, blank⟩⟩
  | arrow angle => exact fits_of_pending rfl ((fits_angle angle).mp fits)
  | loneAngle angle _ induction =>
      -- Nothing is pending inside an arrow, so its end is like the start of a line.
      exact induction (fits_of_pending rfl ((fits_angle angle).mp fits))

end Scanner

end Dopl
