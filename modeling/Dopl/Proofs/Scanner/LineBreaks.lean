import Dopl.Library
import Dopl.Proofs.Scanner.Rest
import Mathlib.Data.List.DropRight

/-! # Where the lines of a text end

A text given as a whole ends its lines at more characters than a file with the same text does. All
of them are white space, so where one reader ends a line, the other reads white space instead. That
makes a difference only inside a quoted text: the readers stay in step up to there, and behind it
the one has noted a fault, and the other has a quoted text with such a character or a fault, too.

* **`Scanner.Alike`** — two scanners differ at most in their sources and in the faults they noted.
* **`Scanner.InStep`**, **`Scanner.Parted`** — the two readers before and behind such a place.
* **`Scanner.related_scanFrom`** — the readers are in step or parted after any text. -/

namespace Dopl

/-- The text has none of the characters that end a line of a text but not of a file. -/
def Text.IsUnbroken (text : String) : Prop :=
  ∀ c ∈ text.toList, c ∉ Text.extraBreaks

/-- Whether a text has such a character can be decided by going through it. -/
instance (text : String) : Decidable (Text.IsUnbroken text) :=
  decidable_of_iff ((text.toList.all fun c => !Text.extraBreaks.contains c) = true) (by
    simp [Text.IsUnbroken])

/-- A character that ends a line of a text ends a line of a file, or it is one of the others. -/
theorem Text.isTextBreak_eq_false_iff (c : Char) :
    Text.isTextBreak c = false ↔ Text.isFileBreak c = false ∧ c ∉ Text.extraBreaks := by
  simp [Text.isTextBreak]

/-- The characters that end a line of a text but not of a file are white space. -/
theorem Text.isBlank_of_mem_extraBreaks {c : Char} (extra : c ∈ Text.extraBreaks) :
    Text.isBlank c = true :=
  List.all_eq_true.mp (by decide : Text.extraBreaks.all Text.isBlank = true) c extra

/-- The empty text has no such character. -/
theorem Text.isUnbroken_empty : Text.IsUnbroken "" :=
  fun _ member => absurd member List.not_mem_nil

/-- One other character is a text without them. -/
theorem Text.isUnbroken_singleton {c : Char} (other : c ∉ Text.extraBreaks) :
    Text.IsUnbroken (String.singleton c) := by
  intro d member
  rw [String.toList_singleton, List.mem_singleton] at member
  exact member ▸ other

/-- One other character keeps a text without them. -/
theorem Text.isUnbroken_push {text : String} {c : Char} (unbroken : Text.IsUnbroken text)
    (other : c ∉ Text.extraBreaks) : Text.IsUnbroken (text.push c) := by
  intro d member
  rw [String.toList_push, List.mem_append, List.mem_singleton] at member
  rcases member with before | rfl
  · exact unbroken d before
  · exact other

/-- A text with such a character has it also with a character more. -/
theorem Text.not_isUnbroken_push {text : String} (broken : ¬Text.IsUnbroken text) (c : Char) :
    ¬Text.IsUnbroken (text.push c) := by
  intro unbroken
  refine broken fun d member => unbroken d ?_
  rw [String.toList_push]
  exact List.mem_append_left _ member

namespace Scanner

/-! ## Scanners alike -/

/-- The scanners are in the same piece and have made the same tokens, and both have noted a fault or
none has. -/
structure Alike (scanner other : Scanner) : Prop where
  /-- They are in the same mode. -/
  mode : other.mode = scanner.mode
  /-- They have the same characters pending. -/
  pending : other.pending = scanner.pending
  /-- They have made the same tokens. -/
  tokens : other.tokens = scanner.tokens
  /-- If one has noted no fault, neither has the other. -/
  errors : other.errors = #[] ↔ scanner.errors = #[]

namespace Alike

variable {scanner other : Scanner}

/-- The same token more keeps scanners alike. -/
theorem push (alike : scanner.Alike other) (token : Token) :
    (scanner.push token).Alike (other.push token) :=
  ⟨alike.mode, alike.pending, congrArg (·.push token) alike.tokens, alike.errors⟩

/-- A fault more keeps scanners alike, whatever it says. -/
theorem fail (alike : scanner.Alike other) (fault otherFault : ScanFault) :
    (scanner.fail fault).Alike (other.fail otherFault) :=
  ⟨alike.mode, alike.pending, alike.tokens, by simp [Scanner.fail]⟩

/-- The same mode keeps scanners alike. -/
theorem withMode (alike : scanner.Alike other) (mode : ScanMode) :
    Alike { scanner with mode := mode } { other with mode := mode } :=
  ⟨rfl, alike.pending, alike.tokens, alike.errors⟩

/-- Plain text with nothing pending keeps scanners alike. -/
theorem reset (alike : scanner.Alike other) : scanner.reset.Alike other.reset :=
  ⟨rfl, rfl, alike.tokens, alike.errors⟩

/-- The same character more keeps scanners alike. -/
theorem keep (alike : scanner.Alike other) (c : Char) : (scanner.keep c).Alike (other.keep c) :=
  ⟨alike.mode, congrArg (·.push c) alike.pending, alike.tokens, alike.errors⟩

/-- The start of the same piece keeps scanners alike. -/
theorem enter (alike : scanner.Alike other) (mode : ScanMode) (c : Char) :
    (scanner.enter mode c).Alike (other.enter mode c) :=
  ⟨rfl, rfl, alike.tokens, alike.errors⟩

/-- The pending characters make the same token. -/
theorem emit (alike : scanner.Alike other) (kind : TokenKind) :
    (scanner.emit kind).Alike (other.emit kind) := by
  refine ⟨alike.mode, rfl, ?_, alike.errors⟩
  simp only [Scanner.emit, Scanner.push, alike.tokens, alike.pending]

/-- The end of a word keeps scanners alike. -/
theorem flush (alike : scanner.Alike other) : scanner.flush.Alike other.flush := by
  unfold Scanner.flush
  rw [alike.pending]
  split
  · exact alike
  · exact alike.emit _

/-- The same character of plain text keeps scanners alike. -/
theorem feedPlain (alike : scanner.Alike other) (c : Char) :
    (scanner.feedPlain c).Alike (other.feedPlain c) := by
  unfold Scanner.feedPlain
  split_ifs
  · exact alike.flush
  · exact alike.flush.enter .dotted c
  · exact alike.flush.enter .quoted c
  · exact alike.flush.push _
  · exact alike.flush.withMode .angle
  · exact alike.keep c

/-- The same character keeps scanners alike. -/
theorem feed (alike : scanner.Alike other) (c : Char) : (scanner.feed c).Alike (other.feed c) := by
  unfold Scanner.feed
  rw [alike.mode]
  split
  · exact alike.feedPlain c
  · split
    · exact ((alike.keep c).emit .character).withMode .plain
    · exact alike.keep c
  · split
    · exact ((alike.keep c).emit .operator).withMode .plain
    · split
      · exact (alike.fail _ _).reset
      · exact alike.keep c
  · split
    · exact (alike.push Token.arrow).withMode .plain
    · exact ((alike.fail .loneAngle .loneAngle).withMode .plain).feedPlain c

/-- The end of a line keeps scanners alike. -/
theorem endLine (alike : scanner.Alike other) : scanner.endLine.Alike other.endLine := by
  unfold Scanner.endLine
  rw [alike.mode]
  split
  · exact alike.flush.reset
  · exact (alike.fail _ _).reset
  · exact (alike.fail _ _).reset
  · exact (alike.fail _ _).reset

/-- Outside a quoted text it makes no difference whether a line ends or goes on with white space: a
word ends, an operator is dropped, and so is an arrow. -/
theorem endLine_feed (alike : scanner.Alike other) (fits : scanner.Fits)
    (outside : scanner.mode ≠ .quoted) {c : Char} (blank : Text.isBlank c = true) :
    scanner.endLine.Alike (other.feed c) := by
  have noDot : c ≠ '.' := by
    rintro rfl
    exact absurd blank (by decide)
  have noMinus : c ≠ '-' := by
    rintro rfl
    exact absurd blank (by decide)
  unfold Scanner.endLine Scanner.feed
  rw [alike.mode]
  cases mode : scanner.mode with
  | plain =>
      have same := alike.flush
      rw [feedPlain_blank other blank]
      exact ⟨same.mode.trans ((mode_flush scanner).trans mode),
        same.pending.trans (pending_flush scanner), same.tokens, same.errors⟩
  | quoted => exact absurd mode outside
  | dotted =>
      dsimp only
      rw [if_neg noDot, if_pos blank]
      exact (alike.fail _ _).reset
  | angle =>
      dsimp only
      rw [if_neg noMinus, feedPlain_blank _ blank]
      -- Nothing is pending behind the less-than sign, so the white space ends no word.
      have empty : other.pending = "" := alike.pending.trans ((fits_angle mode).mp fits)
      have failed := (alike.fail .loneAngle .loneAngle).reset
      unfold Scanner.flush
      rw [if_pos (show ({ other.fail .loneAngle with mode := .plain } : Scanner).pending = "" from
        empty)]
      exact ⟨rfl, empty, failed.tokens, failed.errors⟩

end Alike

/-! ## What stays -/

/-- What a scanner has made and noted stays. -/
structure Grows (scanner after : Scanner) : Prop where
  /-- A fault stays noted. -/
  errors : scanner.errors ≠ #[] → after.errors ≠ #[]
  /-- The tokens stay. -/
  tokens : ∀ token ∈ scanner.tokens, token ∈ after.tokens

namespace Grows

/-- What stays at first and then stays. -/
theorem trans {scanner between after : Scanner} (first : scanner.Grows between)
    (second : between.Grows after) : scanner.Grows after :=
  ⟨second.errors ∘ first.errors,
    fun token member => second.tokens token (first.tokens token member)⟩

/-- A token more, with any mode and pending text. -/
theorem push (scanner : Scanner) (token : Token) (mode : ScanMode) (pending : String) :
    scanner.Grows { scanner.push token with mode := mode, pending := pending } :=
  ⟨id, fun _ member => Array.mem_push_of_mem token member⟩

/-- A fault more, with any mode and pending text. -/
theorem fail (scanner : Scanner) (fault : ScanFault) (mode : ScanMode) (pending : String) :
    scanner.Grows { scanner.fail fault with mode := mode, pending := pending } :=
  ⟨fun _ => by simp [Scanner.fail], fun _ member => member⟩

/-- Any mode and pending text. -/
theorem same (scanner : Scanner) (mode : ScanMode) (pending : String) :
    scanner.Grows { scanner with mode := mode, pending := pending } :=
  ⟨id, fun _ member => member⟩

/-- The end of a word takes nothing back. -/
theorem flush (scanner : Scanner) : scanner.Grows scanner.flush := by
  unfold Scanner.flush
  split
  · exact same scanner scanner.mode scanner.pending
  · exact push scanner _ scanner.mode ""

/-- The end of a line takes nothing back. -/
theorem endLine (scanner : Scanner) : scanner.Grows scanner.endLine := by
  unfold Scanner.endLine
  split
  · exact (flush scanner).trans (same _ .plain "")
  · exact fail scanner _ .plain ""
  · exact fail scanner _ .plain ""
  · exact fail scanner _ .plain ""

/-- A character takes nothing back. -/
theorem of_fed {scanner after : Scanner} {c : Char} (fed : Fed scanner c after) :
    scanner.Grows after := by
  induction fed with
  | blank _ _ => exact flush _
  | dot _ => exact (flush _).trans (same _ _ _)
  | quote _ => exact (flush _).trans (same _ _ _)
  | @separator scanner mark _ =>
      exact (flush _).trans (push _ _ scanner.flush.mode scanner.flush.pending)
  | angle _ => exact (flush _).trans (same _ _ _)
  | @word scanner c _ _ => exact same _ scanner.mode (scanner.pending.push c)
  | @endQuoted scanner _ => exact push scanner _ .plain ""
  | @quoted scanner c _ _ => exact same _ scanner.mode (scanner.pending.push c)
  | @endDotted scanner _ => exact push scanner _ .plain ""
  | blankInOperator _ _ => exact fail _ _ _ _
  | @dotted scanner c _ _ _ => exact same _ scanner.mode (scanner.pending.push c)
  | @arrow scanner _ => exact push scanner _ .plain scanner.pending
  | @loneAngle scanner _ _ _ _ induction =>
      exact (fail scanner .loneAngle .plain scanner.pending).trans induction

end Grows

/-! ## Texts without extra breaks -/

/-- What is pending and all tokens are free of the characters that end a line of a text only. -/
structure Unbroken (scanner : Scanner) : Prop where
  /-- The pending characters are. -/
  pending : Text.IsUnbroken scanner.pending
  /-- The texts of the tokens are. -/
  tokens : ∀ token ∈ scanner.tokens, Text.IsUnbroken token.text

namespace Unbroken

variable {scanner after : Scanner} {c : Char}

/-- A token without them keeps the others. -/
theorem forall_push (unbroken : scanner.Unbroken) {token : Token}
    (unbrokenToken : Text.IsUnbroken token.text) :
    ∀ other ∈ scanner.tokens.push token, Text.IsUnbroken other.text := by
  intro other member
  rcases Array.mem_push.mp member with before | rfl
  · exact unbroken.tokens other before
  · exact unbrokenToken

/-- The end of a word keeps all free of them. -/
theorem flush (unbroken : scanner.Unbroken) : scanner.flush.Unbroken := by
  unfold Scanner.flush
  split
  · exact unbroken
  · exact ⟨Text.isUnbroken_empty, unbroken.forall_push unbroken.pending⟩

/-- The end of a line keeps all free of them. -/
theorem endLine (unbroken : scanner.Unbroken) : scanner.endLine.Unbroken := by
  unfold Scanner.endLine
  split
  · exact ⟨Text.isUnbroken_empty, unbroken.flush.tokens⟩
  all_goals exact ⟨Text.isUnbroken_empty, unbroken.tokens⟩

/-- Any other character keeps all free of them. -/
theorem of_fed (fed : Fed scanner c after) (other : c ∉ Text.extraBreaks)
    (unbroken : scanner.Unbroken) : after.Unbroken := by
  induction fed with
  | blank _ _ => exact unbroken.flush
  | dot _ => exact ⟨Text.isUnbroken_singleton other, unbroken.flush.tokens⟩
  | quote _ => exact ⟨Text.isUnbroken_singleton other, unbroken.flush.tokens⟩
  | separator mark _ =>
      exact ⟨unbroken.flush.pending, unbroken.flush.forall_push (Text.isUnbroken_singleton other)⟩
  | angle _ => exact ⟨unbroken.flush.pending, unbroken.flush.tokens⟩
  | word _ _ => exact ⟨Text.isUnbroken_push unbroken.pending other, unbroken.tokens⟩
  | endQuoted _ =>
      exact ⟨Text.isUnbroken_empty,
        unbroken.forall_push (Text.isUnbroken_push unbroken.pending other)⟩
  | quoted _ _ => exact ⟨Text.isUnbroken_push unbroken.pending other, unbroken.tokens⟩
  | endDotted _ =>
      exact ⟨Text.isUnbroken_empty,
        unbroken.forall_push (Text.isUnbroken_push unbroken.pending other)⟩
  | blankInOperator _ _ => exact ⟨Text.isUnbroken_empty, unbroken.tokens⟩
  | dotted _ _ _ => exact ⟨Text.isUnbroken_push unbroken.pending other, unbroken.tokens⟩
  | arrow _ =>
      have arrow : Text.IsUnbroken "<-" := by decide +kernel
      exact ⟨unbroken.pending, unbroken.forall_push arrow⟩
  | loneAngle _ _ induction => exact induction other ⟨unbroken.pending, unbroken.tokens⟩

end Unbroken

/-! ## Two readers of one text -/

/-- The reader of a text and the reader of a file are at the same place of the same piece. -/
structure InStep (text file : Scanner) : Prop where
  /-- They are alike. -/
  alike : text.Alike file
  /-- The pending characters are a part of a piece. -/
  fits : text.Fits
  /-- No line of the text has ended inside a token. -/
  unbroken : text.Unbroken

/-- A quoted text has a character that ends a line of a text, or a fault is noted. -/
def Broken (file : Scanner) : Prop :=
  file.errors ≠ #[] ∨ (file.mode = .quoted ∧ ¬Text.IsUnbroken file.pending) ∨
    ∃ token ∈ file.tokens, token.kind = .character ∧ ¬Text.IsUnbroken token.text

/-- A line of the text has ended inside a quoted text, where the file goes on with it. -/
structure Parted (text file : Scanner) : Prop where
  /-- The reader of the text has noted a fault. -/
  failed : text.errors ≠ #[]
  /-- The reader of the file has read on. -/
  broken : file.Broken

/-- The readers of the text and the file are in step, or they have parted. -/
def Related (text file : Scanner) : Prop :=
  text.InStep file ∨ text.Parted file

/-- What has grown of a broken scanner outside a quoted text is broken. -/
theorem Broken.grow {file after : Scanner} (broken : file.Broken) (grows : file.Grows after)
    (quoted : file.mode = .quoted → ¬Text.IsUnbroken file.pending → after.Broken) :
    after.Broken := by
  rcases broken with failed | ⟨mode, pending⟩ | ⟨token, member, kind, text⟩
  · exact .inl (grows.errors failed)
  · exact quoted mode pending
  · exact .inr (.inr ⟨token, grows.tokens token member, kind, text⟩)

/-- A broken reader stays so: a quoted text with such a character goes on, or becomes a token. -/
theorem Broken.feed {file : Scanner} (broken : file.Broken) (c : Char) : (file.feed c).Broken := by
  refine broken.grow (.of_fed (fed_feed file c)) fun mode pending => ?_
  unfold Scanner.feed
  rw [mode]
  dsimp only
  split
  · exact .inr (.inr ⟨_, Array.mem_push_self, rfl, Text.not_isUnbroken_push pending c⟩)
  · exact .inr (.inl ⟨mode, Text.not_isUnbroken_push pending c⟩)

/-- At the end of a line, an open quoted text is a fault. -/
theorem Broken.endLine {file : Scanner} (broken : file.Broken) : file.endLine.Broken := by
  refine broken.grow (.endLine file) fun mode _ => .inl ?_
  unfold Scanner.endLine
  rw [mode]
  simp [Scanner.reset, Scanner.fail]

variable {text file : Scanner} {c : Char}

/-- A character that ends no line keeps the readers related. -/
theorem Related.feed (related : text.Related file) (other : c ∉ Text.extraBreaks) :
    (text.feed c).Related (file.feed c) := by
  have fed := fed_feed text c
  rcases related with inStep | parted
  · exact .inl ⟨inStep.alike.feed c, fits_of_fed fed inStep.fits,
      .of_fed fed other inStep.unbroken⟩
  · exact .inr ⟨(Grows.of_fed fed).errors parted.failed, parted.broken.feed c⟩

/-- The end of a line of both keeps the readers related. -/
theorem Related.endLine (related : text.Related file) : text.endLine.Related file.endLine := by
  rcases related with inStep | parted
  · exact .inl ⟨inStep.alike.endLine, fits_of_pending (mode_endLine text) (pending_endLine text),
      inStep.unbroken.endLine⟩
  · exact .inr ⟨(Grows.endLine text).errors parted.failed, parted.broken.endLine⟩

/-- A character that ends a line of the text only keeps the readers related. Inside a quoted text
they part there. -/
theorem Related.endLine_feed (related : text.Related file) (extra : c ∈ Text.extraBreaks) :
    text.endLine.Related (file.feed c) := by
  rcases related with inStep | parted
  · by_cases quoted : text.mode = .quoted
    · have noQuote : c ≠ '"' := by
        rintro rfl
        exact absurd extra (by decide)
      have inside : file.mode = .quoted := inStep.alike.mode.trans quoted
      refine .inr ⟨?_, .inr (.inl ?_)⟩
      · unfold Scanner.endLine
        rw [quoted]
        simp [Scanner.reset, Scanner.fail]
      · unfold Scanner.feed
        rw [inside]
        dsimp only
        rw [if_neg noQuote]
        refine ⟨inside, fun unbroken => unbroken c ?_ extra⟩
        rw [Scanner.keep, String.toList_push]
        exact List.mem_append_right _ (List.mem_singleton_self c)
    · exact .inl ⟨inStep.alike.endLine_feed inStep.fits quoted
          (Text.isBlank_of_mem_extraBreaks extra),
        fits_of_pending (mode_endLine text) (pending_endLine text), inStep.unbroken.endLine⟩
  · exact .inr ⟨(Grows.endLine text).errors parted.failed, parted.broken.feed c⟩

/-- Which line comes next makes no difference on the side of the text. -/
theorem related_nextLine_left : text.nextLine.Related file ↔ text.Related file := by
  constructor <;> rintro (⟨alike, fits, unbroken⟩ | ⟨failed, broken⟩)
  · exact .inl ⟨⟨alike.mode, alike.pending, alike.tokens, alike.errors⟩, fits,
      ⟨unbroken.pending, unbroken.tokens⟩⟩
  · exact .inr ⟨failed, broken⟩
  · exact .inl ⟨⟨alike.mode, alike.pending, alike.tokens, alike.errors⟩, fits,
      ⟨unbroken.pending, unbroken.tokens⟩⟩
  · exact .inr ⟨failed, broken⟩

/-- Nor does it on the side of the file. -/
theorem related_nextLine_right : text.Related file.nextLine ↔ text.Related file := by
  constructor <;> rintro (⟨alike, fits, unbroken⟩ | ⟨failed, broken⟩)
  · exact .inl ⟨⟨alike.mode, alike.pending, alike.tokens, alike.errors⟩, fits, unbroken⟩
  · exact .inr ⟨failed, broken⟩
  · exact .inl ⟨⟨alike.mode, alike.pending, alike.tokens, alike.errors⟩, fits, unbroken⟩
  · exact .inr ⟨failed, broken⟩

/-! ## Lines -/

/-- Scans some lines, one after the other. -/
def scanLines (scanner : Scanner) (lines : List (List Char)) : Scanner :=
  lines.foldl (fun scanner line => (scanner.scanLine (String.ofList line)).nextLine) scanner

/-- Scans the rest of a line and the lines behind it. -/
def scanFrom (scanner : Scanner) : List (List Char) → Scanner
  | [] => scanner.endLine
  | line :: lines => (line.foldl Scanner.feed scanner).endLine.nextLine.scanLines lines

/-- A scanner that rests starts a line where it is. -/
theorem Rests.scanLines {scanner : Scanner} (rests : scanner.Rests) (lines : List (List Char)) :
    scanner.scanLines lines = scanner.scanFrom lines := by
  obtain ⟨plain, empty⟩ := rests
  cases lines with
  | nil =>
      unfold scanFrom Scanner.endLine Scanner.flush
      rw [plain]
      dsimp only
      rw [if_pos empty, Scanner.reset, ← plain, ← empty]
      rfl
  | cons line lines =>
      unfold scanFrom Scanner.scanLines
      rw [List.foldl_cons, Scanner.scanLine, String.toList_ofList]
      have same : ({ scanner with pending := "" } : Scanner) = scanner := by rw [← empty]
      rw [same]

/-- The first character of a line of the text is read, and then the rest of the lines. -/
theorem related_consFirstLine_left {lines : List (List Char)} :
    (text.scanFrom (Text.consFirstLine c lines)).Related file ↔
      ((text.feed c).scanFrom lines).Related file := by
  cases lines with
  | nil => exact related_nextLine_left
  | cons line lines => exact Iff.rfl

/-- The first character of a line of the file is read, and then the rest of the lines. -/
theorem related_consFirstLine_right {lines : List (List Char)} :
    text.Related (file.scanFrom (Text.consFirstLine c lines)) ↔
      text.Related ((file.feed c).scanFrom lines) := by
  cases lines with
  | nil => exact related_nextLine_right
  | cons line lines => exact Iff.rfl

/-- An empty line ends where it starts. -/
theorem scanFrom_nil_cons (scanner : Scanner) (lines : List (List Char)) :
    scanner.scanFrom ([] :: lines) = scanner.endLine.nextLine.scanFrom lines :=
  (rests_endLine scanner).scanLines lines

/-- From related places on, the readers of a text and of a file are related up to its end. The
induction is on the characters of the text, as they are split into lines. -/
theorem related_scanFrom (chars : List Char) {text file : Scanner} (related : text.Related file) :
    (text.scanFrom (Text.splitChars Text.isTextBreak chars)).Related
      (file.scanFrom (Text.splitChars Text.isFileBreak chars)) := by
  induction chars using Text.splitChars.induct Text.isTextBreak generalizing text file with
  | case1 => exact related.endLine
  | case2 rest induction =>
      rw [Text.splitChars, Text.splitChars, scanFrom_nil_cons, scanFrom_nil_cons]
      exact induction (related_nextLine_left.mpr (related_nextLine_right.mpr related.endLine))
  | case3 c rest apart breaks induction =>
      rw [Text.splitChars, Text.splitChars, if_pos breaks, scanFrom_nil_cons]
      · by_cases both : Text.isFileBreak c = true
        · rw [if_pos both, scanFrom_nil_cons]
          exact induction (related_nextLine_left.mpr (related_nextLine_right.mpr related.endLine))
        · -- Only the text ends a line here, and the file reads white space.
          have extra : c ∈ Text.extraBreaks := by
            by_contra other
            have goesOn := (Text.isTextBreak_eq_false_iff c).mpr ⟨by simpa using both, other⟩
            rw [goesOn] at breaks
            cases breaks
          rw [if_neg both, related_consFirstLine_right]
          exact induction (related_nextLine_left.mpr (related.endLine_feed extra))
      · exact apart
      · exact apart
  | case4 c rest apart goesOn induction =>
      obtain ⟨noBreak, other⟩ :=
        (Text.isTextBreak_eq_false_iff c).mp (by simpa using goesOn)
      rw [Text.splitChars, Text.splitChars, if_neg goesOn, if_neg (by simp [noBreak]),
        related_consFirstLine_left, related_consFirstLine_right]
      · exact induction (related.feed other)
      · exact apart
      · exact apart

end Scanner

end Dopl
