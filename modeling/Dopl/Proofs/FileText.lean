import Dopl.FileCheck
import Dopl.Proofs.Checker.Acceptance
import Dopl.Proofs.Scanner.LineBreaks
import Dopl.Proofs.Scanner.Pieces

/-! # A text and a file that holds it

A source can be given as a whole text or as a file. The lines are not the same, but the tokens are,
unless a line of the text ends inside a quoted text:

* **`tokenize_text_iff`** — the tokens of a text and of the lines of a file with it.
* **`Cause.ofCheck?`** — the cause of a refusal, unless it is one of the scan.
* **`checkWithin_agrees`** — the checks of two sources with the same tokens, within any limit.
* **`file_agrees_with_text`** — the check of a file and the check of its text. -/

namespace Dopl

/-! ## Lines -/

/-- A line has no character in it that ends one. -/
theorem Text.isBreak_eq_false_of_mem_splitChars {isBreak : Char → Bool} {chars line : List Char}
    (member : line ∈ Text.splitChars isBreak chars) : ∀ c ∈ line, isBreak c = false := by
  induction chars using Text.splitChars.induct isBreak generalizing line with
  | case1 => cases member
  | case2 rest induction =>
      rw [Text.splitChars, List.mem_cons] at member
      rcases member with rfl | behind
      · exact fun _ inside => absurd inside List.not_mem_nil
      · exact induction behind
  | case3 c rest apart breaks induction =>
      rw [Text.splitChars, if_pos breaks, List.mem_cons] at member
      · rcases member with rfl | behind
        · exact fun _ inside => absurd inside List.not_mem_nil
        · exact induction behind
      · exact apart
  | case4 c rest apart goesOn induction =>
      have noBreak : isBreak c = false := by simpa using goesOn
      rw [Text.splitChars, if_neg goesOn] at member
      · cases lines : Text.splitChars isBreak rest with
        | nil =>
            rw [lines, Text.consFirstLine, List.mem_singleton] at member
            rw [member]
            exact List.forall_mem_singleton.mpr noBreak
        | cons first behind =>
            rw [lines] at induction
            rw [lines, Text.consFirstLine, List.mem_cons] at member
            rcases member with rfl | later
            · exact List.forall_mem_cons.mpr ⟨noBreak, induction List.mem_cons_self⟩
            · exact induction (List.mem_cons_of_mem first later)
      · exact apart

/-- A line without the characters that end a line of a file stays as it is. -/
theorem Text.trimLineEnd_ofList {line : List Char}
    (unbroken : ∀ c ∈ line, Text.isFileBreak c = false) :
    Text.trimLineEnd (String.ofList line) = String.ofList line := by
  have kept : line.rdropWhile Text.isFileBreak = line := by
    rw [List.rdropWhile_eq_self_iff]
    intro some
    rw [unbroken _ (List.getLast_mem some)]
    exact Bool.false_ne_true
  rw [Text.trimLineEnd, String.toList_ofList]
  exact congrArg String.ofList kept

/-- The lines of a text lose no line ends, if its lines end at least where those of a file do. -/
theorem Text.map_trimLineEnd_splitLines {isBreak : Char → Bool} (text : String)
    (breaks : ∀ c, isBreak c = false → Text.isFileBreak c = false) :
    (Text.splitLines isBreak text).map Text.trimLineEnd = Text.splitLines isBreak text := by
  rw [Text.splitLines, List.map_map]
  refine List.map_congr_left fun line member => ?_
  exact Text.trimLineEnd_ofList fun c inside =>
    breaks c (Text.isBreak_eq_false_of_mem_splitChars member c inside)

/-- The lines of a text given as a whole. -/
theorem Source.toLines_text (text : String) :
    (Source.text text).toLines = Text.splitLines Text.isTextBreak text :=
  Text.map_trimLineEnd_splitLines text fun c goesOn =>
    ((Text.isTextBreak_eq_false_iff c).mp goesOn).1

/-- The lines of a file with a text. -/
theorem Source.toLines_linesOf (text : String) :
    (Source.lines (Library.linesOf text)).toLines = Text.splitLines Text.isFileBreak text := by
  have once := Text.map_trimLineEnd_splitLines text fun c goesOn => goesOn
  rw [Source.toLines, Library.linesOf, once, once]

/-- The scan of a source goes through its lines. -/
theorem scan_eq_scanLines {source : Source} {isBreak : Char → Bool} {text : String}
    (lines : source.toLines = Text.splitLines isBreak text) :
    scan source = Scanner.scanLines { reader := some (LineReader.ofSource source) }
      (Text.splitChars isBreak text.toList) := by
  rw [scan, Scanner.scanLines, LineReader.ofSource]
  dsimp only
  rw [lines, Text.splitLines, List.foldl_map]

/-! ## Tokens -/

/-- No quoted text among the tokens has a character that ends a line of a text but not of a file. -/
def UnbrokenLiterals (tokens : Array Token) : Prop :=
  ∀ token ∈ tokens, token.kind = .character → Text.IsUnbroken token.text

/-- Whether a quoted text has such a character can be decided. -/
instance (tokens : Array Token) : Decidable (UnbrokenLiterals tokens) :=
  inferInstanceAs (Decidable (∀ token ∈ tokens, token.kind = .character →
    Text.IsUnbroken token.text))

/-- The scans of a text and of a file with it are related. -/
theorem related_scan (text : String) :
    (scan (.text text)).Related (scan (.lines (Library.linesOf text))) := by
  rw [scan_eq_scanLines (Source.toLines_text text),
    scan_eq_scanLines (Source.toLines_linesOf text), Scanner.Rests.scanLines ⟨rfl, rfl⟩,
    Scanner.Rests.scanLines ⟨rfl, rfl⟩]
  refine Scanner.related_scanFrom text.toList (.inl ⟨⟨rfl, rfl, rfl, Iff.rfl⟩, ?_, ?_⟩)
  · exact Scanner.fits_of_pending rfl rfl
  · exact ⟨Text.isUnbroken_empty, fun token member => absurd member (Array.not_mem_empty token)⟩

/-- **A text and a file with it have the same tokens,** unless a quoted text has a character that
ends a line of a text but not of a file. Then the file has tokens, and the text has none. -/
theorem tokenize_text_iff (text : String) (tokens : Array Token) :
    tokenize (.text text) = .ok tokens ↔
      tokenize (.lines (Library.linesOf text)) = .ok tokens ∧ UnbrokenLiterals tokens := by
  have plain : (scan (.lines (Library.linesOf text))).mode = .plain :=
    (Scanner.Rests.behind_lines ⟨rfl, rfl⟩ _).1
  rw [tokenize_eq_ok_iff, tokenize_eq_ok_iff]
  rcases related_scan text with inStep | parted
  · rw [inStep.alike.errors, inStep.alike.tokens]
    constructor
    · rintro ⟨clean, rfl⟩
      exact ⟨⟨clean, rfl⟩, fun token member _ => inStep.unbroken.tokens token member⟩
    · exact And.left
  · constructor
    · exact fun accepted => absurd accepted.1 parted.failed
    · rintro ⟨⟨clean, rfl⟩, unbroken⟩
      rcases parted.broken with failed | ⟨quoted, -⟩ | ⟨token, member, kind, broken⟩
      · exact absurd clean failed
      · rw [plain] at quoted
        cases quoted
      · exact absurd (unbroken token member kind) broken

/-! ## Checks -/

/-- The cause of a refusal, unless it is one of the scan. -/
def Cause.ofCheck? : Cause → Option Cause
  | .scan _ => none
  | cause => some cause

/-- Two reports agree in all but the scan and its errors. -/
structure Report.Agrees (report other : Report) : Prop where
  /-- The verdict is the same. -/
  verdict : report.verdict = other.verdict
  /-- The same symbols are declared. -/
  symbols : report.symbols = other.symbols
  /-- The tokens are refused for the same cause at the same position, if they are. -/
  cause : report.cause.bind Cause.ofCheck? = other.cause.bind Cause.ofCheck?
  /-- The check ended at the same place, if it started. -/
  cursor : report.cursor = other.cursor

/-- Sources with the same tokens, if they have any, have reports that agree. -/
theorem checkWithin_agrees (limit : Option Nat) {source other : Source}
    (same : ∀ tokens, tokenize source = .ok tokens ↔ tokenize other = .ok tokens) :
    (checkWithin limit source).Agrees (checkWithin limit other) := by
  rcases errors_cases source with clean | ⟨failed, error, noted⟩
  · obtain ⟨otherClean, tokens⟩ := (tokenize_eq_ok_iff other _).mp
      ((same _).mp ((tokenize_eq_ok_iff source _).mpr ⟨clean, rfl⟩))
    rw [checkWithin_of_errors_eq_empty _ clean, checkWithin_of_errors_eq_empty _ otherClean, tokens]
    exact ⟨rfl, rfl, rfl, rfl⟩
  · rcases errors_cases other with otherClean | ⟨-, otherError, otherNoted⟩
    · -- The other source would have tokens, and so would this one.
      have accepted := (same _).mpr ((tokenize_eq_ok_iff other _).mpr ⟨otherClean, rfl⟩)
      exact absurd ((tokenize_eq_ok_iff source _).mp accepted).1 failed
    · rw [checkWithin_of_error _ noted, checkWithin_of_error _ otherNoted]
      exact ⟨rfl, rfl, rfl, rfl⟩

/-- A file is found and holds a text. -/
structure Holds (library : Library) (disk : Disk) (name text : String) : Prop where
  /-- The file has a full name, its bytes can be read, and they are those of the text. -/
  decoded : ∃ fullName content, library.locate disk name = .ok fullName ∧
    disk.read fullName = .ok content ∧ Text.decode content = .ok text

/-- The lines of a file that holds a text are split where the lines of a file end. -/
theorem Holds.readLines {library : Library} {disk : Disk} {name text : String}
    (holds : Holds library disk name text) :
    library.readLines disk name = .ok (Library.linesOf text) := by
  obtain ⟨fullName, content, located, read, decoded⟩ := holds.decoded
  unfold Library.readLines
  rw [located]
  show Library.read disk name fullName = _
  unfold Library.read
  simp only [read, decoded]

/-- The lines of a file can be read iff it holds a text, and they are those of the text. -/
theorem readLines_eq_ok_iff {library : Library} {disk : Disk} {name : String}
    {lines : List String} :
    library.readLines disk name = .ok lines ↔
      ∃ text, Holds library disk name text ∧ lines = Library.linesOf text := by
  constructor
  · intro found
    unfold Library.readLines at found
    cases located : library.locate disk name with
    | error fault =>
        rw [located] at found
        cases found
    | ok fullName =>
        rw [located] at found
        replace found : Library.read disk name fullName = .ok lines := found
        unfold Library.read at found
        split at found
        · cases found
        · next content read =>
          split at found
          · next text decoded =>
            cases found
            exact ⟨text, ⟨fullName, content, located, read, decoded⟩, rfl⟩
          · cases found
  · rintro ⟨text, holds, rfl⟩
    exact holds.readLines

/-- **A text and a file that holds it are checked alike.** The text has the tokens that the lines of
the file have, if no quoted text among them has a character that ends a line of a text but not of a
file, and otherwise it has none. So unless there is such a quoted text, the reports on the file and
on the text agree, and so they do within any limit on the nesting. -/
theorem file_agrees_with_text (text : String) :
    (∀ tokens, tokenize (.text text) = .ok tokens ↔
        tokenize (.lines (Library.linesOf text)) = .ok tokens ∧ UnbrokenLiterals tokens) ∧
      ∀ (library : Library) (disk : Disk) (name : String), Holds library disk name text →
        library.readLines disk name = .ok (Library.linesOf text) ∧
          ((∀ tokens, tokenize (.lines (Library.linesOf text)) = .ok tokens →
              UnbrokenLiterals tokens) →
            (∃ report, (checkFile library disk name).result = .ok report ∧
              report.Agrees (check (.text text))) ∧
            ∀ limit, (checkWithin limit (.lines (Library.linesOf text))).Agrees
              (checkWithin limit (.text text))) := by
  refine ⟨tokenize_text_iff text, fun library disk name holds => ⟨holds.readLines, ?_⟩⟩
  intro unbroken
  have agree (limit : Option Nat) : (checkWithin limit (.lines (Library.linesOf text))).Agrees
      (checkWithin limit (.text text)) := by
    refine checkWithin_agrees limit fun tokens => ?_
    rw [tokenize_text_iff]
    exact ⟨fun accepted => ⟨accepted, unbroken tokens accepted⟩, And.left⟩
  refine ⟨⟨check (.lines (Library.linesOf text)), ?_, agree (some Checker.nestingLimit)⟩, agree⟩
  rw [checkFile_result, holds.readLines]
  rfl

/-- A text of three lines, which are one line of a file. -/
def pagedText : String :=
  "start\x0bprint \"a\";\x0cfinish"

/-- The tokens of the text. -/
def pagedTokens : Array Token :=
  #[⟨.keyword, "start"⟩, ⟨.keyword, "print"⟩, ⟨.character, "\"a\""⟩, ⟨.separator, ";"⟩,
    ⟨.keyword, "finish"⟩]

/-- A disk with a file that holds the text. -/
def pagedDisk : Disk :=
  ({} : Disk).addFile ["a.dopl"] (pagedText.toList.map fun c => c.toNat.toUInt8)

/-- The quoted text among the tokens has no line end in it, so text and file agree. -/
theorem file_agrees_with_text_paged :
    tokenize (.text pagedText) = .ok pagedTokens ∧
      (∃ report, (checkFile {} pagedDisk "a.dopl").result = .ok report ∧
        report.Agrees (check (.text pagedText))) ∧
      ∀ limit, (checkWithin limit (.lines (Library.linesOf pagedText))).Agrees
        (checkWithin limit (.text pagedText)) := by
  have holds : Holds {} pagedDisk "a.dopl" pagedText :=
    ⟨"/a.dopl", _, by decide +kernel, rfl, by decide +kernel⟩
  have accepted : tokenize (.lines (Library.linesOf pagedText)) = .ok pagedTokens := by
    decide +kernel
  have unbroken : UnbrokenLiterals pagedTokens := by decide +kernel
  refine ⟨((file_agrees_with_text pagedText).1 pagedTokens).mpr ⟨accepted, unbroken⟩, ?_⟩
  refine ((file_agrees_with_text pagedText).2 {} pagedDisk "a.dopl" holds).2 ?_
  intro tokens same
  rw [accepted] at same
  cases same
  exact unbroken

end Dopl
