import Dopl.Proofs.Scanner.Rest
import Mathlib.Tactic.SplitIfs

/-! # Lines are scanned apart

Between two commands no piece is open and no character is pending, so a line is scanned as if it
were the only one. What a scan makes is then put together from the lines, also behind an error:

* **`lineTokens`**, **`lineFaults`** — what a line makes by itself.
* **`Scanner.extendBy`** — a scanner with what another one made behind its own; a character is read
  alike before and behind that (**`Scanner.feed_extendBy`**).
* **`Scanner.Rests.scanLine`** — a line adds what it makes by itself, whatever was scanned before.
* **`Scanner.Rests.foldl_scanLine`** — so do lines one after another, each with its own number.
* **`scan_line_by_line`** — what that says of sessions and of whole sources. -/

namespace Dopl

/-! ## Single lines -/

/-- The tokens that a line makes by itself. -/
def lineTokens (line : String) : List Token :=
  (({} : Scanner).scanLine line).tokens.toList

/-- The faults that a line has by itself. -/
def lineFaults (line : String) : List ScanFault :=
  (({} : Scanner).scanLine line).errors.toList.map ScanError.fault

/-- The faults of a line as errors on the line with a number. -/
def lineErrors (line : String) (number : Int) : List ScanError :=
  (lineFaults line).map fun fault => ⟨fault, number⟩

namespace Scanner

/-- The scanner with what another one made behind what it made itself, in the piece that the other
one is in. The errors of the other one are placed on the line being scanned. -/
def extendBy (scanner part : Scanner) : Scanner :=
  { part with
    reader := scanner.reader
    tokens := scanner.tokens ++ part.tokens
    errors := scanner.errors ++ part.errors.map fun error => ⟨error.fault, scanner.lineNumber⟩ }

section

variable (scanner part : Scanner)

/-- A token is added behind what there is. -/
theorem push_extendBy (token : Token) :
    (scanner.extendBy part).push token = scanner.extendBy (part.push token) := by
  simp [push, extendBy]

/-- A fault is noted behind what there is, on the line being scanned. -/
theorem fail_extendBy (fault : ScanFault) :
    (scanner.extendBy part).fail fault = scanner.extendBy (part.fail fault) := by
  simp [fail, extendBy, lineNumber]

/-- The pending characters become a token behind what there is. -/
theorem emit_extendBy (kind : TokenKind) :
    (scanner.extendBy part).emit kind = scanner.extendBy (part.emit kind) := by
  simp [emit, push, extendBy]

/-- A word ends behind what there is. -/
theorem flush_extendBy : (scanner.extendBy part).flush = scanner.extendBy part.flush := by
  have same : (scanner.extendBy part).pending = part.pending := rfl
  rw [flush, flush, same, emit_extendBy]
  split <;> rfl

/-- A character of plain text is read alike, whatever there is before it. -/
theorem feedPlain_extendBy (c : Char) :
    (scanner.extendBy part).feedPlain c = scanner.extendBy (part.feedPlain c) := by
  rw [feedPlain, feedPlain, flush_extendBy, push_extendBy]
  split_ifs <;> rfl

/-- A character is read alike, whatever there is before it. -/
theorem feed_extendBy (c : Char) :
    (scanner.extendBy part).feed c = scanner.extendBy (part.feed c) := by
  have same : (scanner.extendBy part).mode = part.mode := rfl
  have kept : (scanner.extendBy part).keep c = scanner.extendBy (part.keep c) := rfl
  have alone : ({ scanner.extendBy (part.fail .loneAngle) with mode := .plain } : Scanner) =
      scanner.extendBy { part.fail .loneAngle with mode := .plain } := rfl
  unfold feed
  rw [same]
  cases part.mode with
  | plain => exact feedPlain_extendBy scanner part c
  | quoted =>
      dsimp only
      rw [kept, emit_extendBy]
      split_ifs <;> rfl
  | dotted =>
      dsimp only
      rw [kept, emit_extendBy, fail_extendBy]
      split_ifs <;> rfl
  | angle =>
      dsimp only
      rw [push_extendBy, fail_extendBy, alone, feedPlain_extendBy]
      split_ifs <;> rfl

/-- The end of a line is read alike, whatever there is before it. -/
theorem endLine_extendBy : (scanner.extendBy part).endLine = scanner.extendBy part.endLine := by
  have same : (scanner.extendBy part).mode = part.mode := rfl
  unfold endLine
  rw [same, flush_extendBy]
  simp only [fail_extendBy]
  cases part.mode <;> rfl

/-- Characters are read alike, whatever there is before them. -/
theorem foldl_feed_extendBy (chars : List Char) :
    chars.foldl feed (scanner.extendBy part) = scanner.extendBy (chars.foldl feed part) := by
  induction chars generalizing part with
  | nil => rfl
  | cons c chars induction => rw [List.foldl_cons, List.foldl_cons, feed_extendBy, induction]

end

/-! ## Scanners that rest -/

namespace Rests

variable {scanner : Scanner}

/-- A scanner that rests has made nothing yet behind what it made. -/
theorem eq_extendBy (rests : scanner.Rests) : scanner = scanner.extendBy {} := by
  obtain ⟨plain, empty⟩ := rests
  obtain ⟨reader, tokens, errors, mode, pending⟩ := scanner
  cases plain
  cases empty
  simp [extendBy]

/-- **A line adds what it makes by itself,** wherever a scanner rests. Only the number of the line
is told by what is before it. -/
theorem scanLine (rests : scanner.Rests) (line : String) :
    scanner.scanLine line =
      { scanner with
        tokens := scanner.tokens ++ (lineTokens line).toArray
        errors := scanner.errors ++ (lineErrors line scanner.lineNumber).toArray } := by
  have start : ({ scanner with pending := "" } : Scanner) = scanner.extendBy {} := by
    rw [← rests.eq_extendBy, ← rests.2]
  have whole : scanner.scanLine line = scanner.extendBy (({} : Scanner).scanLine line) := by
    rw [Scanner.scanLine, start, foldl_feed_extendBy, endLine_extendBy]
    rfl
  obtain ⟨plain, empty⟩ := rests
  have placed (errors : Array ScanError) (number : Int) :
      errors.map (fun error => ⟨error.fault, number⟩) =
        ((errors.toList.map ScanError.fault).map fun fault => ScanError.mk fault number).toArray := by
    rw [← Array.toList_inj]
    simp
  simp only [whole, extendBy, mode_scanLine, pending_scanLine, plain, empty, lineTokens, lineErrors,
    lineFaults, placed, Array.toArray_toList]

/-- Lines one after another add what they make by themselves, each on its own line. The induction is
on the lines, with the number of lines read before them. -/
theorem foldl_scanLine (rests : scanner.Rests) {reader : LineReader}
    (loaded : scanner.reader = some reader) (lines : List String) :
    lines.foldl (fun scanner line => (scanner.scanLine line).nextLine) scanner =
      { scanner with
        reader := some (reader.move lines.length)
        tokens := scanner.tokens ++ (lines.flatMap lineTokens).toArray
        errors := scanner.errors ++ ((lines.zipIdx 1).flatMap fun (line, number) =>
          lineErrors line (reader.position + number)).toArray } := by
  induction lines generalizing scanner reader with
  | nil =>
      obtain ⟨held, tokens, errors, mode, pending⟩ := scanner
      cases loaded
      simp [LineReader.move]
  | cons line lines induction =>
      have number : scanner.lineNumber = reader.position + 1 := by rw [lineNumber, loaded]
      have next : (scanner.scanLine line).nextLine.reader = some (reader.move 1) := by
        rw [rests.scanLine, nextLine, loaded, Option.map_some]
      have restsBehind : (scanner.scanLine line).nextLine.Rests := rests_scanLine scanner line
      -- What is counted from the second line on is one less than counted from the first.
      have shift (count : Int) : reader.position + 1 + count = reader.position + (count + 1) := by
        omega
      rw [List.foldl_cons, induction restsBehind next]
      simp [rests.scanLine, nextLine, number, shift, LineReader.move, List.zipIdx_succ,
        List.flatMap_map]

end Rests

end Scanner

/-! ## Whole sources -/

/-- A source is scanned by the lines it comes down to, numbered from one. -/
theorem scan_eq_lines (source : Source) :
    scan source =
      { reader := some ((LineReader.ofSource source).move source.toLines.length)
        tokens := (source.toLines.flatMap lineTokens).toArray
        errors := ((source.toLines.zipIdx 1).flatMap fun (line, number) =>
          lineErrors line number).toArray } := by
  have rests : ({ reader := some (LineReader.ofSource source) } : Scanner).Rests := ⟨rfl, rfl⟩
  rw [scan, rests.foldl_scanLine rfl]
  simp [LineReader.ofSource]

/-- The error, further down by a number of lines. -/
def ScanError.shift (count : Nat) (error : ScanError) : ScanError :=
  { error with line := error.line + count }

/-- The errors of a line that is further down. -/
theorem map_shift_lineErrors (line : String) (number : Int) (count : Nat) :
    (lineErrors line number).map (ScanError.shift count) = lineErrors line (number + count) := by
  simp [lineErrors, ScanError.shift]

/-- The errors of lines that stand behind others. -/
theorem flatMap_lineErrors_zipIdx (lines : List String) (count : Nat) :
    ((lines.zipIdx (1 + count)).flatMap fun (line, number) => lineErrors line number) =
      ((lines.zipIdx 1).flatMap fun (line, number) => lineErrors line number).map
        (ScanError.shift count) := by
  rw [Nat.add_comm, ← List.map_snd_add_zipIdx_eq_zipIdx, List.flatMap_map, List.map_flatMap]
  simp [map_shift_lineErrors, Int.add_comm]

/-- **Lines are scanned apart.** After any commands no piece is open and nothing is pending. So a
line adds the tokens and the faults that it has by itself, the faults placed on the line being
scanned, and changes nothing else. A scan of some lines, whatever was done before it, gives the
tokens of each line after the other, without the characters that end it, and the errors of each line
under its number, counted from one. And a scan of some lines and then others gives what the two
scans give, the errors of the others further down by the number of lines before them. -/
theorem scan_line_by_line (commands : List ScanCommand) :
    (Scanner.session commands).Rests ∧
      (∀ line, (Scanner.session commands).scanLine line =
        { Scanner.session commands with
          tokens := (Scanner.session commands).tokens ++ (lineTokens line).toArray
          errors := (Scanner.session commands).errors ++
            (lineErrors line (Scanner.session commands).lineNumber).toArray }) ∧
      (∀ lines,
        ((Scanner.session commands).perform (.scan (some (.lines lines)))).1 = scan (.lines lines) ∧
          (scan (.lines lines)).tokens.toList =
            lines.flatMap (fun line => lineTokens (Text.trimLineEnd line)) ∧
          (scan (.lines lines)).errors.toList =
            (lines.zipIdx 1).flatMap fun (line, number) =>
              lineErrors (Text.trimLineEnd line) number) ∧
      ∀ lines others,
        (scan (.lines (lines ++ others))).tokens =
            (scan (.lines lines)).tokens ++ (scan (.lines others)).tokens ∧
          (scan (.lines (lines ++ others))).errors =
            (scan (.lines lines)).errors ++
              (scan (.lines others)).errors.map (ScanError.shift lines.length) := by
  have rests := Scanner.rests_session commands
  refine ⟨rests, rests.scanLine, fun lines => ⟨?_, ?_, ?_⟩, fun lines others => ⟨?_, ?_⟩⟩
  · rw [Scanner.perform, Scanner.scanRest, scan?_load]
  · rw [scan_eq_lines, Source.toLines]
    simp [List.flatMap_map]
  · rw [scan_eq_lines, Source.toLines]
    simp [List.zipIdx_map, List.flatMap_map]
  · simp [scan_eq_lines, Source.toLines]
  · simp [scan_eq_lines, Source.toLines, List.zipIdx_append, flatMap_lineErrors_zipIdx]

end Dopl
