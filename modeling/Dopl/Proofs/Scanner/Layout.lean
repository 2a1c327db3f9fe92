import Dopl.Proofs.Scanner.Pieces
import Dopl.Proofs.Scanner.Shape
import Mathlib.Data.List.DropRight

/-! # Tokens written in any layout scan to themselves

* **`LaidOut`**, **`Layout`** — the tokens are written in order, with white space and line ends
  between them. Only two words next to each other need some.
* **`exists_compose_of_laidOut`** — in a layout every line is composed of pieces, and their tokens
  are the tokens laid out.
* **`Piece.Compose.exists_trimLineEnd`** — a line that loses its line end keeps its tokens.
* **`scan_of_layout`** — any layout of the tokens of a scan scans to the same tokens. -/

namespace Dopl

/-! ## Layouts -/

/-- The tokens are laid out on what is left of a line and the lines behind it; a word may stand
directly before. -/
inductive LaidOut : Bool → List Token → List Char → List (List Char) → Prop where
  /-- No token is left, nor anything else. -/
  | finish {afterWord : Bool} : LaidOut afterWord [] [] []
  /-- White space. -/
  | blank {afterWord : Bool} {tokens : List Token} {c : Char} {line : List Char}
      {lines : List (List Char)} :
      Text.isBlank c = true → LaidOut false tokens line lines →
        LaidOut afterWord tokens (c :: line) lines
  /-- The end of a line. -/
  | lineEnd {afterWord : Bool} {tokens : List Token} {line : List Char}
      {lines : List (List Char)} :
      LaidOut false tokens line lines → LaidOut afterWord tokens [] (line :: lines)
  /-- The text of a token; no word stands directly behind a word. -/
  | token {afterWord : Bool} {token : Token} {tokens : List Token} {line : List Char}
      {lines : List (List Char)} :
      (afterWord = true → token.kind.isWord = false) →
      LaidOut token.kind.isWord tokens line lines →
        LaidOut afterWord (token :: tokens) (token.text.toList ++ line) lines

/-- The lines are a layout of the tokens. -/
def Layout (tokens : List Token) : List String → Prop
  | [] => tokens = []
  | line :: lines => LaidOut false tokens line.toList (lines.map String.toList)

/-- A piece that is a token by itself has the characters of that token. -/
theorem chars_of_token? {piece : Piece} {token : Token} (made : piece.token? = some token) :
    piece.chars = token.text.toList := by
  cases piece <;> cases made
  case separator mark => exact (String.toList_singleton mark.char).symm
  case arrow => rfl
  all_goals exact String.toList_ofList.symm

/-- The pieces of a scanned token: the characters of a word, or the one piece it is. They compose
its text and make that token of whatever pieces follow, unless a word goes on. -/
theorem exists_pieces_of_isScanned {token : Token} (isScanned : token.IsScanned) :
    ∃ pieces, Piece.Compose pieces token.text.toList ∧
      (token.kind.isWord = false → ∀ c behind, (pieces ++ behind).head? ≠ some (.word c)) ∧
      ∀ behind, (token.kind.isWord = true → ∀ c, behind.head? ≠ some (.word c)) →
        Piece.tokens (pieces ++ behind) = token :: Piece.tokens behind := by
  cases isScanned with
  | @word word some valid =>
      refine ⟨word.map .word, ⟨?_, ?_⟩, ?_, ?_⟩
      · intro piece member
        obtain ⟨c, inside, rfl⟩ := List.mem_map.mp member
        exact valid c inside
      · rw [String.toList_ofList, List.flatMap_map]
        exact List.flatMap_singleton' word
      · intro apart
        rw [show (wordKind (String.ofList word)).isWord = true from isWord_wordKind _] at apart
        cases apart
      · intro behind stop
        have run := @Piece.tokens_words [] behind word (by simp) (stop (isWord_wordKind _))
        rw [Piece.wordToken?, if_neg (by simpa using some)] at run
        exact run
  | @piece piece _ valid made =>
      have apart : ∀ c, piece ≠ .word c := by
        rintro c rfl
        cases made
      refine ⟨[piece], ?_, ?_, ?_⟩
      · rw [← chars_of_token? made, ← List.append_nil piece.chars]
        exact .cons valid .nil
      · intro _ c behind same
        exact apart c (Option.some.inj same)
      · intro behind _
        have run := Piece.tokens_append_cons [] apart behind
        rw [made] at run
        exact run

/-- In a layout of scanned tokens every line is composed, and the pieces have those tokens. -/
theorem exists_compose_of_laidOut {afterWord : Bool} {tokens : List Token} {line : List Char}
    {lines : List (List Char)} (laidOut : LaidOut afterWord tokens line lines)
    (scanned : ∀ token ∈ tokens, token.IsScanned) :
    ∃ pieces others, Piece.Compose pieces line ∧ List.Forall₂ Piece.Compose others lines ∧
      (afterWord = true → ∀ c, pieces.head? ≠ some (.word c)) ∧
      Piece.tokens pieces ++ others.flatMap Piece.tokens = tokens := by
  induction laidOut with
  | finish => exact ⟨[], [], .nil, .nil, fun _ _ => by simp, rfl⟩
  | @blank _ _ c _ _ blank _ induction =>
      obtain ⟨pieces, others, compose, composeOthers, -, made⟩ := induction scanned
      refine ⟨.blank c :: pieces, others, .cons blank compose, composeOthers, by simp, ?_⟩
      exact made
  | lineEnd _ induction =>
      obtain ⟨pieces, others, compose, composeOthers, -, made⟩ := induction scanned
      refine ⟨[], pieces :: others, .nil, .cons compose composeOthers, by simp, ?_⟩
      rw [List.flatMap_cons]
      exact made
  | @token afterWord token tokens line lines apart _ induction =>
      obtain ⟨isScanned, scannedRest⟩ := List.forall_mem_cons.mp scanned
      obtain ⟨pieces, others, compose, composeOthers, stop, made⟩ := induction scannedRest
      obtain ⟨first, composeFirst, firstApart, madeFirst⟩ := exists_pieces_of_isScanned isScanned
      -- What stands before is a word only if this token is none, and so for what stands behind.
      refine ⟨first ++ pieces, others, composeFirst.append compose, composeOthers, ?_, ?_⟩
      · exact fun after c => firstApart (apart after) c pieces
      · rw [madeFirst pieces stop, List.cons_append, made]

/-! ## Line ends -/

/-- A character that ends a line of a file is white space. -/
theorem isBlank_of_isFileBreak {c : Char} (breaks : Text.isFileBreak c = true) :
    Text.isBlank c = true := by
  have either : c = '\n' ∨ c = '\r' := by simpa [Text.isFileBreak] using breaks
  rcases either with rfl | rfl <;> decide

/-- Only white space ends in a character that ends a line. -/
theorem exists_chars_eq_concat {piece : Piece} (valid : piece.IsValid) :
    ∃ chars last, piece.chars = chars ++ [last] ∧
      (Text.isFileBreak last = true → chars = [] ∧ piece = .blank last) := by
  cases piece with
  | blank c => exact ⟨[], c, rfl, fun _ => ⟨rfl, rfl⟩⟩
  | separator mark => exact ⟨[], mark.char, rfl, fun breaks => by cases mark <;> cases breaks⟩
  | arrow => exact ⟨['<'], '-', rfl, fun breaks => by cases breaks⟩
  | quoted content => exact ⟨'"' :: content, '"', rfl, fun breaks => by cases breaks⟩
  | dotted content => exact ⟨'.' :: content, '.', rfl, fun breaks => by cases breaks⟩
  | word c =>
      refine ⟨[], c, rfl, fun breaks => ?_⟩
      have blank := isBlank_of_isFileBreak breaks
      rw [((isWordChar_iff c).mp valid).1] at blank
      cases blank

/-- White space behind pieces adds no token. -/
theorem Piece.tokens_append_blank (pieces : List Piece) (c : Char) :
    Piece.tokens (pieces ++ [.blank c]) = Piece.tokens pieces := by
  have apart : ∀ d, Piece.blank c ≠ .word d := fun d same => by cases same
  rw [Piece.tokens_append_cons pieces apart []]
  exact (List.append_nil _).trans (List.append_nil _)

/-- Without its line end a composed line is composed, of pieces with the same tokens. The induction
is on the pieces from the last one on. -/
theorem Piece.Compose.exists_rdropWhile {pieces : List Piece} {chars : List Char}
    (compose : Piece.Compose pieces chars) :
    ∃ others, Piece.Compose others (chars.rdropWhile Text.isFileBreak) ∧
      Piece.tokens others = Piece.tokens pieces := by
  obtain ⟨valid, rfl⟩ := compose
  induction pieces using List.reverseRecOn with
  | nil => exact ⟨[], .nil, rfl⟩
  | append_singleton pieces piece induction =>
      obtain ⟨validBefore, validLast⟩ := List.forall_mem_append.mp valid
      obtain ⟨front, last, split, blank⟩ :=
        exists_chars_eq_concat (validLast piece (List.mem_singleton_self piece))
      rw [List.flatMap_append, List.flatMap_singleton, split, ← List.append_assoc]
      -- The last piece is a line end to drop, or it ends in a character that stays.
      by_cases breaks : Text.isFileBreak last = true
      · obtain ⟨rfl, rfl⟩ := blank breaks
        obtain ⟨others, compose, made⟩ := induction validBefore
        rw [List.rdropWhile_concat_pos _ _ _ breaks, List.append_nil]
        exact ⟨others, compose, made.trans (Piece.tokens_append_blank pieces last).symm⟩
      · refine ⟨pieces ++ [piece], ⟨valid, ?_⟩, rfl⟩
        rw [List.rdropWhile_concat_neg _ _ _ breaks, List.flatMap_append, List.flatMap_singleton,
          split, List.append_assoc]

/-- The same for lines as they are read. -/
theorem Piece.Compose.exists_trimLineEnd {pieces : List Piece} {line : String}
    (compose : Piece.Compose pieces line.toList) :
    ∃ others, Piece.Compose others (Text.trimLineEnd line).toList ∧
      Piece.tokens others = Piece.tokens pieces := by
  rw [Text.trimLineEnd, String.toList_ofList]
  exact compose.exists_rdropWhile

/-! ## Scans -/

/-- Lines that are composed of pieces add the tokens of the pieces, and no error. -/
theorem foldl_scanLine_of_compose {lines : List String} {pieces : List (List Piece)}
    (compose : List.Forall₂ Piece.Compose pieces (lines.map String.toList)) {scanner : Scanner}
    (plain : scanner.mode = .plain) :
    (lines.foldl (fun scanner line => (scanner.scanLine (Text.trimLineEnd line)).nextLine)
        scanner).errors = scanner.errors ∧
      (lines.foldl (fun scanner line => (scanner.scanLine (Text.trimLineEnd line)).nextLine)
        scanner).tokens = scanner.tokens ++ (pieces.flatMap Piece.tokens).toArray := by
  induction lines generalizing scanner pieces with
  | nil =>
      cases compose
      simp
  | cons line lines induction =>
      cases compose with
      | @cons first _ rest _ composeFirst composeRest =>
          obtain ⟨trimmed, composeTrimmed, made⟩ := composeFirst.exists_trimLineEnd
          have scanned := Scanner.scanLine_of_compose plain composeTrimmed
          rw [made] at scanned
          rw [List.foldl_cons, scanned]
          have plainBehind : ((scanner.collect (Piece.tokens first)).inWord []).nextLine.mode =
              .plain := rfl
          obtain ⟨sameErrors, tokens⟩ := induction composeRest plainBehind
          refine ⟨sameErrors, tokens.trans ?_⟩
          rw [List.flatMap_cons, ← List.append_toArray, ← Array.append_assoc]
          rfl

/-- **Printing and scanning again is the identity, in any layout.** The tokens of any scan, also of
one with errors, written in order on any lines with any white space between them, and with some
between two words, scan to the same tokens without an error. -/
theorem scan_of_layout (source : Source) (lines : List String)
    (layout : Layout (scan source).tokens.toList lines) :
    (scan (.lines lines)).errors = #[] ∧ (scan (.lines lines)).tokens = (scan source).tokens := by
  -- As they are written the lines are composed; without their ends they have the same tokens.
  have composed : ∃ pieces : List (List Piece),
      List.Forall₂ Piece.Compose pieces (lines.map String.toList) ∧
        pieces.flatMap Piece.tokens = (scan source).tokens.toList := by
    cases lines with
    | nil => exact ⟨[], .nil, layout.symm⟩
    | cons line lines =>
        obtain ⟨pieces, others, compose, composeOthers, -, made⟩ :=
          exists_compose_of_laidOut layout
            fun token member => isScanned_of_mem_scan (Array.mem_def.mpr member)
        exact ⟨pieces :: others, .cons compose composeOthers, made⟩
  obtain ⟨pieces, compose, made⟩ := composed
  have plain : ({ reader := some (LineReader.ofSource (.lines lines)) } : Scanner).mode = .plain :=
    rfl
  obtain ⟨sameErrors, tokens⟩ := foldl_scanLine_of_compose compose plain
  have read : (LineReader.ofSource (.lines lines)).lines = lines.map Text.trimLineEnd := rfl
  rw [scan, read, List.foldl_map]
  refine ⟨sameErrors, tokens.trans ?_⟩
  rw [made]
  exact Array.empty_append

/-- The tokens around two errors, glued as far as they may be, an empty line before the last. -/
theorem scan_of_layout_glued :
    (scan (.text "x <-.minus. 5 .not a\n<print")).errors.size = 2 ∧
      (scan (.lines ["x<-.minus.5 a", "", "\tprint\r\n"])).errors = #[] ∧
      (scan (.lines ["x<-.minus.5 a", "", "\tprint\r\n"])).tokens =
        (scan (.text "x <-.minus. 5 .not a\n<print")).tokens := by
  have tokens : (scan (.text "x <-.minus. 5 .not a\n<print")).tokens.toList =
      [⟨.name, "x"⟩, Token.arrow, ⟨.operator, ".minus."⟩, ⟨.integer, "5"⟩, ⟨.name, "a"⟩,
        ⟨.keyword, "print"⟩] := by
    decide +kernel
  have first : "x<-.minus.5 a".toList = "x".toList ++ ("<-".toList ++ (".minus.".toList ++
      ("5".toList ++ ' ' :: ("a".toList ++ [])))) := by
    decide
  have last : "\tprint\r\n".toList = '\t' :: ("print".toList ++ ['\r', '\n']) := by
    decide
  have layout : Layout (scan (.text "x <-.minus. 5 .not a\n<print")).tokens.toList
      ["x<-.minus.5 a", "", "\tprint\r\n"] := by
    rw [tokens]
    simp only [Layout, List.map_cons, List.map_nil, first, last]
    refine .token (by decide) (.token (by decide) (.token (by decide) (.token (by decide) ?_)))
    refine .blank (by decide) (.token (by decide) (.lineEnd (.lineEnd (.blank (by decide) ?_))))
    exact .token (by decide) (.blank (by decide) (.blank (by decide) .finish))
  have again := scan_of_layout _ _ layout
  exact ⟨by decide +kernel, again.1, again.2⟩

end Dopl
