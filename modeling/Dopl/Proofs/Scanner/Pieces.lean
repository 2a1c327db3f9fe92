import Dopl.Proofs.Scanner.Rest

/-! # A line scans without an error iff it is a sequence of pieces

* **`Piece.Compose`** — valid pieces and the characters of a line.
* **`Piece.compose_unique`** — a line is composed in one way at most.
* **`Scanner.noted_or_composed`** — a line that is not composed of pieces has a fault noted.
* **`Scanner.scanLine_of_compose`** — a line that is has the tokens of its pieces.
* **`Scanner.scanLine_accepts_iff_compose`** — both halves, for a scanner at any time. -/

namespace Dopl

/-! ## Composed lines -/

namespace Piece

/-- The characters are those of valid pieces. -/
structure Compose (pieces : List Piece) (chars : List Char) : Prop where
  /-- Each piece holds what its kind allows. -/
  valid : ∀ piece ∈ pieces, piece.IsValid
  /-- The characters stand in order, and there are no others. -/
  chars_eq : pieces.flatMap Piece.chars = chars

namespace Compose

variable {piece : Piece} {pieces others : List Piece} {chars rest : List Char}

/-- No pieces compose no characters. -/
theorem nil : Compose [] [] :=
  ⟨fun _ member => absurd member List.not_mem_nil, rfl⟩

/-- A piece stands before others. -/
theorem cons (valid : piece.IsValid) (compose : Compose pieces chars) :
    Compose (piece :: pieces) (piece.chars ++ chars) :=
  ⟨List.forall_mem_cons.mpr ⟨valid, compose.valid⟩, by rw [List.flatMap_cons, compose.chars_eq]⟩

/-- Pieces stand before others. -/
theorem append (compose : Compose pieces chars) (composeRest : Compose others rest) :
    Compose (pieces ++ others) (chars ++ rest) :=
  ⟨List.forall_mem_append.mpr ⟨compose.valid, composeRest.valid⟩,
    by rw [List.flatMap_append, compose.chars_eq, composeRest.chars_eq]⟩

/-- The first of some pieces is valid, and the others compose what stands behind it. -/
theorem uncons (compose : Compose (piece :: pieces) chars) :
    piece.IsValid ∧ ∃ behind, chars = piece.chars ++ behind ∧ Compose pieces behind := by
  obtain ⟨valid, same⟩ := compose
  rw [List.forall_mem_cons] at valid
  rw [List.flatMap_cons] at same
  exact ⟨valid.1, _, same.symm, valid.2, rfl⟩

end Compose

/-- The class of the character a piece starts with. -/
def startClass : Piece → CharClass
  | .blank _ => .blank
  | .separator _ => .separator
  | .arrow => .angle
  | .quoted _ => .quote
  | .dotted _ => .dot
  | .word _ => .word

/-- A valid piece starts with a character of its class. -/
theorem exists_chars_eq_cons {piece : Piece} (valid : piece.IsValid) :
    ∃ first behind, piece.chars = first :: behind ∧ charClass first = piece.startClass := by
  cases piece with
  | blank c => exact ⟨c, [], rfl, charClass_eq_of_holds valid⟩
  | separator mark => exact ⟨mark.char, [], rfl, charClass_eq_of_holds ⟨mark, rfl⟩⟩
  | arrow => exact ⟨'<', ['-'], rfl, charClass_eq_of_holds rfl⟩
  | quoted content => exact ⟨'"', content ++ ['"'], rfl, charClass_eq_of_holds rfl⟩
  | dotted content => exact ⟨'.', content ++ ['.'], rfl, charClass_eq_of_holds rfl⟩
  | word c => exact ⟨c, [], rfl, charClass_eq_of_holds valid⟩

/-- Two marks are the same separator. -/
theorem separator_char_injective {mark other : Separator} (same : mark.char = other.char) :
    mark = other := by
  cases mark <;> cases other <;> first | rfl | exact absurd same (by decide)

/-- A list that goes on up to the first mark is cut at that mark in one way only. -/
theorem eq_of_append_mark_eq {mark : Char} {content other rest behind : List Char}
    (absent : ∀ c ∈ content, c ≠ mark) (otherAbsent : ∀ c ∈ other, c ≠ mark)
    (same : content ++ mark :: rest = other ++ mark :: behind) :
    content = other ∧ rest = behind := by
  induction content generalizing other with
  | nil =>
      cases other with
      | nil => exact ⟨rfl, (List.cons.inj same).2⟩
      | cons c _ => exact absurd (List.cons.inj same).1.symm (otherAbsent c List.mem_cons_self)
  | cons c content induction =>
      cases other with
      | nil => exact absurd (List.cons.inj same).1 (absent c List.mem_cons_self)
      | cons d other =>
          obtain ⟨rfl, sameBehind⟩ := List.cons.inj same
          obtain ⟨rfl, sameRest⟩ := induction (List.forall_mem_cons.mp absent).2
            (List.forall_mem_cons.mp otherAbsent).2 sameBehind
          exact ⟨rfl, sameRest⟩

/-- What a line starts with tells its first piece apart: the first character is of one class only,
and a quoted text or an operator goes on up to the first mark of its end. -/
theorem eq_of_chars_append_eq {piece other : Piece} {rest behind : List Char}
    (valid : piece.IsValid) (otherValid : other.IsValid)
    (same : piece.chars ++ rest = other.chars ++ behind) : piece = other ∧ rest = behind := by
  have sameClass : piece.startClass = other.startClass := by
    obtain ⟨first, _, chars, kind⟩ := exists_chars_eq_cons valid
    obtain ⟨otherFirst, _, otherChars, otherKind⟩ := exists_chars_eq_cons otherValid
    rw [chars, otherChars, List.cons_append, List.cons_append, List.cons.injEq] at same
    rw [← kind, ← otherKind, same.1]
  -- Only pieces of one kind are left, since no two kinds start in the same class.
  cases piece <;> cases other <;> simp only [startClass, reduceCtorEq] at sameClass
  case blank.blank =>
    simpa [chars] using same
  case separator.separator =>
    simp only [chars, List.cons_append, List.nil_append, List.cons.injEq] at same
    exact ⟨by rw [separator_char_injective same.1], same.2⟩
  case arrow.arrow =>
    simpa [chars] using same
  case quoted.quoted content other =>
    simp only [chars, List.cons_append, List.nil_append, List.append_assoc, List.cons.injEq,
      true_and] at same
    obtain ⟨sameContent, sameBehind⟩ := eq_of_append_mark_eq valid otherValid same
    exact ⟨by rw [sameContent], sameBehind⟩
  case dotted.dotted content other =>
    simp only [chars, List.cons_append, List.nil_append, List.append_assoc, List.cons.injEq,
      true_and] at same
    obtain ⟨sameContent, sameBehind⟩ := eq_of_append_mark_eq
      (fun c member => (valid c member).1) (fun c member => (otherValid c member).1) same
    exact ⟨by rw [sameContent], sameBehind⟩
  case word.word =>
    simpa [chars] using same

/-- A line is composed in one way at most. -/
theorem compose_unique {pieces others : List Piece} {chars : List Char}
    (compose : Compose pieces chars) (otherCompose : Compose others chars) : pieces = others := by
  induction pieces generalizing others chars with
  | nil =>
      obtain rfl : [] = chars := compose.chars_eq
      cases others with
      | nil => rfl
      | cons other rest =>
          obtain ⟨otherValid, behind, same, -⟩ := otherCompose.uncons
          obtain ⟨first, more, otherChars, -⟩ := exists_chars_eq_cons otherValid
          rw [otherChars] at same
          cases same
  | cons piece pieces induction =>
      obtain ⟨valid, behind, rfl, composeBehind⟩ := compose.uncons
      cases others with
      | nil =>
          have same : [] = piece.chars ++ behind := otherCompose.chars_eq
          obtain ⟨first, more, chars, -⟩ := exists_chars_eq_cons valid
          rw [chars] at same
          cases same
      | cons other others =>
          obtain ⟨otherValid, otherBehind, same, otherComposeBehind⟩ := otherCompose.uncons
          obtain ⟨rfl, rfl⟩ := eq_of_chars_append_eq valid otherValid same
          rw [induction composeBehind otherComposeBehind]

end Piece

/-! ## The tokens of pieces -/

namespace Piece

/-- Any piece but a character of a word ends the word before it. -/
theorem tokensAfter_cons (word : List Char) {piece : Piece} (apart : ∀ c, piece ≠ .word c)
    (pieces : List Piece) :
    tokensAfter word (piece :: pieces) =
      (wordToken? word).toList ++ piece.token?.toList ++ tokens pieces := by
  cases piece with
  | word c => exact absurd rfl (apart c)
  | _ => rfl

/-- A piece between others that is no character of a word adds its own token between theirs. -/
theorem tokensAfter_append_cons (word : List Char) (before : List Piece) {piece : Piece}
    (apart : ∀ c, piece ≠ .word c) (behind : List Piece) :
    tokensAfter word (before ++ piece :: behind) =
      tokensAfter word before ++ piece.token?.toList ++ tokens behind := by
  induction before generalizing word with
  | nil => exact tokensAfter_cons word apart behind
  | cons first before induction =>
      by_cases inside : ∃ c, first = .word c
      · obtain ⟨c, rfl⟩ := inside
        exact induction (word ++ [c])
      · have firstApart : ∀ c, first ≠ .word c := fun c same => inside ⟨c, same⟩
        rw [List.cons_append, tokensAfter_cons word firstApart, tokensAfter_cons word firstApart,
          tokens, tokens, induction, tokens]
        simp only [List.append_assoc]

/-- The same, with nothing before the first piece. -/
theorem tokens_append_cons (before : List Piece) {piece : Piece} (apart : ∀ c, piece ≠ .word c)
    (behind : List Piece) :
    tokens (before ++ piece :: behind) = tokens before ++ piece.token?.toList ++ tokens behind :=
  tokensAfter_append_cons [] before apart behind

/-- Characters of a word go on with the word before them. -/
theorem tokensAfter_words (word more : List Char) (behind : List Piece) :
    tokensAfter word (more.map .word ++ behind) = tokensAfter (word ++ more) behind := by
  induction more generalizing word with
  | nil => rw [List.map_nil, List.nil_append, List.append_nil]
  | cons c more induction =>
      rw [List.map_cons, List.cons_append, tokensAfter, induction, List.append_assoc]
      rfl

/-- The word before pieces that do not go on with it is a token. -/
theorem tokensAfter_of_head (word : List Char) {behind : List Piece}
    (apart : ∀ c, behind.head? ≠ some (.word c)) :
    tokensAfter word behind = (wordToken? word).toList ++ tokens behind := by
  cases behind with
  | nil => exact (List.append_nil _).symm
  | cons piece behind =>
      have pieceApart : ∀ c, piece ≠ .word c := fun c same => apart c (by rw [same]; rfl)
      rw [tokens, tokensAfter_cons word pieceApart, tokensAfter_cons [] pieceApart,
        List.append_assoc]
      rfl

/-- A maximal run of characters of a word is one token, of the kind of that word. -/
theorem tokens_words {before behind : List Piece} (word : List Char)
    (start : ∀ c, before.getLast? ≠ some (.word c)) (stop : ∀ c, behind.head? ≠ some (.word c)) :
    tokens (before ++ (word.map .word ++ behind)) =
      tokens before ++ ((wordToken? word).toList ++ tokens behind) := by
  have run : tokens (word.map .word ++ behind) = (wordToken? word).toList ++ tokens behind :=
    (tokensAfter_words [] word behind).trans (tokensAfter_of_head word stop)
  rcases List.eq_nil_or_concat before with rfl | ⟨outside, last, rfl⟩
  · exact run
  · have apart : ∀ c, last ≠ .word c := fun c same => start c (by simp [same])
    have whole := tokens_append_cons outside apart (word.map .word ++ behind)
    have alone : tokens (outside ++ [last]) = tokens outside ++ last.token?.toList := by
      rw [tokens_append_cons outside apart []]
      exact List.append_nil _
    rw [List.concat_eq_append, List.append_assoc, List.singleton_append, whole, alone, run]

/-- Whether the piece is white space. -/
def isBlank : Piece → Bool
  | .blank _ => true
  | _ => false

/-- The texts of the tokens are the characters of all pieces but the white space. -/
theorem flatMap_text_tokensAfter (word : List Char) (pieces : List Piece) :
    (tokensAfter word pieces).flatMap (fun token => token.text.toList) =
      word ++ (pieces.filter fun piece => !piece.isBlank).flatMap Piece.chars := by
  have wordText : ∀ word : List Char,
      (wordToken? word).toList.flatMap (fun token => token.text.toList) = word := by
    intro word
    cases word <;> simp [wordToken?]
  induction pieces generalizing word with
  | nil => simp [tokensAfter, wordText]
  | cons piece pieces induction =>
      cases piece with
      | word c => simp [tokensAfter, induction, isBlank, chars]
      | blank c => simp [tokensAfter, wordText, induction, isBlank, token?]
      | separator mark =>
          simp [tokensAfter, wordText, induction, isBlank, token?, chars, Separator.text]
      | arrow => simp [tokensAfter, wordText, induction, isBlank, token?, chars, Token.arrow]
      | quoted content => simp [tokensAfter, wordText, induction, isBlank, token?, chars]
      | dotted content => simp [tokensAfter, wordText, induction, isBlank, token?, chars]

end Piece

namespace Scanner

/-- The scanner inside a word, its characters pending. -/
def inWord (scanner : Scanner) (word : List Char) : Scanner :=
  { scanner with mode := .plain, pending := String.ofList word }

/-- In plain text a line starts with no word. -/
theorem scanLine_eq_foldl {scanner : Scanner} (plain : scanner.mode = .plain) (line : String) :
    scanner.scanLine line = (line.toList.foldl feed (scanner.inWord [])).endLine := by
  rw [scanLine, inWord, plain]

/-! ## A line without a fault is composed -/

/-- A character notes a fault, or it completes at most one piece, and what is open behind it is the
rest of what is read. -/
theorem noted_or_advanced {scanner after : Scanner} {c : Char} (fed : Fed scanner c after)
    (fits : scanner.Fits) :
    scanner.errors.size < after.errors.size ∨
      after.errors = scanner.errors ∧
        ∃ done read, Piece.Compose done read ∧ scanner.opened ++ [c] = read ++ after.opened := by
  induction fed with
  | @blank scanner c plain blank =>
      have stays : scanner.flush.mode = .plain := (mode_flush scanner).trans plain
      refine .inr ⟨errors_flush scanner, [.blank c], _, .cons blank .nil, ?_⟩
      rw [opened_plain plain, opened_plain stays]
      rfl
  | @dot scanner plain =>
      refine .inr ⟨errors_flush scanner, [], _, .nil, ?_⟩
      rw [opened_plain plain, opened_dotted rfl]
      show [] ++ ['.'] = [] ++ (String.singleton '.').toList
      rw [String.toList_singleton]
  | @quote scanner plain =>
      refine .inr ⟨errors_flush scanner, [], _, .nil, ?_⟩
      rw [opened_plain plain, opened_quoted rfl]
      show [] ++ ['"'] = [] ++ (String.singleton '"').toList
      rw [String.toList_singleton]
  | @separator scanner mark plain =>
      have stays : (scanner.flush.push ⟨.separator, mark.text⟩).mode = .plain :=
        (mode_flush scanner).trans plain
      refine .inr ⟨errors_flush scanner, [.separator mark], _, .cons trivial .nil, ?_⟩
      rw [opened_plain plain, opened_plain stays]
      rfl
  | @angle scanner plain =>
      refine .inr ⟨errors_flush scanner, [], _, .nil, ?_⟩
      rw [opened_plain plain, opened_angle rfl]
  | @word scanner c plain word =>
      have stays : (scanner.keep c).mode = .plain := plain
      refine .inr ⟨rfl, [.word c], _, .cons word .nil, ?_⟩
      rw [opened_plain plain, opened_plain stays]
      rfl
  | @endQuoted scanner quoted =>
      obtain ⟨content, pending, valid⟩ := (fits_quoted quoted).mp fits
      refine .inr ⟨rfl, [.quoted content], _, .cons valid .nil, ?_⟩
      rw [opened_quoted quoted, opened_plain rfl, pending, List.append_nil, List.append_nil]
      rfl
  | @quoted scanner c quoted _ =>
      have stays : (scanner.keep c).mode = .quoted := quoted
      refine .inr ⟨rfl, [], _, .nil, ?_⟩
      rw [opened_quoted quoted, opened_quoted stays, keep, String.toList_push]
      rfl
  | @endDotted scanner dotted =>
      obtain ⟨content, pending, valid⟩ := (fits_dotted dotted).mp fits
      refine .inr ⟨rfl, [.dotted content], _, .cons valid .nil, ?_⟩
      rw [opened_dotted dotted, opened_plain rfl, pending, List.append_nil, List.append_nil]
      rfl
  | blankInOperator _ _ => exact .inl (by simp [fail, reset])
  | @dotted scanner c dotted _ _ =>
      have stays : (scanner.keep c).mode = .dotted := dotted
      refine .inr ⟨rfl, [], _, .nil, ?_⟩
      rw [opened_dotted dotted, opened_dotted stays, keep, String.toList_push]
      rfl
  | @arrow scanner angle =>
      refine .inr ⟨rfl, [.arrow], _, .cons trivial .nil, ?_⟩
      rw [opened_angle angle, opened_plain rfl]
      rfl
  | @loneAngle scanner after c angle _ induction =>
      -- The fault is noted already, whatever becomes of the character.
      have noted : scanner.errors.size < (scanner.fail .loneAngle).errors.size := by simp [fail]
      rcases induction (fits_of_pending rfl ((fits_angle angle).mp fits)) with more | ⟨same, -⟩
      · exact .inl (Nat.lt_trans noted more)
      · refine .inl ?_
        rw [same]
        exact noted

/-- The end of a line notes a fault iff a piece is open. -/
theorem noted_or_closed (scanner : Scanner) :
    scanner.errors.size < scanner.endLine.errors.size ∨
      scanner.endLine.errors = scanner.errors ∧ scanner.opened = [] := by
  unfold endLine
  split
  · next plain => exact .inr ⟨errors_flush scanner, opened_plain plain⟩
  all_goals exact .inl (by simp [fail, reset])

/-- From any place in a line on, a fault is noted, or the characters are composed, those of an open
piece included. The induction is on the characters that are left. -/
theorem noted_or_composed (chars : List Char) {scanner : Scanner} (fits : scanner.Fits) :
    scanner.errors.size < (chars.foldl feed scanner).endLine.errors.size ∨
      (chars.foldl feed scanner).endLine.errors = scanner.errors ∧
        ∃ pieces, Piece.Compose pieces (scanner.opened ++ chars) := by
  induction chars generalizing scanner with
  | nil =>
      rcases noted_or_closed scanner with noted | ⟨same, closed⟩
      · exact .inl noted
      · refine .inr ⟨same, [], ?_⟩
        rw [closed]
        exact .nil
  | cons c chars induction =>
      have fed := fed_feed scanner c
      have behind := induction (fits_of_fed fed fits)
      rw [List.foldl_cons]
      rcases noted_or_advanced fed fits with noted | ⟨same, done, read, composeRead, split⟩
      · -- The characters behind a fault note more of them or none, but take none back.
        rcases behind with more | ⟨sameBehind, -⟩
        · exact .inl (Nat.lt_trans noted more)
        · refine .inl ?_
          rw [sameBehind]
          exact noted
      · rw [same] at behind
        rcases behind with more | ⟨sameBehind, pieces, compose⟩
        · exact .inl more
        · refine .inr ⟨sameBehind, done ++ pieces, ?_⟩
          rw [List.append_cons, split, List.append_assoc]
          exact composeRead.append compose

/-! ## A composed line has the tokens of its pieces -/

/-- The scanner with some tokens more. -/
def collect (scanner : Scanner) (tokens : List Token) : Scanner :=
  { scanner with tokens := scanner.tokens ++ tokens.toArray }

/-- No tokens more change nothing. -/
@[simp] theorem collect_nil (scanner : Scanner) : scanner.collect [] = scanner := by
  simp [collect]

/-- Tokens are collected one after the other. -/
theorem collect_append (scanner : Scanner) (tokens others : List Token) :
    scanner.collect (tokens ++ others) = (scanner.collect tokens).collect others := by
  simp [collect, Array.append_assoc]

/-- One token more is a list of one token more. -/
theorem push_eq_collect (scanner : Scanner) (token : Token) :
    scanner.push token = scanner.collect [token] := by
  simp [collect, push]

/-- A word goes on. -/
theorem feed_inWord_word (scanner : Scanner) (word : List Char) {c : Char}
    (goesOn : isWordChar c = true) :
    (scanner.inWord word).feed c = scanner.inWord (word ++ [c]) := by
  rw [feed_plain _ rfl, feedPlain_word _ goesOn]
  simp [inWord, keep]

/-- The end of a word makes it a token. -/
theorem flush_inWord (scanner : Scanner) (word : List Char) :
    (scanner.inWord word).flush = (scanner.collect (Piece.wordToken? word).toList).inWord [] := by
  cases word with
  | nil => simp [inWord, flush, Piece.wordToken?]
  | cons c word => simp [inWord, flush, emit, push_eq_collect, collect, Piece.wordToken?]

/-- The end of a line ends the last word. -/
theorem endLine_inWord (scanner : Scanner) (word : List Char) :
    (scanner.inWord word).endLine = (scanner.collect (Piece.wordToken? word).toList).inWord [] := by
  have reset_ : (scanner.inWord word).endLine = (scanner.inWord word).flush.reset := rfl
  rw [reset_, flush_inWord]
  rfl

/-- Characters that an open piece keeps are all pending behind them. -/
theorem foldl_feed_of_keep {mode : ScanMode} {content : List Char}
    (keeps : ∀ c ∈ content, ∀ scanner : Scanner, scanner.mode = mode →
      scanner.feed c = scanner.keep c)
    {scanner : Scanner} (entered : scanner.mode = mode) :
    content.foldl feed scanner =
      { scanner with pending := scanner.pending ++ String.ofList content } := by
  induction content generalizing scanner with
  | nil => simp
  | cons c content induction =>
      obtain ⟨keepsFirst, keepsRest⟩ := List.forall_mem_cons.mp keeps
      have stays : (scanner.keep c).mode = mode := entered
      rw [List.foldl_cons, keepsFirst scanner entered, induction keepsRest stays]
      simp [keep, String.ext_iff]

/-- A quoted text goes on up to the next double quote. -/
theorem feed_quoted {scanner : Scanner} (quoted : scanner.mode = .quoted) {c : Char}
    (goesOn : c ≠ '"') : scanner.feed c = scanner.keep c := by
  simp [feed, quoted, goesOn]

/-- An operator goes on up to the next dot, or to white space. -/
theorem feed_dotted {scanner : Scanner} (dotted : scanner.mode = .dotted) {c : Char}
    (goesOn : c ≠ '.') (blank : Text.isBlank c = false) : scanner.feed c = scanner.keep c := by
  simp [feed, dotted, goesOn, blank]

/-- Any piece but a character of a word ends the word before it, and adds its own token. -/
theorem foldl_feed_chars (scanner : Scanner) (word : List Char) {piece : Piece}
    (valid : piece.IsValid) (apart : ∀ c, piece ≠ .word c) :
    piece.chars.foldl feed (scanner.inWord word) =
      (scanner.collect ((Piece.wordToken? word).toList ++ piece.token?.toList)).inWord [] := by
  rw [collect_append]
  cases piece with
  | blank c =>
      rw [Piece.chars, List.foldl_cons, List.foldl_nil, feed_plain _ rfl, feedPlain_blank _ valid,
        flush_inWord]
      simp [Piece.token?]
  | separator mark =>
      rw [Piece.chars, List.foldl_cons, List.foldl_nil, feed_plain _ rfl, feedPlain_separator,
        flush_inWord]
      simp [Piece.token?, inWord, collect, push]
  | arrow =>
      rw [Piece.chars, List.foldl_cons, feed_plain _ rfl, feedPlain_angle, flush_inWord]
      simp [Piece.token?, inWord, collect, push, feed]
  | quoted content =>
      -- The first mark ends the word, the content is kept, and the second mark makes the token.
      rw [Piece.chars, List.cons_append, List.foldl_cons, feed_plain _ rfl, feedPlain_quote,
        flush_inWord, List.foldl_append, foldl_feed_of_keep
          (fun c member _ entered => feed_quoted entered (valid c member)) rfl]
      have spelled : (String.singleton '"' ++ String.ofList content).toList = '"' :: content := by
        simp
      simp only [Piece.token?, ← push_eq_ofList spelled]
      simp [inWord, collect, push, feed, enter, keep, emit]
  | dotted content =>
      rw [Piece.chars, List.cons_append, List.foldl_cons, feed_plain _ rfl, feedPlain_dot,
        flush_inWord, List.foldl_append, foldl_feed_of_keep
          (fun c member _ entered => feed_dotted entered (valid c member).1 (valid c member).2) rfl]
      have spelled : (String.singleton '.' ++ String.ofList content).toList = '.' :: content := by
        simp
      simp only [Piece.token?, ← push_eq_ofList spelled]
      simp [inWord, collect, push, feed, enter, keep, emit]
  | word c => exact absurd rfl (apart c)

/-- From inside a word on, the characters of pieces add the tokens of the pieces with the word
before them. The induction is on the pieces, with the word before them as it grows. -/
theorem endLine_foldl_feed (scanner : Scanner) (word : List Char) {pieces : List Piece}
    (valid : ∀ piece ∈ pieces, piece.IsValid) :
    ((pieces.flatMap Piece.chars).foldl feed (scanner.inWord word)).endLine =
      (scanner.collect (Piece.tokensAfter word pieces)).inWord [] := by
  induction pieces generalizing scanner word with
  | nil => exact endLine_inWord scanner word
  | cons piece pieces induction =>
      obtain ⟨validFirst, validRest⟩ := List.forall_mem_cons.mp valid
      rw [List.flatMap_cons, List.foldl_append]
      by_cases inside : ∃ c, piece = .word c
      · obtain ⟨c, rfl⟩ := inside
        rw [Piece.chars, List.foldl_cons, List.foldl_nil, feed_inWord_word _ _ validFirst,
          induction scanner (word ++ [c]) validRest, Piece.tokensAfter]
      · have apart : ∀ c, piece ≠ .word c := fun c same => inside ⟨c, same⟩
        rw [foldl_feed_chars scanner word validFirst apart, induction _ [] validRest,
          ← collect_append, Piece.tokensAfter_cons word apart, Piece.tokens]

/-- A composed line adds the tokens of its pieces, and changes nothing else. -/
theorem scanLine_of_compose {scanner : Scanner} (plain : scanner.mode = .plain) {line : String}
    {pieces : List Piece} (compose : Piece.Compose pieces line.toList) :
    scanner.scanLine line = (scanner.collect (Piece.tokens pieces)).inWord [] := by
  rw [scanLine_eq_foldl plain, ← compose.chars_eq, endLine_foldl_feed scanner [] compose.valid]
  rfl

/-! ## At any time -/

/-- **The scanner accepts exactly the lines that are composed of pieces.** At any time, a line has
no fault noted iff it is composed of valid pieces; then it is so in one way, and the tokens added
are those of the pieces, one for each maximal run of word characters and for every other piece but
white space. Their texts are all the characters but the white space between them. -/
theorem scanLine_accepts_iff_compose (commands : List ScanCommand) (line : String) :
    (((session commands).scanLine line).errors = (session commands).errors ↔
        ∃ pieces, Piece.Compose pieces line.toList) ∧
      ∀ pieces, Piece.Compose pieces line.toList →
        (∀ others, Piece.Compose others line.toList → others = pieces) ∧
        ((session commands).scanLine line).tokens =
          (session commands).tokens ++ (Piece.tokens pieces).toArray ∧
        (∀ before word behind, pieces = before ++ (List.map Piece.word word ++ behind) →
          (∀ c, before.getLast? ≠ some (.word c)) → (∀ c, behind.head? ≠ some (.word c)) →
            Piece.tokens pieces =
              Piece.tokens before ++ ((Piece.wordToken? word).toList ++ Piece.tokens behind)) ∧
        (Piece.tokens pieces).flatMap (fun token => token.text.toList) =
          (pieces.filter fun piece => !piece.isBlank).flatMap Piece.chars := by
  have plain := (rests_session commands).1
  refine ⟨⟨?_, ?_⟩, ?_⟩
  · intro clean
    have fits : ((session commands).inWord []).Fits := fits_of_pending rfl rfl
    rw [scanLine_eq_foldl plain] at clean
    rcases noted_or_composed line.toList fits with noted | ⟨-, composed⟩
    · rw [clean] at noted
      exact absurd noted (Nat.lt_irrefl _)
    · exact composed
  · rintro ⟨pieces, compose⟩
    rw [scanLine_of_compose plain compose]
    rfl
  · intro pieces compose
    refine ⟨fun others otherCompose => Piece.compose_unique otherCompose compose, ?_, ?_, ?_⟩
    · rw [scanLine_of_compose plain compose]
      rfl
    · rintro before word behind rfl start stop
      exact Piece.tokens_words word start stop
    · exact Piece.flatMap_text_tokensAfter [] pieces

/-- A name, an arrow, an operator, a quoted text and an integer stand together with one blank. -/
theorem scanLine_accepts_iff_compose_glued :
    ∃ pieces, Piece.Compose pieces "x<-.not.\"a b\" 7".toList ∧
      ((session []).scanLine "x<-.not.\"a b\" 7").tokens = (Piece.tokens pieces).toArray ∧
      Piece.tokens pieces = [⟨.name, "x"⟩, Token.arrow, ⟨.operator, ".not."⟩,
        ⟨.character, "\"a b\""⟩, ⟨.integer, "7"⟩] := by
  have compose : Piece.Compose [.word 'x', .arrow, .dotted ['n', 'o', 't'],
      .quoted ['a', ' ', 'b'], .blank ' ', .word '7'] "x<-.not.\"a b\" 7".toList := by
    refine ⟨?_, by decide⟩
    simp only [List.forall_mem_cons, List.not_mem_nil, false_implies, implies_true, and_true,
      Piece.IsValid, true_and]
    decide
  have added := ((scanLine_accepts_iff_compose [] "x<-.not.\"a b\" 7").2 _ compose).2.1
  refine ⟨_, compose, ?_, by decide +kernel⟩
  rw [added]
  rfl

end Scanner

end Dopl
