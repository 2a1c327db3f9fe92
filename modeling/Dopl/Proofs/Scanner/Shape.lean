import Dopl.Proofs.Scanner.Feed

/-! # The tokens that a scan makes

Whatever a source looks like, also behind an error in it, a token of its scan is either a whole word
or a whole piece, with the kind that belongs to its text:

* **`Token.IsScanned`** — the token is one that the scanner makes.
* **`Scanner.Scanned`** — all tokens of a scanner are; one character keeps that, and so does a line.
* **`isScanned_of_mem_scan`** — a scan holds no other tokens. -/

namespace Dopl

/-- Whether tokens of the kind are words. -/
def TokenKind.isWord : TokenKind → Bool
  | .keyword | .name | .integer => true
  | _ => false

/-- A word has the kind of one. -/
theorem isWord_wordKind (word : String) : (wordKind word).isWord = true := by
  unfold wordKind
  split
  · rfl
  · split <;> rfl

/-- The token is made from characters that can stand in a line. -/
inductive Token.IsScanned : Token → Prop where
  /-- A word, of the kind that its text says. -/
  | word {word : List Char} :
      word ≠ [] → (∀ c ∈ word, isWordChar c = true) →
        IsScanned ⟨wordKind (String.ofList word), String.ofList word⟩
  /-- A piece that is a token by itself. -/
  | piece {piece : Piece} {token : Token} :
      piece.IsValid → piece.token? = some token → IsScanned token

namespace Scanner

/-- The scanner has made all its tokens from characters of lines. -/
def Scanned (scanner : Scanner) : Prop :=
  ∀ token ∈ scanner.tokens, token.IsScanned

/-- One scanned token more keeps the others scanned. -/
theorem scanned_push {scanner : Scanner} {token : Token} (scanned : scanner.Scanned)
    (isScanned : token.IsScanned) : (scanner.push token).Scanned := by
  intro other member
  rcases Array.mem_push.mp member with before | rfl
  · exact scanned other before
  · exact isScanned

/-- The end of a word makes a scanned token of it. -/
theorem scanned_flush {scanner : Scanner} (plain : scanner.mode = .plain) (fits : scanner.Fits)
    (scanned : scanner.Scanned) : scanner.flush.Scanned := by
  unfold flush
  split
  · exact scanned
  · next some =>
    have word := Token.IsScanned.word (fun empty => some (String.toList_eq_nil_iff.mp empty))
      ((fits_plain plain).mp fits)
    rw [String.ofList_toList] at word
    exact scanned_push scanned word

/-- A character keeps the tokens scanned. -/
theorem scanned_of_fed {scanner after : Scanner} {c : Char} (fed : Fed scanner c after)
    (fits : scanner.Fits) (scanned : scanner.Scanned) : after.Scanned := by
  induction fed with
  | blank plain _ => exact scanned_flush plain fits scanned
  | dot plain => exact scanned_flush plain fits scanned
  | quote plain => exact scanned_flush plain fits scanned
  | separator mark plain =>
      have token := @Token.IsScanned.piece (.separator mark) _ trivial rfl
      exact scanned_push (scanned_flush plain fits scanned) token
  | angle plain => exact scanned_flush plain fits scanned
  | word _ _ => exact scanned
  | @endQuoted scanner quoted =>
      obtain ⟨content, pending, valid⟩ := (fits_quoted quoted).mp fits
      have token := @Token.IsScanned.piece (.quoted content) _ valid rfl
      rw [← push_eq_ofList pending] at token
      exact scanned_push scanned token
  | quoted _ _ => exact scanned
  | @endDotted scanner dotted =>
      obtain ⟨content, pending, valid⟩ := (fits_dotted dotted).mp fits
      have token := @Token.IsScanned.piece (.dotted content) _ valid rfl
      rw [← push_eq_ofList pending] at token
      exact scanned_push scanned token
  | blankInOperator _ _ => exact scanned
  | dotted _ _ _ => exact scanned
  | arrow _ => exact scanned_push scanned (@Token.IsScanned.piece .arrow _ trivial rfl)
  | loneAngle angle _ induction =>
      exact induction (fits_of_pending rfl ((fits_angle angle).mp fits)) scanned

/-- The end of a line keeps the tokens scanned. -/
theorem scanned_endLine {scanner : Scanner} (fits : scanner.Fits) (scanned : scanner.Scanned) :
    scanner.endLine.Scanned := by
  unfold endLine
  split
  · next plain => exact scanned_flush plain fits scanned
  all_goals exact scanned

/-- A line keeps the tokens scanned. -/
theorem scanned_scanLine {scanner : Scanner} (plain : scanner.mode = .plain)
    (scanned : scanner.Scanned) (line : String) : (scanner.scanLine line).Scanned := by
  have run : ∀ (chars : List Char) (scanner : Scanner), scanner.Fits → scanner.Scanned →
      (chars.foldl feed scanner).endLine.Scanned := by
    intro chars
    induction chars with
    | nil => exact fun _ fits scanned => scanned_endLine fits scanned
    | cons c chars induction =>
        intro scanner fits scanned
        have fed := fed_feed scanner c
        exact induction _ (fits_of_fed fed fits) (scanned_of_fed fed fits scanned)
  exact run line.toList { scanner with pending := "" } (fits_of_pending plain rfl) scanned

/-- Lines keep the tokens scanned. -/
theorem scanned_foldl_scanLine (lines : List String) {scanner : Scanner}
    (plain : scanner.mode = .plain) (scanned : scanner.Scanned) :
    (lines.foldl (fun scanner line => (scanner.scanLine line).nextLine) scanner).Scanned := by
  induction lines generalizing scanner with
  | nil => exact scanned
  | cons line lines induction =>
      exact induction (mode_scanLine scanner line) (scanned_scanLine plain scanned line)

end Scanner

/-- The scan of a source holds only tokens that the scanner makes. -/
theorem isScanned_of_mem_scan {source : Source} {token : Token}
    (member : token ∈ (scan source).tokens) : token.IsScanned := by
  refine Scanner.scanned_foldl_scanLine _ rfl ?_ token member
  exact fun _ absent => absurd absent (Array.not_mem_empty _)

/-- No scanned token marks the end of the input. -/
theorem Token.IsScanned.kind_ne_endOfInput {token : Token} (isScanned : token.IsScanned) :
    token.kind ≠ .endOfInput := by
  cases isScanned with
  | @word word _ _ =>
      intro marks
      have isWord := isWord_wordKind (String.ofList word)
      rw [show wordKind (String.ofList word) = .endOfInput from marks] at isWord
      cases isWord
  | @piece piece _ _ made =>
      intro marks
      cases piece <;> cases made <;> cases marks

end Dopl
