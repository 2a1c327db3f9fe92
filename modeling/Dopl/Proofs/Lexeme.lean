import Dopl.Token

/-! # What the lexeme of a token tells

A token is made of a kind and a text, its meaning is one lexeme. From the lexeme the kind can be
read back, and from a keyword, a separator or a name also the text:

* **`Lexeme.kind?`** — the kind of the tokens that mean a lexeme; **`kind_of_lexeme`**.
* **`lexeme_eq_keyword_iff`** and the like — which kinds and texts mean a word of the vocabulary.
* **`Lexeme.token`** — a token that means the lexeme; **`Lexeme.lexeme_token`**.
* **`endsExpression_of_keyword`**, **`endsExpression_of_separator`**,
  **`endsExpression_of_operator`** — which tokens end an expression. -/

namespace Dopl

/-! ## Kind and text -/

/-- The kind of the tokens that mean a lexeme, unless they mean nothing. -/
def Lexeme.kind? : Lexeme → Option TokenKind
  | .keyword _ => some .keyword
  | .name _ => some .name
  | .integer => some .integer
  | .character _ => some .character
  | .operator _ => some .operator
  | .separator _ => some .separator
  | .assignment => some .assignment
  | .endOfInput => some .endOfInput
  | .unknown => none

/-- What a token means tells its kind. -/
theorem kind_of_lexeme {token : Token} {kind : TokenKind}
    (known : token.lexeme.kind? = some kind) : token.kind = kind := by
  obtain ⟨own, text⟩ := token
  cases own with
  | reserved => cases known
  | keyword => cases found : Keyword.ofText? text <;> simp_all [Token.lexeme, Lexeme.kind?]
  | operator => cases found : Operator.ofText? text <;> simp_all [Token.lexeme, Lexeme.kind?]
  | separator => cases found : Separator.ofText? text <;> simp_all [Token.lexeme, Lexeme.kind?]
  | _ => exact Option.some.inj known

/-- A token that is no end mark by its meaning is none by its kind. -/
theorem kind_ne_of_lexeme_ne {token : Token} (other : token.lexeme ≠ .endOfInput) :
    token.kind ≠ .endOfInput := by
  intro marks
  obtain ⟨kind, text⟩ := token
  cases marks
  exact other rfl

/-- A token that means a keyword has its text. -/
theorem text_of_lexeme_keyword {token : Token} {keyword : Keyword}
    (meaning : token.lexeme = .keyword keyword) :
    token.kind = .keyword ∧ token.text = keyword.text := by
  have kind : token.kind = .keyword := kind_of_lexeme (by rw [meaning]; rfl)
  simp only [Token.lexeme, kind] at meaning
  cases found : Keyword.ofText? token.text with
  | none =>
      rw [found] at meaning
      cases meaning
  | some other =>
      rw [found] at meaning
      cases meaning
      exact ⟨kind, (Keyword.ofText?_eq_some_iff token.text keyword).mp found⟩

/-- A token that means a separator has its text. -/
theorem text_of_lexeme_separator {token : Token} {separator : Separator}
    (meaning : token.lexeme = .separator separator) :
    token.kind = .separator ∧ token.text = separator.text := by
  have kind : token.kind = .separator := kind_of_lexeme (by rw [meaning]; rfl)
  simp only [Token.lexeme, kind] at meaning
  cases found : Separator.ofText? token.text with
  | none =>
      rw [found] at meaning
      cases meaning
  | some other =>
      rw [found] at meaning
      cases meaning
      exact ⟨kind, (Separator.ofText?_eq_some_iff token.text separator).mp found⟩

/-- A token that means a name is of that kind and has its text. -/
theorem eq_of_lexeme_name {token : Token} {name : String}
    (meaning : token.lexeme = .name name) : token = ⟨.name, name⟩ := by
  have kind : token.kind = .name := kind_of_lexeme (by rw [meaning]; rfl)
  obtain ⟨own, text⟩ := token
  obtain rfl : own = .name := kind
  cases meaning
  rfl

/-- A token means a keyword iff it is of that kind and its text is found among the keywords. -/
theorem lexeme_eq_keyword_iff (token : Token) (keyword : Keyword) :
    token.lexeme = .keyword keyword ↔
      token.kind = .keyword ∧ Keyword.ofText? token.text = some keyword := by
  constructor
  · intro meaning
    obtain ⟨kind, text⟩ := text_of_lexeme_keyword meaning
    exact ⟨kind, (Keyword.ofText?_eq_some_iff token.text keyword).mpr text⟩
  · rintro ⟨kind, found⟩
    simp only [Token.lexeme, kind, found, Option.elim_some]

/-- A token means a separator iff it is of that kind and its text is found among the separators. -/
theorem lexeme_eq_separator_iff (token : Token) (separator : Separator) :
    token.lexeme = .separator separator ↔
      token.kind = .separator ∧ Separator.ofText? token.text = some separator := by
  constructor
  · intro meaning
    obtain ⟨kind, text⟩ := text_of_lexeme_separator meaning
    exact ⟨kind, (Separator.ofText?_eq_some_iff token.text separator).mpr text⟩
  · rintro ⟨kind, found⟩
    simp only [Token.lexeme, kind, found, Option.elim_some]

/-- A token means an operator iff it is of that kind and its text is found among the operators. -/
theorem lexeme_eq_operator_iff (token : Token) (operator : Operator) :
    token.lexeme = .operator operator ↔
      token.kind = .operator ∧ Operator.ofText? token.text = some operator := by
  constructor
  · intro meaning
    have kind : token.kind = .operator := kind_of_lexeme (by rw [meaning]; rfl)
    simp only [Token.lexeme, kind] at meaning
    cases found : Operator.ofText? token.text with
    | none => simp [found] at meaning
    | some other => exact ⟨kind, by simpa [found] using meaning⟩
  · rintro ⟨kind, found⟩
    simp only [Token.lexeme, kind, found, Option.elim_some]

/-- A token names a type iff it is a keyword and its text is found among the types. -/
theorem valueType?_eq_some_iff_ofText? (token : Token) (type : ValueType) :
    token.valueType? = some type ↔
      token.kind = .keyword ∧ ValueType.ofText? token.text = some type := by
  constructor
  · intro named
    unfold Token.valueType? at named
    split at named
    · next keyword meaning =>
      obtain ⟨kind, text⟩ := text_of_lexeme_keyword meaning
      refine ⟨kind, ?_⟩
      rw [text]
      cases keyword <;> cases named <;> rfl
    · cases named
  · rintro ⟨kind, found⟩
    have text := (ValueType.ofText?_eq_some_iff token.text type).mp found
    cases type <;> simp only [Token.valueType?, Token.lexeme, kind, text] <;> rfl

/-! ## A token for every lexeme -/

namespace Lexeme

/-- A token that means the lexeme. -/
def token : Lexeme → Token
  | .keyword word => ⟨.keyword, word.text⟩
  | .name text => ⟨.name, text⟩
  | .integer => ⟨.integer, "0"⟩
  | .character text => ⟨.character, text⟩
  | .operator sign => ⟨.operator, sign.text⟩
  | .separator mark => ⟨.separator, mark.text⟩
  | .assignment => ⟨.assignment, "<-"⟩
  | .endOfInput => Token.endOfInput
  | .unknown => ⟨.reserved, ""⟩

/-- The token of a lexeme means the lexeme. -/
@[simp] theorem lexeme_token (lexeme : Lexeme) : lexeme.token.lexeme = lexeme := by
  cases lexeme with
  | keyword word =>
      have found := (Keyword.ofText?_eq_some_iff word.text word).mpr rfl
      simp [token, Token.lexeme, found]
  | operator sign =>
      have found := (Operator.ofText?_eq_some_iff sign.text sign).mpr rfl
      simp [token, Token.lexeme, found]
  | separator mark =>
      have found := (Separator.ofText?_eq_some_iff mark.text mark).mpr rfl
      simp [token, Token.lexeme, found]
  | _ => rfl

/-- The tokens of lexemes mean the lexemes. -/
theorem map_lexeme_token (lexemes : List Lexeme) :
    (lexemes.map token).map Token.lexeme = lexemes := by
  rw [List.map_map]
  exact List.map_id'' lexeme_token lexemes

end Lexeme

/-! ## The end of an expression -/

/-- A keyword ends an expression if its text does. -/
theorem endsExpression_of_keyword {token : Token} {keyword : Keyword}
    (meaning : token.lexeme = .keyword keyword) :
    token.endsExpression = Dopl.endsExpression keyword.text := by
  obtain ⟨kind, text⟩ := text_of_lexeme_keyword meaning
  simp [Token.endsExpression, kind, text]

/-- A separator ends an expression if its text does. -/
theorem endsExpression_of_separator {token : Token} {separator : Separator}
    (meaning : token.lexeme = .separator separator) :
    token.endsExpression = Dopl.endsExpression separator.text := by
  obtain ⟨kind, text⟩ := text_of_lexeme_separator meaning
  simp [Token.endsExpression, kind, text]

/-- An operator ends no expression. -/
theorem endsExpression_of_operator {token : Token} {operator : Operator}
    (meaning : token.lexeme = .operator operator) : token.endsExpression = false := by
  have kind : token.kind = .operator := kind_of_lexeme (by rw [meaning]; rfl)
  simp [Token.endsExpression, kind]

end Dopl
