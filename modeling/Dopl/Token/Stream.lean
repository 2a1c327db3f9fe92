import Dopl.Token

/-! # Token streams

A **`TokenStream`** is a list of tokens with a cursor in it. The list always ends in a token of the
kind that marks the end of the input: `ofTokens` adds one where it is missing. Tokens are taken one
by one; none is left once the last one is taken. -/

namespace Dopl

/-- The tokens with the end mark added, unless they end in one already. -/
def Token.withEnd (tokens : List Token) : List Token :=
  if tokens.getLast?.any fun token => token.kind == .endOfInput then tokens
  else tokens ++ [Token.endOfInput]

/-- With its end mark, a list of tokens is not empty. -/
theorem Token.withEnd_ne_nil (tokens : List Token) : Token.withEnd tokens ≠ [] := by
  unfold Token.withEnd
  cases tokens with
  | nil => simp
  | cons first rest => split <;> simp

/-- With its end mark, a list of tokens ends in a token of the kind that marks the end. -/
theorem Token.getLast?_withEnd (tokens : List Token) :
    ((Token.withEnd tokens).getLast?.any fun token => token.kind == .endOfInput) = true := by
  unfold Token.withEnd
  split
  next marked => exact marked
  next => simp [Token.endOfInput]

/-- Tokens with a cursor between two of them. -/
structure TokenStream where
  /-- The tokens before the cursor, the latest first. -/
  taken : List Token
  /-- The tokens behind the cursor, in order. -/
  ahead : List Token
deriving DecidableEq, Repr

namespace TokenStream

/-- A stream of the given tokens, its cursor before the first one. -/
def ofTokens (tokens : List Token) : TokenStream :=
  ⟨[], Token.withEnd tokens⟩

/-- All the tokens, in order. -/
def tokens (stream : TokenStream) : List Token :=
  stream.taken.reverse ++ stream.ahead

/-- The number of tokens taken. -/
def position (stream : TokenStream) : Nat :=
  stream.taken.length

/-- The next token, if one is left. -/
def look? (stream : TokenStream) : Option Token :=
  stream.ahead.head?

/-- Takes the next token, if one is left. -/
def take? (stream : TokenStream) : Option (Token × TokenStream) :=
  match stream.ahead with
  | [] => none
  | token :: ahead => some (token, ⟨token :: stream.taken, ahead⟩)

/-- Whether the next token marks the end of the input; with none left, whether the last one did. -/
def atEnd (stream : TokenStream) : Bool :=
  (stream.ahead.head?.or stream.taken.head?).any fun token => token.kind == .endOfInput

/-- Taking a token leaves the list of all the tokens as it was. -/
theorem tokens_of_take? {stream moved : TokenStream} {token : Token}
    (took : stream.take? = some (token, moved)) : moved.tokens = stream.tokens := by
  rcases stream with ⟨taken, ahead⟩
  cases ahead with
  | nil => simp [take?] at took
  | cons head tail =>
    simp only [take?, Option.some.injEq, Prod.mk.injEq] at took
    obtain ⟨-, rfl⟩ := took
    simp [tokens]

end TokenStream

end Dopl
