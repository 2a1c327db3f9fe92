import Dopl.Checker.Step
import Dopl.Token.Stream

/-! # Runs of the checker

A run starts a rule at the next token and goes on token by token until it stops:

* **`Cursor`** — the place in a token stream: the token taken last, the next one, and the rest.
* **`run`** — steps from a state until one stops, until the nesting gets deeper than a limit, or
  until no token is left.
* **`Rule.run`** — the run of a rule. -/

namespace Dopl.Checker

/-- The place of the checker in a token stream. -/
structure Cursor where
  /-- The token matched last, if any. -/
  current : Option Token
  /-- The tokens before the next one, the latest first. -/
  before : List Token
  /-- The next token. -/
  next : Token
  /-- The tokens behind the next one. -/
  ahead : List Token
deriving DecidableEq, Repr

namespace Cursor

/-- The cursor at the first token of a stream. -/
def ofTokens (tokens : List Token) : Cursor :=
  match Token.withEnd tokens with
  | [] => ⟨none, [], Token.endOfInput, []⟩
  | first :: rest => ⟨none, [], first, rest⟩

/-- All the tokens, in order. -/
def tokens (cursor : Cursor) : List Token :=
  cursor.before.reverse ++ cursor.next :: cursor.ahead

/-- The number of tokens taken from the stream, the next one included. -/
def position (cursor : Cursor) : Nat :=
  cursor.before.length + 1

/-- Moves behind the next token, if there is a token to move to. -/
def advance? (cursor : Cursor) : Option Cursor :=
  match cursor.ahead with
  | [] => none
  | token :: ahead => some ⟨some cursor.next, cursor.next :: cursor.before, token, ahead⟩

/-- Matches the last token, behind which there is nothing: it stays the next one. -/
def matchLast (cursor : Cursor) : Cursor :=
  { cursor with current := some cursor.next }

/-- Moving on leaves the list of all the tokens as it was. -/
theorem tokens_of_advance? {cursor moved : Cursor} (advanced : cursor.advance? = some moved) :
    moved.tokens = cursor.tokens := by
  rcases cursor with ⟨current, before, next, ahead⟩
  cases ahead with
  | nil => simp [advance?] at advanced
  | cons head tail =>
    simp only [advance?, Option.some.injEq] at advanced
    subst advanced
    simp [tokens]

/-- Moving on takes one token. -/
theorem position_of_advance? {cursor moved : Cursor} (advanced : cursor.advance? = some moved) :
    moved.position = cursor.position + 1 := by
  rcases cursor with ⟨current, before, next, ahead⟩
  cases ahead with
  | nil => simp [advance?] at advanced
  | cons head tail =>
    simp only [advance?, Option.some.injEq] at advanced
    subst advanced
    rfl

/-- The cursor at the start of a stream has its tokens, with the end mark. -/
theorem tokens_ofTokens (tokens : List Token) :
    (ofTokens tokens).tokens = Token.withEnd tokens := by
  unfold ofTokens
  split
  next empty => exact absurd empty (Token.withEnd_ne_nil tokens)
  next first rest marked => simp [Cursor.tokens, marked]

end Cursor

/-- How a run ends. -/
inductive Outcome where
  /-- The rule is over. -/
  | answered (answer : Answer)
  /-- The nesting is deeper than the limit. -/
  | tooDeep
deriving DecidableEq, Repr

/-- What a run leaves behind. -/
structure Finish where
  /-- How it ended. -/
  outcome : Outcome
  /-- Where it ended. -/
  cursor : Cursor
  /-- The symbols declared by then. -/
  symbols : SymbolTable
deriving DecidableEq, Repr

/-- Runs the checker from a state until it stops. A limit stops it where the nesting gets deeper
than that. Every token taken is the head of the list that is left, so the run ends. -/
def run (limit : Option Nat) (state : State) (symbols : SymbolTable) (current : Option Token)
    (before : List Token) (next : Token) (ahead : List Token) : Finish :=
  match step state symbols next with
  | .leave answer => ⟨.answered answer, ⟨current, before, next, ahead⟩, symbols⟩
  | .takeLast answer =>
    match ahead with
    | [] => ⟨.answered (.refused .endOfInput), ⟨some next, before, next, []⟩, symbols⟩
    | token :: rest => ⟨.answered answer, ⟨some next, next :: before, token, rest⟩, symbols⟩
  | .take state' symbols' =>
    match ahead with
    | [] => ⟨.answered (.refused .endOfInput), ⟨some next, before, next, []⟩, symbols⟩
    | token :: rest =>
      if limit.any fun limit => decide (limit < state'.depth) then
        ⟨.tooDeep, ⟨some next, next :: before, token, rest⟩, symbols'⟩
      else run limit state' symbols' (some next) (next :: before) token rest

/-- Runs a rule from the next token on. -/
def Rule.run (limit : Option Nat) (rule : Rule) (symbols : SymbolTable) (cursor : Cursor) :
    Finish :=
  Checker.run limit rule.start symbols cursor.current cursor.before cursor.next cursor.ahead

/-- The deepest nesting that is checked. It stands for what the stack of calls allows: a rule that
is nested in another one is called inside it, three calls deeper in a parenthesis and two in a body.
How many calls there is room for depends on what runs the checker, so the limit of a run may be any
other number, or none. -/
def nestingLimit : Nat := 1000

end Dopl.Checker
