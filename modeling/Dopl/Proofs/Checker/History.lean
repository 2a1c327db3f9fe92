import Dopl.Checker.Session
import Dopl.Proofs.Checker.EndMark
import Dopl.Proofs.Report

/-! # The cursor of a session

A session is given tokens by some of its commands, and keeps a cursor in them up to the next such
command. Whatever else is asked of it, also if that is refused, the token matched last stands right
before the next one. The only exception is a match of the last token, which cannot be left behind.

* **`Cursor.Steady`** — the cursor as it is kept: the tokens around it, and the token matched last.
* **`Cursor.Follows`** — the same by counting: which token of the list is the next one, and which
  one was matched last.
* **`steady_run`** — a run keeps a cursor steady; **`History.keeps_perform`** — any command does.
* **`History`** — a session, what it was given, and whether its last token was matched since.
* **`cursor_of_history`** — what that says of the cursor after any commands. -/

namespace Dopl.Checker

/-! ## Steady cursors -/

/-- The cursor is in the tokens given, their end mark included. The token matched last is the one
before the next token, or the next token itself if that was matched as the last one. -/
structure Cursor.Steady (given : List Token) (endMatched : Bool) (cursor : Cursor) : Prop where
  /-- The tokens are those given, with an end mark. -/
  tokens : cursor.tokens = Token.withEnd given
  /-- The token matched last. -/
  current : cursor.current = if endMatched then some cursor.next else cursor.before.head?
  /-- Only the last token is matched without moving on. -/
  last : endMatched = true → cursor.ahead = []

namespace Cursor.Steady

variable {given : List Token} {endMatched : Bool} {cursor : Cursor}

/-- The tokens from the next one on end in an end mark. -/
theorem endMarked (steady : cursor.Steady given endMatched) :
    EndMarked (cursor.next :: cursor.ahead) := by
  rw [← endMarked_tokens_iff, steady.tokens]
  exact endMarked_withEnd given

/-- At the first token nothing is matched. -/
theorem ofTokens (given : List Token) : (Cursor.ofTokens given).Steady given false := by
  refine ⟨Cursor.tokens_ofTokens given, ?_, fun matched => by cases matched⟩
  unfold Cursor.ofTokens
  split <;> rfl

/-- Behind a token that is matched and left behind, that token was matched last. -/
theorem advance (steady : cursor.Steady given endMatched) {moved : Cursor}
    (advanced : cursor.advance? = some moved) :
    moved.Steady given false ∧ endMatched = false := by
  refine ⟨⟨(Cursor.tokens_of_advance? advanced).trans steady.tokens, ?_,
    fun matched => by cases matched⟩, ?_⟩
  · obtain ⟨current, before, next, ahead⟩ := cursor
    cases ahead with
    | nil => cases advanced
    | cons token rest =>
        cases advanced
        rfl
  · cases endMatched with
    | false => rfl
    | true =>
        rw [Cursor.advance?, steady.last rfl] at advanced
        cases advanced

/-- A match of the last token leaves it the next one. -/
theorem matchLast (steady : cursor.Steady given endMatched) (stays : cursor.advance? = none) :
    cursor.matchLast.Steady given true := by
  refine ⟨steady.tokens, rfl, fun _ => ?_⟩
  obtain ⟨current, before, next, ahead⟩ := cursor
  cases ahead with
  | nil => rfl
  | cons token rest => cases stays

/-- Where the last token is not matched, that changes nothing. -/
theorem noMatch (steady : cursor.Steady given endMatched) :
    cursor.Steady given (endMatched || false) := by
  rw [Bool.or_false]
  exact steady

end Cursor.Steady

/-- The cursor is in the tokens given, counted from the first one: the next token is the one at the
position, and the token matched last is the one before, if there is one. A match of the last token
leaves it the next one. -/
structure Cursor.Follows (given : List Token) (endMatched : Bool) (cursor : Cursor) : Prop where
  /-- The tokens are those given, with an end mark more at most. -/
  tokens : cursor.tokens = given ∨ cursor.tokens = given ++ [Token.endOfInput]
  /-- The last token is an end mark. -/
  marked : ∃ last, cursor.tokens.getLast? = some last ∧ last.kind = .endOfInput
  /-- At least one token is taken from the list. -/
  positive : 1 ≤ cursor.position
  /-- At most all tokens are taken from the list. -/
  bounded : cursor.position ≤ cursor.tokens.length
  /-- The next token is the one taken from the list last. -/
  next : cursor.tokens[cursor.position - 1]? = some cursor.next
  /-- The token matched last is the one before it. -/
  current : endMatched = false →
    cursor.current = if cursor.position = 1 then none else cursor.tokens[cursor.position - 2]?
  /-- The last token, if it is matched, is also the next one. -/
  ended : endMatched = true → cursor.position = cursor.tokens.length ∧
    cursor.current = some cursor.next ∧ cursor.next.kind = .endOfInput

/-- A steady cursor follows the tokens given. -/
theorem Cursor.Steady.follows {given : List Token} {endMatched : Bool} {cursor : Cursor}
    (steady : cursor.Steady given endMatched) : cursor.Follows given endMatched := by
  have marked : EndMarked cursor.tokens := by
    rw [steady.tokens]
    exact endMarked_withEnd given
  have size : cursor.tokens.length = cursor.position + cursor.ahead.length := by
    rw [Cursor.tokens, Cursor.position, List.length_append, List.length_reverse, List.length_cons]
    omega
  refine
    { tokens := ?tokens
      marked := ?marked
      positive := Nat.le_add_left 1 cursor.before.length
      bounded := size ▸ Nat.le_add_right _ _
      next := ?next
      current := fun unmatched => ?current
      ended := fun matched => ?ended }
  case tokens =>
    rw [steady.tokens, Token.withEnd]
    split
    · exact .inl rfl
    · exact .inr rfl
  case marked => simpa [EndMarked, Option.any_eq_true] using marked
  case next =>
    rw [Cursor.tokens, Cursor.position, Nat.add_sub_cancel, ← List.length_reverse,
      List.getElem?_append_right (Nat.le_refl _), Nat.sub_self, List.getElem?_cons_zero]
  case current =>
    rw [steady.current, unmatched]
    unfold Cursor.tokens Cursor.position
    cases cursor.before with
    | nil => rfl
    | cons token rest => simp
  case ended =>
    -- Nothing stands behind the next token, so that one is the end mark.
    have empty := steady.last matched
    have last := steady.endMarked
    rw [empty] at last
    refine ⟨?_, ?_, last.kind_of_singleton⟩
    · rw [size, empty]
      rfl
    · rw [steady.current, matched, if_pos rfl]

/-! ## Runs -/

/-- A run moves on in the tokens it starts in, and behind a token it has taken, that token is the
one matched last. The induction is on the tokens behind the next one; the end mark is never taken,
so there is always a token to move on to. -/
theorem run_moves (limit : Option Nat) (state : State) (symbols : SymbolTable)
    (current : Option Token) (before : List Token) (next : Token) (ahead : List Token)
    (marked : EndMarked (next :: ahead)) :
    (run limit state symbols current before next ahead).cursor.tokens =
        before.reverse ++ next :: ahead ∧
      ((run limit state symbols current before next ahead).cursor =
          ⟨current, before, next, ahead⟩ ∨
        ahead ≠ [] ∧ (run limit state symbols current before next ahead).cursor.current =
          (run limit state symbols current before next ahead).cursor.before.head?) := by
  induction ahead generalizing state symbols current before next with
  | nil =>
      obtain ⟨answer, left⟩ := step_of_endOfInput state symbols marked.kind_of_singleton
      rw [run_of_leave left]
      exact ⟨rfl, .inl rfl⟩
  | cons token rest induction =>
      have same : (next :: before).reverse ++ token :: rest =
          before.reverse ++ next :: token :: rest := by
        rw [List.reverse_cons, List.append_assoc]
        rfl
      cases moved : step state symbols next with
      | leave answer =>
          rw [run_of_leave moved]
          exact ⟨rfl, .inl rfl⟩
      | takeLast answer =>
          rw [run_of_takeLast moved]
          exact ⟨same, .inr ⟨by simp, rfl⟩⟩
      | take state' symbols' =>
          rw [run_of_take moved]
          split
          · exact ⟨same, .inr ⟨by simp, rfl⟩⟩
          · obtain ⟨tokens, place⟩ :=
              induction state' symbols' (some next) (next :: before) token marked.tail
            refine ⟨tokens.trans same, .inr ⟨by simp, ?_⟩⟩
            rcases place with stays | ⟨-, behind⟩
            · rw [stays]
              rfl
            · exact behind

/-- A run keeps a cursor steady, however it ends. -/
theorem steady_run (limit : Option Nat) (rule : Rule) (symbols : SymbolTable) {cursor : Cursor}
    {given : List Token} {endMatched : Bool} (steady : cursor.Steady given endMatched) :
    (rule.run limit symbols cursor).cursor.Steady given endMatched := by
  obtain ⟨tokens, place⟩ := run_moves limit rule.start symbols cursor.current cursor.before
    cursor.next cursor.ahead steady.endMarked
  rcases place with stays | ⟨some, behind⟩
  · rw [show (rule.run limit symbols cursor).cursor = cursor from stays]
    exact steady
  · -- The run has moved on, so the last token was not matched before it.
    cases endMatched with
    | false => exact ⟨tokens.trans steady.tokens, behind, fun matched => by cases matched⟩
    | true => exact absurd (steady.last rfl) some

/-! ## Sessions -/

/-- What a session is given by a command, if the command makes it start afresh: the tokens, or
nothing at all. -/
def CheckCommand.given? : CheckCommand → Option (Option (List Token))
  | .check source =>
    some (if (scan source).errors = #[] then some (scan source).tokens.toList else none)
  | .clear => some none
  | .begin source => some (some (scan source).tokens.toList)
  | .beginTokens tokens => some (some tokens)
  | .declare .. | .rule _ | .lookup _ | .accept _ | .probe _ | .require _ | .expressionEnd => none

/-- Whether the answer says that no token is left. -/
def CheckReply.isEndOfInput : CheckReply → Bool
  | .refused .endOfInput _ => true
  | _ => false

/-- Whether a command with such an answer is a match. Then it has matched the last token. -/
def CheckCommand.hasMatchedEnd (command : CheckCommand) (reply : CheckReply) : Bool :=
  match command with
  | .accept _ | .require _ => reply.isEndOfInput
  | _ => false

/-- A session, with what it was given last and what became of that. -/
structure History where
  /-- The session. -/
  session : Session := {}
  /-- The tokens it was given last, if it was given some. -/
  given : Option (List Token) := none
  /-- Whether the last of them was matched since. -/
  endMatched : Bool := false

namespace History

/-- The history with a command more. -/
def perform (limit : Option Nat) (history : History) (command : CheckCommand) : History :=
  let done := history.session.perform limit command
  match command.given? with
  | some given => ⟨done.1, given, false⟩
  | none => ⟨done.1, history.given, history.endMatched || command.hasMatchedEnd done.2⟩

/-- The session of a history is what the commands make of it; the record changes nothing there. -/
theorem session_perform (limit : Option Nat) (history : History) (command : CheckCommand) :
    (history.perform limit command).session = (history.session.perform limit command).1 := by
  unfold perform
  cases command.given? <;> rfl

/-- The history of some commands to a new session. -/
def ofCommands (limit : Option Nat) (commands : List CheckCommand) : History :=
  commands.foldl (perform limit) {}

/-- The cursor of the session is steady in the tokens given, and without tokens there is none. -/
def Keeps (history : History) : Prop :=
  match history.given with
  | none => history.session.cursor = none
  | some given => ∃ cursor, history.session.cursor = some cursor ∧
      cursor.Steady given history.endMatched

variable {limit : Option Nat} {history : History}

/-- A command that leaves the cursor where it is keeps it steady. -/
theorem Keeps.of_cursor_eq (keeps : history.Keeps) {session : Session}
    (same : session.cursor = history.session.cursor) :
    Keeps ⟨session, history.given, history.endMatched || false⟩ := by
  unfold Keeps at keeps ⊢
  rw [Bool.or_false, same]
  exact keeps

/-- A command that looks at the next token keeps the cursor steady if it does so wherever there is
one; without a cursor it does nothing. -/
theorem Keeps.withNext (keeps : history.Keeps) (command : CheckCommand)
    {body : Cursor → Session × CheckReply}
    (moves : ∀ given cursor, history.session.cursor = some cursor →
      cursor.Steady given history.endMatched →
        ∃ moved, (body cursor).1.cursor = some moved ∧
          moved.Steady given (history.endMatched || command.hasMatchedEnd (body cursor).2)) :
    Keeps ⟨(history.session.withNext body).1, history.given,
      history.endMatched || command.hasMatchedEnd (history.session.withNext body).2⟩ := by
  unfold Keeps at keeps ⊢
  unfold Session.withNext
  cases given : history.given with
  | none =>
      rw [given] at keeps
      dsimp only at keeps ⊢
      rw [keeps]
      exact keeps
  | some tokens =>
      rw [given] at keeps
      obtain ⟨cursor, held, steady⟩ := keeps
      rw [held]
      exact moves tokens cursor held steady

/-- A match of the next token keeps the cursor steady. If that token is the last one, the answer
says so. -/
theorem steady_takeNext {given : List Token} {endMatched : Bool} {cursor : Cursor}
    (steady : cursor.Steady given endMatched) (session : Session) {reply : CheckReply}
    (goesOn : reply.isEndOfInput = false) :
    ∃ moved, (session.takeNext cursor reply).1.cursor = some moved ∧
      moved.Steady given (endMatched || (session.takeNext cursor reply).2.isEndOfInput) := by
  unfold Session.takeNext
  cases advanced : cursor.advance? with
  | none =>
      refine ⟨cursor.matchLast, rfl, ?_⟩
      rw [show (CheckReply.refused .endOfInput cursor.position).isEndOfInput = true from rfl,
        Bool.or_true]
      exact steady.matchLast advanced
  | some moved =>
      obtain ⟨behind, unmatched⟩ := steady.advance advanced
      refine ⟨moved, rfl, ?_⟩
      rw [goesOn, unmatched]
      exact behind

/-- A pattern that does not match is not refused for the end of the tokens. -/
theorem isEndOfInput_fault (pattern : Pattern) (token : Token) (position : Int) :
    (CheckReply.refused (pattern.fault token) position).isEndOfInput = false := by
  cases pattern <;> rfl

/-- Every command keeps the cursor of a session steady. -/
theorem keeps_perform (keeps : history.Keeps) (command : CheckCommand) :
    (history.perform limit command).Keeps := by
  -- The first commands start afresh; of the others, only a rule and a match move the cursor.
  cases command with
  | check source =>
      simp only [perform, CheckCommand.given?, Session.perform]
      rcases errors_cases source with clean | ⟨failed, error, noted⟩
      · rw [if_pos clean, checkWithin_of_errors_eq_empty limit clean]
        exact ⟨_, rfl, steady_run limit .program {} (.ofTokens _)⟩
      · rw [if_neg failed, checkWithin_of_error limit noted]
        rfl
  | clear => rfl
  | begin source => exact ⟨_, rfl, .ofTokens _⟩
  | beginTokens tokens => exact ⟨_, rfl, .ofTokens _⟩
  | declare name type =>
      refine keeps.of_cursor_eq ?_
      simp only [Session.perform]
      split <;> rfl
  | rule rule =>
      -- How the run ends does not count: a refused one leaves its cursor behind as well.
      exact keeps.withNext (.rule rule) fun given cursor _ steady =>
        ⟨_, rfl, (steady_run limit rule history.session.symbols steady).noMatch⟩
  | lookup token =>
      refine keeps.of_cursor_eq ?_
      simp only [Session.perform]
      split <;> rfl
  | accept pattern =>
      refine keeps.withNext (.accept pattern) fun given cursor held steady => ?_
      split
      · exact steady_takeNext steady history.session rfl
      · exact ⟨cursor, held, steady.noMatch⟩
  | probe pattern =>
      exact keeps.withNext (.probe pattern) fun given cursor held steady =>
        ⟨cursor, held, steady.noMatch⟩
  | require pattern =>
      refine keeps.withNext (.require pattern) fun given cursor held steady => ?_
      split
      · exact steady_takeNext steady history.session rfl
      · refine ⟨cursor, held, ?_⟩
        rw [CheckCommand.hasMatchedEnd, isEndOfInput_fault]
        exact steady.noMatch
  | expressionEnd =>
      exact keeps.withNext .expressionEnd fun given cursor held steady =>
        ⟨cursor, held, steady.noMatch⟩

/-- All commands keep the cursor of a new session steady. -/
theorem keeps_ofCommands (limit : Option Nat) (commands : List CheckCommand) :
    (ofCommands limit commands).Keeps := by
  have kept : ∀ history : History, history.Keeps →
      (commands.foldl (perform limit) history).Keeps := by
    induction commands with
    | nil => exact fun _ keeps => keeps
    | cons command commands induction =>
        exact fun history keeps => induction _ (keeps_perform keeps command)
  exact kept {} rfl

end History

/-- So the cursor of a session stands in tokens with an end mark, whatever its commands were. -/
theorem exists_tokens_eq_withEnd (limit : Option Nat) (commands : List CheckCommand)
    {cursor : Cursor} (held : (History.ofCommands limit commands).session.cursor = some cursor) :
    ∃ given, cursor.tokens = Token.withEnd given := by
  have keeps := History.keeps_ofCommands limit commands
  unfold History.Keeps at keeps
  split at keeps
  · rw [held] at keeps
    cases keeps
  · next given _ =>
    obtain ⟨place, same, steady⟩ := keeps
    rw [held] at same
    cases same
    exact ⟨given, steady.tokens⟩

/-! ## The position -/

/-- A match of the next token does not move back. -/
theorem position_le_takeNext (session : Session) (cursor : Cursor) (reply : CheckReply) :
    cursor.position ≤ (session.takeNext cursor reply).1.position := by
  unfold Session.takeNext
  cases advanced : cursor.advance? with
  | none => exact Nat.le_refl cursor.position
  | some moved =>
      rw [Session.position, Option.elim_some, Cursor.position_of_advance? advanced]
      exact Nat.le_succ cursor.position

/-- What is done with the next token does not move back if it does not move back from the cursor. -/
theorem position_le_withNext (session : Session) {command : Cursor → Session × CheckReply}
    (forth : ∀ cursor, session.cursor = some cursor →
      cursor.position ≤ (command cursor).1.position) :
    session.position ≤ (session.withNext command).1.position := by
  unfold Session.withNext
  cases held : session.cursor with
  | none => exact Nat.le_refl session.position
  | some cursor =>
      rw [Session.position, held]
      exact forth cursor held

/-- A command that does not make the session start afresh does not move back. -/
theorem position_le_perform (limit : Option Nat) (session : Session) {command : CheckCommand}
    (goesOn : command.given? = none) :
    session.position ≤ (session.perform limit command).1.position := by
  have stays : ∀ cursor, session.cursor = some cursor → cursor.position ≤ session.position := by
    intro cursor held
    rw [Session.position, held]
    exact Nat.le_refl cursor.position
  cases command with
  | check source => cases goesOn
  | clear => cases goesOn
  | begin source => cases goesOn
  | beginTokens tokens => cases goesOn
  | declare name type =>
      simp only [Session.perform]
      split <;> exact Nat.le_refl session.position
  | rule rule =>
      exact position_le_withNext session fun cursor _ =>
        position_le_run limit rule.start session.symbols cursor.current cursor.before cursor.next
          cursor.ahead
  | lookup token =>
      simp only [Session.perform]
      split <;> exact Nat.le_refl session.position
  | accept pattern =>
      refine position_le_withNext session fun cursor held => ?_
      split
      · exact position_le_takeNext session cursor _
      · exact stays cursor held
  | probe pattern => exact position_le_withNext session stays
  | require pattern =>
      refine position_le_withNext session fun cursor held => ?_
      split
      · exact position_le_takeNext session cursor _
      · exact stays cursor held
  | expressionEnd => exact position_le_withNext session stays

/-- Commands that do not make the session start afresh do not move back. -/
theorem position_le_ofCommands (limit : Option Nat) (commands further : List CheckCommand)
    (goOn : ∀ command ∈ further, command.given? = none) :
    (History.ofCommands limit commands).session.position ≤
      (History.ofCommands limit (commands ++ further)).session.position := by
  rw [History.ofCommands, History.ofCommands, List.foldl_append]
  generalize commands.foldl (History.perform limit) {} = history
  induction further generalizing history with
  | nil => exact Nat.le_refl history.session.position
  | cons command rest induction =>
      have first := position_le_perform limit history.session (goOn command List.mem_cons_self)
      rw [← History.session_perform] at first
      have others := induction
        (fun other member => goOn other (List.mem_cons_of_mem command member))
        (history.perform limit command)
      exact Nat.le_trans first others

/-! ## All sessions -/

/-- **The cursor of a session.** After any commands to a new session, answered or refused, either
it has no tokens or its cursor follows those it was given last: the next token is the one at the
position and the token matched last is the one before, unless the end mark itself was matched. From
one command that gives tokens to the next, the cursor never moves back. And a check does the same in
every session as in a new one. All this holds with any limit on the nesting, and also behind a run
that gets too deep. -/
theorem cursor_of_history (limit : Option Nat) :
    (∀ commands : List CheckCommand,
      match (History.ofCommands limit commands).given with
      | none => (History.ofCommands limit commands).session.cursor = none
      | some given => ∃ cursor, (History.ofCommands limit commands).session.cursor = some cursor ∧
          cursor.Follows given (History.ofCommands limit commands).endMatched) ∧
    (∀ commands further : List CheckCommand, (∀ command ∈ further, command.given? = none) →
      (History.ofCommands limit commands).session.position ≤
        (History.ofCommands limit (commands ++ further)).session.position) ∧
    ∀ (session : Session) (source : Source),
      session.perform limit (.check source) = ({} : Session).perform limit (.check source) := by
  refine ⟨fun commands => ?_, position_le_ofCommands limit, fun _ _ => rfl⟩
  have keeps := History.keeps_ofCommands limit commands
  unfold History.Keeps at keeps
  cases given : (History.ofCommands limit commands).given with
  | none =>
      rw [given] at keeps
      exact keeps
  | some tokens =>
      rw [given] at keeps
      obtain ⟨cursor, held, steady⟩ := keeps
      exact ⟨cursor, held, steady.follows⟩

/-- The cursor at work on the single token `1`: the expression takes it, the end mark is matched
behind it, and a rule that is refused there changes nothing. -/
theorem cursor_of_history_endMatched :
    (History.ofCommands none [.beginTokens [⟨.integer, "1"⟩]]).session.position = 1 ∧
      1 ≤ (History.ofCommands none ([.beginTokens [⟨.integer, "1"⟩]] ++
        [.rule .expression, .require (.kind .endOfInput none), .rule .statement])).session.position
      ∧ (History.ofCommands none [.beginTokens [⟨.integer, "1"⟩], .rule .expression,
        .require (.kind .endOfInput none), .rule .statement]).endMatched = true := by
  refine ⟨by decide +kernel, ?_, by decide +kernel⟩
  exact (cursor_of_history none).2.1 [.beginTokens [⟨.integer, "1"⟩]] _ (by decide)

end Dopl.Checker
