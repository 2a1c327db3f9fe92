import Dopl.Checker.Session
import Dopl.Proofs.Checker.History
import Dopl.Proofs.Descent.Rule

/-! # Commands by procedures

A session carries out its commands one at a time, and what it does with the tokens is what the
procedures do: it matches single tokens as they are matched, and runs rules as they are called. A
session without tokens says so, where a procedure misses the next token.

* **`Pattern.accept`**, **`Pattern.require`** — the procedures that match a single token.
* **`Action.Answers`** — a procedure ends as a session answers, and leaves what that leaves.
* **`Action.Lacks`** — a procedure misses the next token; **`lacks_descend`** — without tokens, the
  procedure of every rule does.
* **`CheckCommand.procedure?`** — the procedure of a command.
* **`answers_takeNext`** — a session takes a token that matches as a procedure does, also the last
  one; **`perform_answers`** — every command is answered as its procedure ends. -/

namespace Dopl.Checker

open Descent

/-! ## Patterns -/

namespace Pattern

/-- The kind of the tokens that match. -/
def tokenKind : Pattern → TokenKind
  | .kind wanted _ => wanted
  | .keyword _ => .keyword
  | .separator _ => .separator
  | .operator _ => .operator

/-- The texts with which they match. -/
def admitsText : Pattern → String → Bool
  | .kind _ texts, text => texts.all fun texts => texts.contains text
  | .keyword wanted, text => Keyword.ofText? text == some wanted
  | .separator wanted, text => Separator.ofText? text == some wanted
  | .operator wanted, text => Operator.ofText? text == some wanted

/-- A token matches by its kind and its text. -/
theorem admits_eq (pattern : Pattern) (token : Token) :
    pattern.admits token =
      (decide (token.kind = pattern.tokenKind) && pattern.admitsText token.text) := by
  rw [Bool.eq_iff_iff, Bool.and_eq_true, decide_eq_true_iff]
  cases pattern with
  | kind wanted texts => rw [admits, Bool.and_eq_true, beq_iff_eq]; rfl
  | keyword wanted =>
      rw [admits, admitsText, beq_iff_eq, beq_iff_eq]
      exact lexeme_eq_keyword_iff token wanted
  | separator wanted =>
      rw [admits, admitsText, beq_iff_eq, beq_iff_eq]
      exact lexeme_eq_separator_iff token wanted
  | operator wanted =>
      rw [admits, admitsText, beq_iff_eq, beq_iff_eq]
      exact lexeme_eq_operator_iff token wanted

/-- Tells whether the next token matches. -/
def probe (pattern : Pattern) : Action Bool :=
  Descent.probe pattern.tokenKind fun text => pure (pattern.admitsText text)

/-- Takes the next token if it matches. -/
def accept : Pattern → Action Bool
  | .kind wanted texts =>
    Descent.accept wanted fun text => pure (texts.all fun texts => texts.contains text)
  | .keyword wanted => acceptKeyword wanted
  | .separator wanted => acceptSeparator wanted
  | .operator wanted =>
    Descent.accept .operator fun text => pure (Operator.ofText? text == some wanted)

/-- Takes the next token, which has to match. -/
def require : Pattern → Action Unit
  | .kind wanted texts =>
    expectKind wanted fun text => pure (texts.all fun texts => texts.contains text)
  | .keyword wanted => expectKeyword wanted
  | .separator wanted => expectSeparator wanted
  | .operator wanted => do
    if ← Pattern.accept (.operator wanted) then pure ()
    else refuse (.operatorRequired (← nextToken))

/-- Every match is one of a kind and a text. -/
theorem accept_eq (pattern : Pattern) :
    pattern.accept =
      Descent.accept pattern.tokenKind fun text => pure (pattern.admitsText text) := by
  cases pattern <;> rfl

/-- A match that is required is refused as the pattern says. -/
theorem require_eq (pattern : Pattern) :
    pattern.require = pattern.accept >>= fun taken =>
      if taken = true then pure ()
      else nextToken >>= fun next => refuse (pattern.fault next) := by
  cases pattern <;> rfl

end Pattern

/-! ## Sessions and stores -/

/-- The store of a session. Without tokens, there is neither a next token nor one matched last. -/
def Session.store (session : Session) : Store :=
  session.cursor.elim { symbols := session.symbols } fun cursor => cursor.store session.symbols

/-- The symbols of the session are in its store. -/
theorem Session.symbols_store (session : Session) : session.store.symbols = session.symbols := by
  unfold store
  cases session.cursor <;> rfl

/-- So is its position in the tokens. -/
theorem Session.position_store (session : Session) :
    session.store.tape.elim 0 Tape.position = session.position := by
  unfold store position
  cases session.cursor <;> rfl

/-- It is the store at the cursor, where there is one. -/
theorem Session.store_of_cursor {session : Session} {cursor : Cursor}
    (held : session.cursor = some cursor) : session.store = cursor.store session.symbols := by
  rw [store, held]
  rfl

/-- How a procedure ends whose command has this answer. -/
def CheckReply.ending : CheckReply → Except Failure CheckReply
  | .refused fault position => .error (.refused fault position.toNat)
  | .tooDeep => .error .tooDeep
  | .noTokens => .error (.lacking .value)
  | reply => .ok reply

/-- Started in the store, the procedure ends as a session answers, and leaves what that leaves. -/
def Action.Answers (procedure : Action CheckReply) (store : Store)
    (answered : Session × CheckReply) : Prop :=
  procedure.result store = some (answered.2.ending, answered.1.store)

variable {α β : Type} {session : Session} {cursor : Cursor} {room : Option Nat}

/-! ## Procedures without tokens -/

/-- The procedure misses something in the store, and leaves the store as it is. -/
def Action.Lacks (action : Action α) (store : Store) : Prop :=
  action.result store = some (.error (.lacking .value), store)

/-- What comes after that is not reached. -/
theorem Action.Lacks.bind {action : Action α} {store : Store} (lacks : action.Lacks store)
    (next : α → Action β) : (action >>= next).Lacks store := by
  rw [Lacks] at lacks ⊢
  rw [result_bind, lacks]

section Untokened

variable {store : Store}

/-- The next token is missed if there is none. -/
theorem lacks_nextToken (untokened : store.next = none) : nextToken.Lacks store := by
  change (need Lack.value store.next).result store = _
  rw [untokened]
  rfl

/-- So it is by a probe. -/
theorem lacks_probe (untokened : store.next = none) (kind : TokenKind)
    (admits : String → Action Bool) : (Descent.probe kind admits).Lacks store :=
  (lacks_nextToken untokened).bind _

/-- So it is by a match. -/
theorem lacks_accept (untokened : store.next = none) (kind : TokenKind)
    (admits : String → Action Bool) : (Descent.accept kind admits).Lacks store :=
  (lacks_probe untokened kind admits).bind _

/-- So it is by the first turn of a loop that begins with a match. -/
theorem lacks_loop {σ : Type} {turn : Turn σ} {value : σ} (lacks : (turn value).Lacks store) :
    (turn.loop value).Lacks store := by
  rw [repeats_loop turn value]
  exact lacks.bind _

/-- A term begins with the operators before it. -/
theorem lacks_term (untokened : store.next = none) : (term room).Lacks store := by
  rw [term]
  exact (lacks_loop ((lacks_accept untokened _ _).bind _)).bind _

/-- An expression begins with a term. -/
theorem lacks_expression (untokened : store.next = none) : (expression room).Lacks store := by
  rw [expression]
  exact (lacks_term untokened).bind _

/-- A list of statements begins with a look at its end. -/
theorem lacks_statements (untokened : store.next = none) : (statements room).Lacks store := by
  rw [statements, statementsTurn]
  exact ((lacks_probe untokened _ _).bind _).bind _

/-- Without a next token, the procedure of every rule misses it. -/
theorem lacks_descend (untokened : store.next = none) (rule : Rule) :
    (rule.descend room).Lacks store := by
  -- Every rule begins with a token that is looked at, or with a rule that does.
  cases rule with
  | program => exact (((lacks_accept untokened _ _).bind _).bind _).bind _
  | declaration => exact (((lacks_accept untokened _ _).bind _).bind _).bind _
  | statement =>
      rw [Rule.descend, statement]
      exact ((lacks_accept untokened _ _).bind _).bind _
  | statements => exact (lacks_statements untokened).bind _
  | condition => exact ((lacks_expression untokened).bind _).bind _
  | expression => exact (lacks_expression untokened).bind _
  | term => exact (lacks_term untokened).bind _
  | primary =>
      rw [Rule.descend, primary]
      exact ((lacks_accept untokened _ _).bind _).bind _

end Untokened

/-! ## Commands -/

/-- The procedure of a command, if the command works on the tokens and symbols that the session
has. -/
def CheckCommand.procedure? (room : Option Nat) : CheckCommand → Option (Action CheckReply)
  | .check _ | .clear | .begin _ | .beginTokens _ | .declare _ _ => none
  | .rule called => some do return .completed (← called.descend room)
  | .lookup token => some do return .found (← lookupSymbol token)
  | .accept pattern => some do return .truth (← pattern.accept)
  | .probe pattern => some do return .truth (← pattern.probe)
  | .require pattern => some do pattern.require; return .done
  | .expressionEnd => some do return .truth (← probeExpressionEnd)

/-- A command that looks at the next token does what its procedure does, if it does so wherever
there is a token, and if its procedure misses the token elsewhere. -/
theorem answers_withNext {procedure : Action CheckReply} {command : Cursor → Session × CheckReply}
    (lacks : procedure.Lacks { symbols := session.symbols })
    (agrees : ∀ cursor, session.cursor = some cursor →
      procedure.Answers (cursor.store session.symbols) (command cursor)) :
    procedure.Answers session.store (session.withNext command) := by
  unfold Session.withNext
  cases held : session.cursor with
  | none =>
      have store : session.store = { symbols := session.symbols } := by
        rw [Session.store, held, Option.elim_none]
      rw [Action.Answers, Option.elim_none, store]
      exact lacks
  | some cursor =>
      rw [session.store_of_cursor held]
      exact agrees cursor held

/-! ### Matches -/

variable {pattern : Pattern} {reply : CheckReply} {other : Action CheckReply}

/-- A session takes the next token as a procedure does. The last token is matched, but there is none
to go on to. -/
theorem answers_takeNext (matched : pattern.admits cursor.next = true)
    (plain : reply.ending = .ok reply) :
    (pattern.accept >>= fun taken => if taken = true then pure reply else other).Answers
      (cursor.store session.symbols) (session.takeNext cursor reply) := by
  rw [pattern.admits_eq] at matched
  rw [Action.Answers, Action.result_bind, pattern.accept_eq, Session.takeNext]
  cases advanced : cursor.advance? with
  | some moved =>
      rw [result_accept_taken (fun _ => rfl) matched advanced]
      dsimp only
      rw [plain]
      rfl
  | none =>
      rw [result_accept_last (fun _ => rfl) matched advanced]
      rfl

/-- A token that does not match stays where it is. -/
theorem result_accept_of_not_admits (differs : pattern.admits cursor.next = false) :
    (pattern.accept >>= fun taken => if taken = true then pure reply else other).result
        (cursor.store session.symbols) =
      other.result (cursor.store session.symbols) := by
  rw [pattern.admits_eq] at differs
  rw [Action.result_bind, pattern.accept_eq, result_accept_other (fun _ => rfl) differs]
  rfl

/-- A command that matches the next token does what its procedure does, if it does so wherever the
token does not match. -/
theorem answers_match {left : Cursor → CheckReply} (plain : reply.ending = .ok reply)
    (leaves : ∀ cursor, session.cursor = some cursor →
      other.Answers (cursor.store session.symbols) (session, left cursor)) :
    (pattern.accept >>= fun taken => if taken = true then pure reply else other).Answers
      session.store (session.withNext fun cursor =>
        if pattern.admits cursor.next then session.takeNext cursor reply
        else (session, left cursor)) := by
  have lacks : pattern.accept.Lacks { symbols := session.symbols } := by
    rw [pattern.accept_eq]
    exact lacks_accept rfl _ _
  refine answers_withNext (lacks.bind _) fun cursor held => ?_
  by_cases matched : pattern.admits cursor.next = true
  · rw [if_pos matched]
    exact answers_takeNext matched plain
  · rw [if_neg matched, Action.Answers,
      result_accept_of_not_admits (Bool.eq_false_iff.mpr matched)]
    exact leaves cursor held

/-- A match is answered by whether the token is taken. -/
theorem answers_accept (session : Session) (pattern : Pattern) :
    (pattern.accept >>= fun taken => pure (.truth taken)).Answers session.store
      (session.perform room (.accept pattern)) := by
  have same : (pattern.accept >>= fun taken => pure (.truth taken) : Action CheckReply) =
      pattern.accept >>= fun taken =>
        if taken = true then pure (.truth true) else pure (.truth false) := by
    congr 1
    funext taken
    cases taken <;> rfl
  rw [same]
  refine answers_match rfl fun cursor held => ?_
  rw [← session.store_of_cursor held]
  rfl

/-- A match that is required is refused as the pattern says. -/
theorem answers_require (session : Session) (pattern : Pattern) :
    (pattern.require >>= fun _ => pure .done).Answers session.store
      (session.perform room (.require pattern)) := by
  have same : (pattern.require >>= fun _ => pure .done : Action CheckReply) =
      pattern.accept >>= fun taken =>
        if taken = true then pure .done
        else nextToken >>= fun next =>
          (refuse (pattern.fault next) : Action Unit) >>= fun _ => pure .done := by
    rw [pattern.require_eq, bind_assoc]
    congr 1
    funext taken
    cases taken with
    | true => rfl
    | false => exact bind_assoc nextToken _ _
  rw [same]
  refine answers_match rfl fun cursor held => ?_
  rw [Action.Answers, session.store_of_cursor held]
  rfl

/-! ### All commands -/

/-- A command does in a session what its procedure does in the store of the session. -/
theorem answers_perform {command : CheckCommand} {procedure : Action CheckReply}
    (known : command.procedure? room = some procedure)
    (marked : ∀ cursor, session.cursor = some cursor → EndMarked cursor.tokens) :
    procedure.Answers session.store (session.perform room command) := by
  cases command with
  | check source => cases known
  | clear => cases known
  | begin source => cases known
  | beginTokens tokens => cases known
  | declare name type => cases known
  | rule rule =>
      cases known
      refine answers_withNext ((lacks_descend rfl rule).bind _) fun cursor held => ?_
      rw [Action.Answers, Action.result_bind,
        descend_eq_run room rule session.symbols cursor (marked cursor held), Session.runRule]
      -- What the session leaves and answers is read off the run.
      generalize rule.run room session.symbols cursor = finish
      obtain ⟨outcome, place, table⟩ := finish
      rcases outcome with (type | fault) | _ <;> rfl
  | lookup token =>
      cases known
      rw [Action.Answers, Action.result_bind, lookupSymbol, Action.result_bind, Action.result_get]
      dsimp only
      rw [session.symbols_store, Session.perform]
      cases session.symbols.lookup token.text with
      | some symbol => rfl
      | none =>
          dsimp only [CheckReply.ending]
          rw [Int.toNat_natCast, ← session.position_store]
          rfl
  | accept pattern =>
      cases known
      exact answers_accept session pattern
  | probe pattern =>
      cases known
      refine answers_withNext ((lacks_probe rfl _ _).bind _) fun cursor held => ?_
      rw [Action.Answers, Action.result_bind, Pattern.probe, result_probe fun _ => rfl,
        ← pattern.admits_eq, session.store_of_cursor held]
      rfl
  | require pattern =>
      cases known
      exact answers_require session pattern
  | expressionEnd =>
      cases known
      refine answers_withNext (((lacks_nextToken rfl).bind _).bind _) fun cursor held => ?_
      rw [Action.Answers, session.store_of_cursor held]
      rfl

/-- **A command is its procedure.** After any commands to a new session, a command that works on the
tokens and symbols of the session is answered as its procedure ends: with its value, with the fault
at the position reached, or because the calls are nested too deeply. The session it leaves is the
store that the procedure leaves, also where the last of the tokens is matched, and where there are no
tokens at all. -/
theorem perform_answers (limit room : Option Nat) (commands : List CheckCommand)
    {command : CheckCommand} {procedure : Action CheckReply}
    (known : command.procedure? room = some procedure) :
    procedure.Answers (History.ofCommands limit commands).session.store
      ((History.ofCommands limit commands).session.perform room command) := by
  refine answers_perform known fun cursor held => ?_
  obtain ⟨given, same⟩ := exists_tokens_eq_withEnd limit commands held
  rw [same]
  exact endMarked_withEnd given

/-- The end mark can be matched, but nothing stands behind it to go on to. -/
example : (Session.ofTokens []).perform none (.accept (.kind .endOfInput none)) =
    ({ cursor := some (Cursor.ofTokens []).matchLast }, .refused .endOfInput 1) := by
  decide +kernel

end Dopl.Checker
