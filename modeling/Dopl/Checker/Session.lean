import Dopl.Report

/-! # Sessions with a checker

A client may drive the checker by single commands: begin with a source or with tokens of its own,
declare names, run single rules from the next token on, and match single tokens. The symbols and the
place in the tokens are kept from one command to the next, also after a fault.

* **`Pattern`** — what a token is matched against.
* **`CheckCommand`**, **`CheckReply`** — the commands and their answers.
* **`Session.perform`** carries out one command. -/

namespace Dopl.Checker

/-- What a token is matched against. -/
inductive Pattern where
  /-- A kind, with one of some texts if they are given. -/
  | kind (kind : TokenKind) (texts : Option (List String))
  /-- A keyword. -/
  | keyword (keyword : Keyword)
  /-- A separator. -/
  | separator (separator : Separator)
  /-- An operator. -/
  | operator (operator : Operator)
deriving DecidableEq, Repr

namespace Pattern

/-- Whether the token matches. -/
def admits (pattern : Pattern) (token : Token) : Bool :=
  match pattern with
  | .kind wanted texts => token.kind == wanted && texts.all fun texts => texts.contains token.text
  | .keyword wanted => token.lexeme == .keyword wanted
  | .separator wanted => token.lexeme == .separator wanted
  | .operator wanted => token.lexeme == .operator wanted

/-- The fault of a token that had to match and does not. -/
def fault (pattern : Pattern) (token : Token) : CheckFault :=
  match pattern with
  | .kind wanted _ => .kindRequired wanted token
  | .keyword wanted => .keywordRequired wanted token
  | .separator wanted => .separatorRequired wanted token
  | .operator _ => .operatorRequired token

end Pattern

/-- What is kept between commands. -/
structure Session where
  /-- The declared symbols. -/
  symbols : SymbolTable := {}
  /-- The place in the tokens, once there are some. -/
  cursor : Option Cursor := none
deriving DecidableEq, Repr

/-- A command to a checker. -/
inductive CheckCommand where
  /-- Checks a program from its start. -/
  | check (source : Source)
  /-- Starts afresh without tokens. -/
  | clear
  /-- Starts afresh with the tokens of a source, leaving out what is no token. -/
  | begin (source : Source)
  /-- Starts afresh with some tokens. -/
  | beginTokens (tokens : List Token)
  /-- Declares a name, whatever it looks like. -/
  | declare (name : String) (type : ValueType)
  /-- Runs a rule. -/
  | rule (rule : Rule)
  /-- Looks up the text of a token among the declared names. -/
  | lookup (token : Token)
  /-- Takes the next token if it matches. -/
  | accept (pattern : Pattern)
  /-- Tells whether the next token matches. -/
  | probe (pattern : Pattern)
  /-- Takes the next token, which has to match. -/
  | require (pattern : Pattern)
  /-- Tells whether the next token ends an expression. -/
  | expressionEnd
deriving DecidableEq, Repr

/-- The answer to a command. -/
inductive CheckReply where
  /-- The command is carried out. -/
  | done
  /-- The program is checked. -/
  | checked (report : Report)
  /-- The symbol declared or looked up. -/
  | found (symbol : Symbol)
  /-- The rule is complete, with the type of its value if it has one. -/
  | completed (type : Option ValueType)
  /-- Whether the token matches. -/
  | truth (value : Bool)
  /-- A fault at a position. -/
  | refused (fault : CheckFault) (position : Int)
  /-- The nesting is deeper than the limit. -/
  | tooDeep
  /-- There are no tokens to look at. -/
  | noTokens
deriving DecidableEq, Repr

namespace Session

/-- The position in the tokens, which is zero without tokens. -/
def position (session : Session) : Nat :=
  session.cursor.elim 0 Cursor.position

/-- A session at the first of some tokens. -/
def ofTokens (tokens : List Token) : Session :=
  { cursor := some (.ofTokens tokens) }

/-- Takes the next token, which matched, and answers; the last token cannot be left behind. -/
def takeNext (session : Session) (cursor : Cursor) (reply : CheckReply) : Session × CheckReply :=
  match cursor.advance? with
  | some moved => ({ session with cursor := some moved }, reply)
  | none =>
    ({ session with cursor := some cursor.matchLast }, .refused .endOfInput cursor.position)

/-- Runs a rule from the next token on. -/
def runRule (limit : Option Nat) (session : Session) (cursor : Cursor) (rule : Rule) :
    Session × CheckReply :=
  let finish := rule.run limit session.symbols cursor
  let reply := match finish.outcome with
    | .answered (.accepted type) => .completed type
    | .answered (.refused fault) => .refused fault finish.cursor.position
    | .tooDeep => .tooDeep
  ({ symbols := finish.symbols, cursor := some finish.cursor }, reply)

/-- Carries out a command that looks at the next token. -/
def withNext (session : Session) (command : Cursor → Session × CheckReply) :
    Session × CheckReply :=
  session.cursor.elim (session, .noTokens) command

/-- Carries out a command, within a limit on the nesting. -/
def perform (limit : Option Nat) (session : Session) : CheckCommand → Session × CheckReply
  | .check source =>
    let report := checkWithin limit source
    ({ symbols := report.symbols, cursor := report.cursor }, .checked report)
  | .clear => ({}, .done)
  | .begin source => (ofTokens (scan source).tokens.toList, .done)
  | .beginTokens tokens => (ofTokens tokens, .done)
  | .declare name type =>
    match session.symbols.declare? name type with
    | some declared => ({ session with symbols := declared }, .found ⟨name, type⟩)
    | none => (session, .refused (.redeclared name) Diagnostic.unknownPosition)
  | .rule rule => session.withNext fun cursor => session.runRule limit cursor rule
  | .lookup token =>
    match session.symbols.lookup token.text with
    | some symbol => (session, .found symbol)
    | none => (session, .refused (.undeclared token.text) session.position)
  | .accept pattern => session.withNext fun cursor =>
    if pattern.admits cursor.next then session.takeNext cursor (.truth true)
    else (session, .truth false)
  | .probe pattern => session.withNext fun cursor =>
    (session, .truth (pattern.admits cursor.next))
  | .require pattern => session.withNext fun cursor =>
    if pattern.admits cursor.next then session.takeNext cursor .done
    else (session, .refused (pattern.fault cursor.next) cursor.position)
  | .expressionEnd => session.withNext fun cursor =>
    (session, .truth cursor.next.endsExpression)

end Session

end Dopl.Checker
