import Dopl.SymbolTable

/-! # What the checker waits for

The checker reads a program one token after another, and never looks beyond the next one. What it
has read so far leaves it in a **`State`**: the place in the grammar it has reached, with everything
that is still open around it, innermost first.

* **`Nest`** — the bodies of branches and loops that are open around a statement.
* **`Awaiting`** — one level of an expression that waits for an operand.
* **`Purpose`** — what the value of an expression is wanted for.
* **`State.depth`** — how deeply the open levels and bodies are nested, weighted by their cost. -/

namespace Dopl.Checker

/-- A body of a branch or a loop. -/
inductive Body where
  /-- What a branch does if its condition holds. -/
  | consequent
  /-- What a branch does otherwise. -/
  | alternative
  /-- What a loop repeats. -/
  | loop
deriving DecidableEq, Repr

/-- What stands outside all open bodies. -/
inductive Outermost where
  /-- A program, up to its last keyword. -/
  | program
  /-- A list of statements alone. -/
  | statements
  /-- A single statement alone. -/
  | statement
deriving DecidableEq, Repr

/-- The place of a statement: the bodies that are open around it. -/
structure Nest where
  /-- The open bodies, the innermost first. -/
  bodies : List Body := []
  /-- What stands outside them. -/
  outermost : Outermost
deriving DecidableEq, Repr

namespace Nest

/-- The place inside one body more. -/
def enter (nest : Nest) (body : Body) : Nest :=
  { nest with bodies := body :: nest.bodies }

/-- Whether any number of statements may stand there; otherwise it is exactly one. -/
def isList (nest : Nest) : Bool :=
  !(nest.bodies.isEmpty && nest.outermost == .statement)

end Nest

/-- A level of an expression that waits for an operand. -/
structure Awaiting where
  /-- The type of what stands left of the operand, if anything does. A logical operator counts as
  making it logical. -/
  left : Option ValueType := none
  /-- Whether a negation stands before the operand. -/
  negated : Bool := false
deriving DecidableEq, Repr

/-- The type of the level once it has its operand. A negated operand is logical. A logical left part
stays logical, and a character operand makes any other left part a character. -/
def Awaiting.absorb (awaiting : Awaiting) (primary : ValueType) : ValueType :=
  let operand := if awaiting.negated then .logical else primary
  match awaiting.left with
  | none => operand
  | some left => if left ≠ .logical ∧ operand = .character then .character else left

/-- What the value of an expression is wanted for. -/
inductive Purpose where
  /-- A term is read alone, without an operator behind it. -/
  | term
  /-- An expression is read alone. -/
  | expression
  /-- A condition is read alone. -/
  | condition
  /-- To be assigned to an identifier. -/
  | assignment (target : Symbol) (nest : Nest)
  /-- To be printed. -/
  | output (nest : Nest)
  /-- To choose a body of a branch. -/
  | branch (nest : Nest)
  /-- To go on with a loop. -/
  | loop (nest : Nest)
deriving DecidableEq, Repr

/-- The bodies open around the statement that the expression belongs to. -/
def Purpose.bodies : Purpose → List Body
  | .term | .expression | .condition => []
  | .assignment _ nest | .output nest | .branch nest | .loop nest => nest.bodies

/-- An expression being read: its parentheses are levels of their own. -/
structure Reading where
  /-- The innermost level. -/
  innermost : Awaiting := {}
  /-- The levels whose operand is an open parenthesis, the innermost first. -/
  enclosing : List Awaiting := []
  /-- What the value is wanted for. -/
  purpose : Purpose
deriving DecidableEq, Repr

/-- How far a group of declarations has come. -/
inductive GroupPhase where
  /-- No name is read yet. -/
  | empty
  /-- The last token is a name. -/
  | afterName
  /-- The last token is a comma. -/
  | afterComma
deriving DecidableEq, Repr

/-- What the checker waits for. -/
inductive State where
  /-- The first keyword of a program. -/
  | opening
  /-- A group of declarations of a program, or its first statement. -/
  | declarations
  /-- The type keyword of a group that is read alone. -/
  | groupHead
  /-- The rest of a group that declares names of a type; `alone` if nothing comes after it. -/
  | group (type : ValueType) (phase : GroupPhase) (alone : Bool)
  /-- A statement, or the end of the list it belongs to. -/
  | statement (nest : Nest)
  /-- The arrow of an assignment. -/
  | arrow (target : Symbol) (nest : Nest)
  /-- A term: operators before an operand, or the operand. -/
  | term (reading : Reading)
  /-- An operand without operators before it. -/
  | operand (reading : Reading)
  /-- An operator that goes on with an expression of a type, or the end of that expression. -/
  | operator (type : ValueType) (enclosing : List Awaiting) (purpose : Purpose)
  /-- The semicolon after a closed branch or loop. -/
  | semicolon (nest : Nest)
  /-- The end of the input. -/
  | trailer
deriving DecidableEq, Repr

namespace State

/-- The number of open parentheses. -/
def openParentheses : State → Nat
  | .term reading | .operand reading => reading.enclosing.length
  | .operator _ enclosing _ => enclosing.length
  | _ => 0

/-- The number of open bodies. -/
def openBodies : State → Nat
  | .statement nest | .arrow _ nest | .semicolon nest => nest.bodies.length
  | .term reading | .operand reading => reading.purpose.bodies.length
  | .operator _ _ purpose => purpose.bodies.length
  | _ => 0

/-- The nesting of the state: an open parenthesis weighs three, an open body two. -/
def depth (state : State) : Nat :=
  3 * state.openParentheses + 2 * state.openBodies

end State

/-- A rule of the grammar that can be checked alone. -/
inductive Rule where
  /-- A whole program. -/
  | program
  /-- A group of declarations. -/
  | declaration
  /-- A statement. -/
  | statement
  /-- A list of statements. -/
  | statements
  /-- A condition. -/
  | condition
  /-- An expression. -/
  | expression
  /-- A term. -/
  | term
  /-- A term without operators before it. -/
  | primary
deriving DecidableEq, Repr

/-- What the checker waits for at the start of a rule. -/
def Rule.start : Rule → State
  | .program => .opening
  | .declaration => .groupHead
  | .statement => .statement { outermost := .statement }
  | .statements => .statement { outermost := .statements }
  | .condition => .term { purpose := .condition }
  | .expression => .term { purpose := .expression }
  | .term => .term { purpose := .term }
  | .primary => .operand { purpose := .term }

end Dopl.Checker
