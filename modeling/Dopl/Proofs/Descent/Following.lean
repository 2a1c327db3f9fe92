import Dopl.Proofs.Checker.Path
import Dopl.Proofs.Descent.Procedure

/-! # Procedures that follow a run

A procedure follows a run if it does the same with every token: it takes what the run takes, and it
fails where and as the run does. What it returns with says in which state the run is by then, so the
procedures called one after another follow one run.

* **`Move.behind`** — how a run goes on behind a token; **`Passed`** — some tokens are taken, and it
  goes on behind them.
* **`RoomAt`** — the room that is left to a procedure is what the limit leaves to the run.
* **`Finish.FailsAs`**, **`Action.Follows`** — a run fails, and a procedure follows a run.
* **`follows_expectKeyword`**, **`follows_expectSeparator`**, **`follows_spend`** — what has to
  stand at a place, and what is nested deeper. -/

namespace Dopl.Checker

open Descent

variable {α : Type} {limit room : Option Nat} {finish : Finish} {state : State}
  {symbols : SymbolTable} {cursor moved : Cursor} {move : Move} {depth cost : Nat}
  {post : α → SymbolTable → Cursor → Prop}

/-! ## A run behind a token -/

/-- Whether the token is taken. -/
def Move.takes : Move → Bool
  | .take _ _ | .takeLast _ => true
  | .leave _ => false

/-- What a run ends in whose last token was taken by a move, at the cursor behind it. -/
def Move.behind (limit : Option Nat) (symbols : SymbolTable) (cursor : Cursor) : Move → Finish
  | .take state declared =>
    if (limit.any fun limit => decide (limit < state.depth)) = true then
      ⟨.tooDeep, cursor, declared⟩
    else resume limit state declared cursor
  | .takeLast answer | .leave answer => ⟨.answered answer, cursor, symbols⟩

/-- A run that takes a token goes on as its move says, at the cursor behind the token. -/
theorem behind_of_step (aligned : resume limit state symbols cursor = finish)
    (stepped : step state symbols cursor.next = move) (takes : move.takes = true)
    (advanced : cursor.advance? = some moved) : move.behind limit symbols moved = finish := by
  obtain ⟨current, before, next, ahead⟩ := cursor
  cases ahead with
  | nil => cases advanced
  | cons token rest =>
      cases advanced
      rw [← aligned]
      cases move with
      | take state' symbols' => exact (run_of_take stepped).symm
      | takeLast answer => exact (run_of_takeLast stepped).symm
      | leave answer => cases takes

/-- The room is what the limit leaves at a depth. -/
def RoomAt (limit room : Option Nat) (depth : Nat) : Prop :=
  limit = room.map fun room => room + depth

/-- Nothing that is no deeper than the place exceeds the limit. -/
theorem RoomAt.within (fits : RoomAt limit room depth) {shallow : Nat} (below : shallow ≤ depth) :
    (limit.any fun limit => decide (limit < shallow)) = false := by
  rw [RoomAt] at fits
  subst fits
  cases room with
  | none => rfl
  | some room => simpa using by omega

/-- A run goes on behind a token that leads to a state no deeper than the place. -/
theorem RoomAt.resume_of_behind (fits : RoomAt limit room depth) {table : SymbolTable}
    (behind : (Move.take state symbols).behind limit table cursor = finish)
    (below : state.depth ≤ depth) : resume limit state symbols cursor = finish := by
  rw [Move.behind, fits.within below] at behind
  exact behind

/-- So it goes on behind the next token if it takes that. -/
theorem RoomAt.resume_of_step (fits : RoomAt limit room depth) {state' : State}
    {symbols' : SymbolTable} (aligned : resume limit state symbols cursor = finish)
    (stepped : step state symbols cursor.next = .take state' symbols')
    (advanced : cursor.advance? = some moved) (below : state'.depth ≤ depth) :
    resume limit state' symbols' moved = finish :=
  fits.resume_of_behind (behind_of_step aligned stepped rfl advanced) below

/-- A run counts only by its first step. -/
theorem resume_congr {other : State}
    (same : step state symbols cursor.next = step other symbols cursor.next) :
    resume limit state symbols cursor = resume limit other symbols cursor := by
  unfold resume run
  rw [same]

/-- The run fails, with these symbols declared and at this cursor. -/
inductive Finish.FailsAs : Finish → Failure → SymbolTable → Cursor → Prop where
  /-- It refuses a token. -/
  | refused {fault : CheckFault} {symbols : SymbolTable} {cursor : Cursor} :
      FailsAs ⟨.answered (.refused fault), cursor, symbols⟩ (.refused fault cursor.position)
        symbols cursor
  /-- It gets too deep. -/
  | tooDeep {symbols : SymbolTable} {cursor : Cursor} :
      FailsAs ⟨.tooDeep, cursor, symbols⟩ .tooDeep symbols cursor

/-- A run fails at a token that it refuses and leaves where it is. -/
theorem failsAs_of_refuse {fault : CheckFault}
    (aligned : resume limit state symbols cursor = finish)
    (stepped : step state symbols cursor.next = .refuse fault) :
    finish.FailsAs (.refused fault cursor.position) symbols cursor := by
  rw [← aligned, resume, run_of_leave stepped]
  exact .refused

/-- A run fails behind a token that it refuses and takes. -/
theorem failsAs_of_refuseTaken {fault : CheckFault}
    (aligned : resume limit state symbols cursor = finish)
    (stepped : step state symbols cursor.next = .refuseTaken fault)
    (advanced : cursor.advance? = some moved) :
    finish.FailsAs (.refused fault moved.position) symbols moved := by
  rw [← behind_of_step aligned stepped rfl advanced]
  exact .refused

/-- The procedure follows a run with this finish: it ends, and it either fails as the run does or
returns something with the property. What it returns with says how the run goes on. -/
abbrev Action.Follows (action : Action α) (finish : Finish) (symbols : SymbolTable)
    (cursor : Cursor) (post : α → SymbolTable → Cursor → Prop) : Prop :=
  action.Leaves finish.cursor.tokens finish.FailsAs symbols cursor post

/-- A move has taken a token, or one behind others, and the run goes on as it does behind that. -/
structure Passed (limit : Option Nat) (finish : Finish) (symbols : SymbolTable) (cursor : Cursor)
    (move : Move) (declared : SymbolTable) (moved : Cursor) : Prop where
  /-- Nothing is declared. -/
  declares : declared = symbols
  /-- It is further on. -/
  further : cursor.position < moved.position
  /-- The run goes on behind the move. -/
  behind : move.behind limit symbols moved = finish

/-- A run that takes a token has passed it. -/
theorem passed_of_step (aligned : resume limit state symbols cursor = finish)
    (stepped : step state symbols cursor.next = move) (takes : move.takes = true)
    (advanced : cursor.advance? = some moved) :
    Passed limit finish symbols cursor move symbols moved where
  declares := rfl
  further := by
    have further := Cursor.position_of_advance? advanced
    omega
  behind := behind_of_step aligned stepped takes advanced

/-- What is passed behind a place is passed behind every earlier one. -/
theorem Passed.since {declared : SymbolTable} {start : Cursor}
    (passed : Passed limit finish symbols cursor move declared moved)
    (after : start.position ≤ cursor.position) :
    Passed limit finish symbols start move declared moved :=
  ⟨passed.declares, by have further := passed.further; omega, passed.behind⟩

/-! ## What has to stand at a place -/

/-- A procedure refuses where its run does. -/
theorem follows_refuse {fault : CheckFault}
    (aligned : resume limit state symbols cursor = finish)
    (stepped : step state symbols cursor.next = .refuse fault) :
    (refuse fault : Action α).Follows finish symbols cursor post :=
  leaves_refuse (failsAs_of_refuse aligned stepped)

/-- A procedure refuses the next token where its run does. -/
theorem follows_refuse_next {fault : Token → CheckFault}
    (aligned : resume limit state symbols cursor = finish)
    (stepped : step state symbols cursor.next = .refuse (fault cursor.next)) :
    (nextToken >>= fun next => (refuse (fault next) : Action α)).Follows finish symbols cursor
      post := by
  refine leaves_next ?_
  exact follows_refuse aligned stepped

/-- A keyword is required where the run requires it. -/
theorem follows_expectKeyword {keyword : Keyword} (marked : EndMarked finish.cursor.tokens)
    (aligned : resume limit state symbols cursor = finish)
    (stepped : step state symbols cursor.next = requireKeyword keyword cursor.next move)
    (takes : move.takes = true) :
    (expectKeyword keyword).Follows finish symbols cursor
      fun _ => Passed limit finish symbols cursor move := by
  refine leaves_acceptKeyword marked (fun meaning moved advanced => ?_) fun other => ?_
  · rw [requireKeyword, if_pos meaning] at stepped
    exact .pure (passed_of_step aligned stepped takes advanced)
  · rw [requireKeyword, if_neg other] at stepped
    exact follows_refuse_next aligned stepped

/-- A separator is required where the run requires it. -/
theorem follows_expectSeparator {separator : Separator} (marked : EndMarked finish.cursor.tokens)
    (aligned : resume limit state symbols cursor = finish)
    (stepped : step state symbols cursor.next = requireSeparator separator cursor.next move)
    (takes : move.takes = true) :
    (expectSeparator separator).Follows finish symbols cursor
      fun _ => Passed limit finish symbols cursor move := by
  refine leaves_acceptSeparator marked (fun meaning moved advanced => ?_) fun other => ?_
  · rw [requireSeparator, if_pos meaning] at stepped
    exact .pure (passed_of_step aligned stepped takes advanced)
  · rw [requireSeparator, if_neg other] at stepped
    exact follows_refuse_next aligned stepped

/-- Inside a level more a procedure has less room, by the cost of the level. -/
theorem follows_spend {next : Option Nat → Action α} (fits : RoomAt limit room depth)
    (deeper : state.depth = depth + cost)
    (behind : (Move.take state symbols).behind limit symbols cursor = finish)
    (inside : ∀ inner, RoomAt limit inner (depth + cost) →
      resume limit state symbols cursor = finish →
        (next inner).Follows finish symbols cursor post) :
    (spend cost room >>= next).Follows finish symbols cursor post := by
  have same : (limit.any fun limit => decide (limit < state.depth)) =
      room.any fun room => decide (room < cost) := by
    rw [fits, deeper]
    cases room with
    | none => rfl
    | some room => simpa using by omega
  rw [Move.behind, same] at behind
  unfold spend
  by_cases deep : (room.any fun room => decide (room < cost)) = true
  · rw [if_pos deep] at behind ⊢
    rw [← behind]
    exact fun tokens => .fails tokens .tooDeep
  · rw [if_neg deep] at behind ⊢
    rw [pure_bind]
    refine inside _ ?_ behind
    rw [RoomAt] at fits ⊢
    rw [fits]
    cases room with
    | none => rfl
    | some room =>
        have enough : cost ≤ room := by simpa using deep
        simpa using by omega

end Dopl.Checker
