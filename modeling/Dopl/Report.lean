import Dopl.Checker.Run
import Dopl.Scanner

/-! # Checking a program

A program is scanned, and checked if the scan noted no error. The **`Report`** of a check holds the
scan, what was declared, where the check ended, and the **`Cause`** for which the program is
refused, if it is; the **`Verdict`** is read off the cause. **`check`** checks a source within the
nesting limit, **`checkWithin`** within any limit or none. -/

namespace Dopl

/-- Whether a program is well formed and well typed. -/
inductive Verdict where
  /-- It is. -/
  | ok
  /-- It is not. -/
  | error
deriving DecidableEq, Repr

/-- The word for the verdict. -/
def Verdict.text : Verdict → String
  | .ok => "ok"
  | .error => "error"

/-- Why a program is refused. -/
inductive Cause where
  /-- The scan noted an error. -/
  | scan (error : ScanError)
  /-- The tokens are refused at a position. -/
  | check (fault : CheckFault) (position : Nat)
  /-- The nesting gets too deep at a position. -/
  | tooDeep (position : Nat)
deriving DecidableEq, Repr

/-- The cause as it is reported; excessive nesting has no report of its own. -/
def Cause.diagnostic? : Cause → Option Diagnostic
  | .scan error => some error.diagnostic
  | .check fault position => some (fault.placedAt position)
  | .tooDeep _ => none

/-- Why a run did not complete its rule, if it did not. -/
def Checker.Finish.cause? (finish : Checker.Finish) : Option Cause :=
  match finish.outcome with
  | .answered (.accepted _) => none
  | .answered (.refused fault) => some (.check fault finish.cursor.position)
  | .tooDeep => some (.tooDeep finish.cursor.position)

/-- The result of a check. -/
structure Report where
  /-- The scan of the source. -/
  scanned : Scanner
  /-- Why the program is refused, if it is. -/
  cause : Option Cause
  /-- The symbols declared by the end of the check. -/
  symbols : SymbolTable
  /-- Where the check ended; it did not start if the scan noted an error. -/
  cursor : Option Checker.Cursor
deriving DecidableEq, Repr

/-- The verdict of the check. -/
def Report.verdict (report : Report) : Verdict :=
  if report.cause.isNone then .ok else .error

/-- Checks a source within a limit on its nesting. -/
def checkWithin (limit : Option Nat) (source : Source) : Report :=
  let scanned := scan source
  match scanned.errors[0]? with
  | some error => ⟨scanned, some (.scan error), {}, none⟩
  | none =>
    let finish := Checker.Rule.program.run limit {} (.ofTokens scanned.tokens.toList)
    ⟨scanned, finish.cause?, finish.symbols, some finish.cursor⟩

/-- Checks a source. -/
def check (source : Source) : Report :=
  checkWithin (some Checker.nestingLimit) source

end Dopl
