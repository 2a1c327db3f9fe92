import Dopl.Proofs.Scanner.Feed
import Dopl.Scanner.Session

/-! # Scanners at rest

Between two commands no piece is open and no character is pending, whatever a scanner was told
before, and also where a line had a fault:

* **`Scanner.Rests`** — no piece is open, and no character is pending.
* **`Scanner.Rests.perform`** — every command leaves a scanner at rest.
* **`Scanner.session`**, **`Scanner.rests_session`** — the scanner at any time, which rests. -/

namespace Dopl.Scanner

/-- No piece is open, and no character is pending. -/
def Rests (scanner : Scanner) : Prop :=
  scanner.mode = .plain ∧ scanner.pending = ""

/-- The scanner that some commands lead to. -/
def session (commands : List ScanCommand) : Scanner :=
  commands.foldl (fun scanner command => (scanner.perform command).1) {}

/-- A line leaves a scanner at rest. -/
theorem rests_scanLine (scanner : Scanner) (line : String) : (scanner.scanLine line).Rests :=
  ⟨mode_scanLine scanner line, pending_scanLine scanner line⟩

/-- So does the end of a line, where the next one is to be read. -/
theorem rests_endLine (scanner : Scanner) : scanner.endLine.nextLine.Rests :=
  ⟨mode_endLine scanner, pending_endLine scanner⟩

namespace Rests

variable {scanner : Scanner}

/-- Ending a word that is the only thing pending leaves a scanner at rest. -/
theorem flush (plain : scanner.mode = .plain) : scanner.flush.Rests :=
  ⟨(mode_flush scanner).trans plain, pending_flush scanner⟩

/-- Lines one after another leave a scanner at rest. Only where there is none does it count what was
before them. -/
theorem behind_lines (rests : scanner.Rests) (lines : List String) :
    (lines.foldl (fun scanner line => (scanner.scanLine line).nextLine) scanner).Rests := by
  induction lines generalizing scanner with
  | nil => exact rests
  | cons line lines induction =>
      apply induction
      exact rests_scanLine scanner line

/-- Scanning what is left of a source leaves a scanner at rest. -/
theorem scanRest (rests : scanner.Rests) : scanner.scanRest.1.Rests := by
  unfold Scanner.scanRest scan?
  cases scanner.reader with
  | none => exact rests
  | some reader => exact rests.behind_lines reader.remaining

/-- Every command leaves a scanner at rest. -/
theorem perform (rests : scanner.Rests) (command : ScanCommand) :
    (scanner.perform command).1.Rests := by
  cases command with
  | load source => exact ⟨rfl, rfl⟩
  | scan source =>
      cases source with
      | none => exact rests.scanRest
      | some source =>
          -- A new source is scanned from its start, whatever was scanned before.
          apply scanRest
          exact ⟨rfl, rfl⟩
  | scanLine line => exact rests_scanLine scanner line
  | flush text =>
      apply flush
      exact rests.1
  | emit text kind => exact ⟨rests.1, rfl⟩
  | fail text => exact rests
  | clear => exact ⟨rfl, rfl⟩

end Rests

/-- At any time a scanner rests. The induction is on the commands, from a scanner that rests. -/
theorem rests_session (commands : List ScanCommand) : (session commands).Rests := by
  have kept : ∀ scanner : Scanner, scanner.Rests →
      (commands.foldl (fun scanner command => (scanner.perform command).1) scanner).Rests := by
    induction commands with
    | nil =>
        intro scanner rests
        exact rests
    | cons command commands induction =>
        intro scanner rests
        exact induction _ (rests.perform command)
  exact kept {} ⟨rfl, rfl⟩

end Dopl.Scanner
