import Dopl.Report

/-! # Reports, by what the scan noted

A check and a list of tokens depend in the same way on the scan: the first error it noted decides,
and without one all goes on with its tokens.

* **`errors_cases`** — the scan noted no error, or a first one.
* **`checkWithin_of_errors_eq_empty`**, **`checkWithin_of_error`** — the report in each case.
* **`tokenize_eq_ok_iff`** — a source has tokens iff its scan noted no error. -/

namespace Dopl

open Checker

/-- A scan has noted no error, or a first one. -/
theorem errors_cases (source : Source) :
    (scan source).errors = #[] ∨
      (scan source).errors ≠ #[] ∧ ∃ error, (scan source).errors[0]? = some error := by
  cases noted : (scan source).errors[0]? with
  | none => exact .inl (by simpa using noted)
  | some error =>
      refine .inr ⟨fun clean => ?_, error, rfl⟩
      rw [clean] at noted
      cases noted

/-- The verdict is read off the cause. -/
theorem verdict_eq_ok_iff (report : Report) : report.verdict = .ok ↔ report.cause = none := by
  unfold Report.verdict
  cases report.cause <;> simp

/-- The report of a source whose scan noted no error is read off the run of the program rule. -/
theorem checkWithin_of_errors_eq_empty (limit : Option Nat) {source : Source}
    (scanned : (scan source).errors = #[]) :
    checkWithin limit source =
      ⟨scan source, (Rule.program.run limit {} (.ofTokens (scan source).tokens.toList)).cause?,
        (Rule.program.run limit {} (.ofTokens (scan source).tokens.toList)).symbols,
        some (Rule.program.run limit {} (.ofTokens (scan source).tokens.toList)).cursor⟩ := by
  simp only [checkWithin, scanned, List.getElem?_toArray, List.getElem?_nil]

/-- A source with an error in its scan is refused for the first one. -/
theorem checkWithin_of_error (limit : Option Nat) {source : Source} {error : ScanError}
    (noted : (scan source).errors[0]? = some error) :
    checkWithin limit source = ⟨scan source, some (.scan error), {}, none⟩ := by
  simp only [checkWithin, noted]

/-- A source that is not refused for an error of its scan has none. -/
theorem errors_eq_empty_of_cause_ne {limit : Option Nat} {source : Source}
    (other : ∀ error, (checkWithin limit source).cause ≠ some (.scan error)) :
    (scan source).errors = #[] := by
  rcases errors_cases source with clean | ⟨-, error, noted⟩
  · exact clean
  · refine absurd ?_ (other error)
    rw [checkWithin_of_error limit noted]

/-- If a source is refused by the checker, its scan noted no error. -/
theorem errors_eq_empty_of_cause {limit : Option Nat} {source : Source} {fault : CheckFault}
    {position : Nat} (refused : (checkWithin limit source).cause = some (.check fault position)) :
    (scan source).errors = #[] :=
  errors_eq_empty_of_cause_ne fun error => by
    rw [refused]
    exact nofun

/-- A source has tokens iff its scan notes no error, and they are those of the scan. -/
theorem tokenize_eq_ok_iff (source : Source) (tokens : Array Token) :
    tokenize source = .ok tokens ↔ (scan source).errors = #[] ∧ (scan source).tokens = tokens := by
  unfold tokenize
  dsimp only
  rcases errors_cases source with clean | ⟨failed, error, noted⟩
  · simp [clean]
  · simp [noted, failed]

end Dopl
