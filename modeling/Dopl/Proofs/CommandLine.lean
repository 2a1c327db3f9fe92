import Dopl.CommandLine
import Dopl.Proofs.FileText

/-! # What a call of the program leaves behind

The exit code and the output of a call depend on the job alone, and the option for the log is no
part of a job. So it makes no difference to them where that option stands, and what is left is told
by the other arguments and the file that they name:

* **`job_insert`** — the option for the log is no part of the job.
* **`FileExit`** — the three ways in which a call ends that asks for neither help nor a batch, and
  **`fileExit_of_arguments`** — there are no others.
* **`exit_of_arguments`** — which of them it is. -/

namespace Dopl

/-! ## The option for the log -/

/-- The exit code and the output are those of the job; the log goes elsewhere. -/
theorem runArguments_of_job (disk : Disk) (arguments : List String) :
    (runArguments disk arguments).code =
        ((Request.ofArguments arguments).job.carryOut {} disk).1.code ∧
      (runArguments disk arguments).output =
        ((Request.ofArguments arguments).job.carryOut {} disk).1.output := by
  unfold runArguments Request.carryOut
  dsimp only
  split <;> exact ⟨rfl, rfl⟩

/-- The option for the log is no part of the job. -/
theorem job_insert {before behind : List String} (absent : logOption ∉ before ++ behind) :
    (Request.ofArguments (before ++ logOption :: behind)).job =
      (Request.ofArguments (before ++ behind)).job := by
  have noHelp : (logOption == helpOption) = false := by decide
  have inserted : (before ++ logOption :: behind).erase logOption = before ++ behind := by
    rw [List.erase_append_right _ fun member => absent (List.mem_append_left behind member),
      List.erase_cons_head]
  have asks : (before ++ logOption :: behind).contains helpOption =
      (before ++ behind).contains helpOption := by
    simp [show helpOption ≠ logOption by decide]
  unfold Request.ofArguments
  rw [asks, inserted, List.erase_of_not_mem absent]
  split <;> rfl

/-! ## Files -/

/-- How a call ends that asks for neither help nor a batch, given the arguments without the option
for the log. -/
inductive FileExit (disk : Disk) : List String → Exit → Prop where
  /-- The one argument names a file that is found and holds a text, and the verdict on it is
  written. -/
  | judged {name text : String} {exit : Exit} :
      ".dopl".toList <:+ name.toList → Holds {} disk name text → exit.code = 0 →
        exit.output = asLine (check (.lines (Library.linesOf text))).verdict.text →
        FileExit disk [name] exit
  /-- The one argument ends as the name of a source file does, but no text can be read. -/
  | unread {name : String} {exit : Exit} :
      ".dopl".toList <:+ name.toList → (∀ text, ¬Holds {} disk name text) → exit.code = 1 →
        exit.output = "" → FileExit disk [name] exit
  /-- There is not one argument that ends so. -/
  | misused {rest : List String} {exit : Exit} :
      (∀ name, rest = [name] → ¬".dopl".toList <:+ name.toList) → exit.code = 2 →
        exit.output = "" → FileExit disk rest exit

/-- What is written to the error output does not count. -/
theorem FileExit.of_eq {disk : Disk} {rest : List String} {exit other : Exit}
    (ends : FileExit disk rest exit) (code : other.code = exit.code)
    (output : other.output = exit.output) : FileExit disk rest other := by
  cases ends with
  | judged suffix holds zero written =>
      exact .judged suffix holds (code.trans zero) (output.trans written)
  | unread suffix unheld one empty =>
      exact .unread suffix unheld (code.trans one) (output.trans empty)
  | misused misused two empty => exact .misused misused (code.trans two) (output.trans empty)

/-- A file ends a call with its verdict if it holds a text, and with a fault otherwise. -/
theorem fileExit_checkFile (disk : Disk) {name : String}
    (suffix : ".dopl".toList <:+ name.toList) :
    FileExit disk [name] ((checkFile {} disk name).exit name) := by
  have result := checkFile_result {} disk name
  cases read : ({} : Library).readLines disk name with
  | ok lines =>
      obtain ⟨text, holds, rfl⟩ := readLines_eq_ok_iff.mp read
      rw [read] at result
      refine .judged suffix holds ?_ ?_ <;> rw [FileCheck.exit, result] <;> rfl
  | error fault =>
      have unheld : ∀ text, ¬Holds {} disk name text := by
        intro text holds
        rw [holds.readLines] at read
        cases read
      rw [read] at result
      refine .unread suffix unheld ?_ ?_ <;> rw [FileCheck.exit, result] <;> rfl

/-- A job without options that is no batch ends as one on a file does. -/
theorem fileExit_carryOut (disk : Disk) {rest : List String}
    (noBatch : rest.head? ≠ some batchCommand) :
    FileExit disk rest ((Job.ofArguments rest).carryOut {} disk).1 := by
  match rest with
  | [] => exact .misused (fun name same => by cases same) rfl rfl
  | [name] =>
      have other : name ≠ batchCommand := fun same => noBatch (congrArg some same)
      have job : Job.ofArguments [name] = .file name := by
        rw [Job.ofArguments, if_neg other]
        rfl
      rw [job, Job.carryOut]
      split
      · next admitted => exact fileExit_checkFile disk (List.isSuffixOf_iff_suffix.mp admitted)
      · next refused =>
        refine .misused (fun other same suffix => refused ?_) rfl rfl
        cases same
        exact List.isSuffixOf_iff_suffix.mpr suffix
  | first :: second :: others =>
      have other : first ≠ batchCommand := fun same => noBatch (congrArg some same)
      rw [Job.ofArguments, if_neg other, if_neg (by simp)]
      exact .misused (fun name same => by cases same) rfl rfl

/-- A call that asks for neither help nor a batch ends as one on a file does. -/
theorem fileExit_of_arguments (disk : Disk) {arguments : List String}
    (noHelp : helpOption ∉ arguments)
    (noBatch : (arguments.erase logOption).head? ≠ some batchCommand) :
    FileExit disk (arguments.erase logOption) (runArguments disk arguments) := by
  have job : (Request.ofArguments arguments).job = .ofArguments (arguments.erase logOption) := by
    rw [Request.ofArguments, if_neg (by simpa using noHelp)]
  obtain ⟨code, output⟩ := runArguments_of_job disk arguments
  rw [job] at code output
  exact (fileExit_carryOut disk noBatch).of_eq code output

/-- Verdicts are written apart. -/
theorem Verdict.eq_of_asLine_eq {verdict other : Verdict}
    (same : asLine verdict.text = asLine other.text) : verdict = other := by
  cases verdict <;> cases other <;> first | rfl | exact absurd same (by decide)

/-- No verdict is written as nothing. -/
theorem Verdict.asLine_ne_empty (verdict : Verdict) : asLine verdict.text ≠ "" := by
  cases verdict <;> decide

/-- A file holds one text. -/
theorem Holds.unique {library : Library} {disk : Disk} {name text other : String}
    (holds : Holds library disk name text) (otherHolds : Holds library disk name other) :
    text = other := by
  obtain ⟨fullName, content, located, read, decoded⟩ := holds
  obtain ⟨otherName, otherContent, otherLocated, otherRead, otherDecoded⟩ := otherHolds
  cases located.symm.trans otherLocated
  cases read.symm.trans otherRead
  cases decoded.symm.trans otherDecoded
  rfl

/-- **What a call of the program leaves behind.** One option for the log more, wherever it stands,
changes neither the exit code nor the output. A call that asks for no help and, its first option for
the log apart, for no batch writes a verdict on one line and exits with zero iff one argument is
left, it ends as the name of a source file does, and the file is found and holds a text; the verdict
is that on the lines of the text. In every other case it writes nothing, and exits with one if the
only argument ends so, and with two otherwise. -/
theorem exit_of_arguments (disk : Disk) :
    (∀ before behind : List String, logOption ∉ before ++ behind →
      (runArguments disk (before ++ logOption :: behind)).code =
          (runArguments disk (before ++ behind)).code ∧
        (runArguments disk (before ++ logOption :: behind)).output =
          (runArguments disk (before ++ behind)).output) ∧
      ∀ arguments : List String, helpOption ∉ arguments →
        (arguments.erase logOption).head? ≠ some batchCommand →
        (∀ verdict : Verdict,
          (runArguments disk arguments).output = asLine verdict.text ∧
              (runArguments disk arguments).code = 0 ↔
            ∃ name text, arguments.erase logOption = [name] ∧ ".dopl".toList <:+ name.toList ∧
              Holds {} disk name text ∧
              verdict = (check (.lines (Library.linesOf text))).verdict) ∧
          (∀ name, arguments.erase logOption = [name] → ".dopl".toList <:+ name.toList →
            (∀ text, ¬Holds {} disk name text) →
              (runArguments disk arguments).output = "" ∧
                (runArguments disk arguments).code = 1) ∧
          ((∀ name, arguments.erase logOption = [name] → ¬".dopl".toList <:+ name.toList) →
            (runArguments disk arguments).output = "" ∧
              (runArguments disk arguments).code = 2) := by
  refine ⟨fun before behind absent => ?_, fun arguments noHelp noBatch => ?_⟩
  · obtain ⟨code, output⟩ := runArguments_of_job disk (before ++ logOption :: behind)
    obtain ⟨plainCode, plainOutput⟩ := runArguments_of_job disk (before ++ behind)
    rw [code, output, plainCode, plainOutput, job_insert absent]
    exact ⟨rfl, rfl⟩
  · have ends := fileExit_of_arguments disk noHelp noBatch
    generalize runArguments disk arguments = exit at ends ⊢
    generalize arguments.erase logOption = rest at ends ⊢
    cases ends with
    | @judged name text _ suffix holds zero written =>
        refine ⟨fun verdict => ⟨?_, ?_⟩, ?_, ?_⟩
        · rintro ⟨same, -⟩
          exact ⟨name, text, rfl, suffix, holds,
            Verdict.eq_of_asLine_eq (same.symm.trans written)⟩
        · rintro ⟨other, otherText, same, -, otherHolds, rfl⟩
          cases same
          rw [otherHolds.unique holds]
          exact ⟨written, zero⟩
        · rintro other same - unheld
          cases same
          exact absurd holds (unheld text)
        · exact fun misused => absurd suffix (misused name rfl)
    | @unread name _ suffix unheld one empty =>
        refine ⟨fun verdict => ⟨?_, ?_⟩, fun _ _ _ _ => ⟨empty, one⟩, ?_⟩
        · rintro ⟨same, -⟩
          exact absurd (same.symm.trans empty) verdict.asLine_ne_empty
        · rintro ⟨other, text, same, -, holds, -⟩
          cases same
          exact absurd holds (unheld text)
        · exact fun misused => absurd suffix (misused name rfl)
    | misused misused two empty =>
        refine ⟨fun verdict => ⟨?_, ?_⟩, ?_, fun _ => ⟨empty, two⟩⟩
        · rintro ⟨same, -⟩
          exact absurd (same.symm.trans empty) verdict.asLine_ne_empty
        · rintro ⟨name, text, same, suffix, -⟩
          exact absurd suffix (misused name same)
        · exact fun name same suffix _ => absurd suffix (misused name same)

/-- A disk with one source file. -/
def programDisk : Disk :=
  ({} : Disk).addFile ["a.dopl"] "start finish".toUTF8.toList

/-- The verdict on the file is written wherever the option for the log stands; a file that is not
there and a call without a file leave no verdict. -/
theorem exit_of_arguments_logged :
    ((runArguments programDisk ["a.dopl", "-v"]).output = "ok\n" ∧
        (runArguments programDisk ["a.dopl", "-v"]).code = 0) ∧
      (runArguments programDisk ["a.dopl", "-v"]).output =
        (runArguments programDisk ["a.dopl"]).output ∧
      (runArguments programDisk ["b.dopl"]).code = 1 ∧
      (runArguments programDisk ["-v"]).code = 2 := by
  obtain ⟨inserted, ends⟩ := exit_of_arguments programDisk
  have holds : Holds {} programDisk "a.dopl" "start finish" :=
    ⟨"/a.dopl", _, by decide +kernel, rfl, by decide +kernel⟩
  have missing : ∀ text, ¬Holds {} programDisk "b.dopl" text := by
    rintro text ⟨fullName, content, located, -⟩
    have absent : ({} : Library).locate programDisk "b.dopl" = .error (.noFile "b.dopl") := by
      decide +kernel
    rw [absent] at located
    cases located
  refine ⟨?_, (inserted ["a.dopl"] [] (by decide)).2, ?_, ?_⟩
  · exact ((ends ["a.dopl", "-v"] (by decide) (by decide)).1 .ok).mpr
      ⟨"a.dopl", "start finish", by decide, by decide, holds, by decide +kernel⟩
  · exact ((ends ["b.dopl"] (by decide) (by decide)).2.1 "b.dopl" (by decide) (by decide)
      missing).2
  · exact ((ends ["-v"] (by decide) (by decide)).2.2 fun name same => by cases same).2

end Dopl
