import Dopl.Proofs.Batch
import Dopl.Proofs.Listing
import Dopl.Writer

/-! # The report of a batch

A batch writes the verdicts on the files of a folder and a separator behind them, folder by folder,
up to the end or to the first folder or file that cannot be read:

* **`BatchReport`** — the folders that are done, the files that are done in the last one, and the
  fault; **`Library.Reports`** says which report some folders have.
* **`Library.exists_reports`** — all folders have a report.
* **`Batch.ComesTo`**, **`Batch.comesTo_of_reports`** — their batch ends at its fault, judges its
  files and writes its text.
* **`Batch.keys_verdicts`**, **`Batch.mem_verdicts_iff`** — what a batch records, and
  **`Batch.foldlM_perform`** — what a writer is left with.
* **`report_of_batch`** — all of this for whole batches, and for batches one behind another. -/

namespace Dopl

variable {library : Library} {disk : Disk} {folder name : String} {folders names : List String}
  {fault : ReadFault}

/-! ## Reports -/

/-- The file has the verdict. -/
def Library.Judges (library : Library) (disk : Disk) (entry : String × Verdict) : Prop :=
  (checkFile library disk entry.1).result.map Report.verdict = .ok entry.2

/-- The folder lists the files, and they have the verdicts. -/
structure Library.JudgesFolder (library : Library) (disk : Disk) (folder : String)
    (judged : List (String × Verdict)) : Prop where
  /-- The files are those listed, in the same order. -/
  listed : library.list disk folder = .ok (judged.map Prod.fst)
  /-- Each file has its verdict. -/
  judges : ∀ entry ∈ judged, library.Judges disk entry

/-- What a batch comes to. -/
structure BatchReport where
  /-- The files of each folder that is done, with their verdicts. -/
  sections : List (List (String × Verdict)) := []
  /-- The files that are done in a folder that is not, with their verdicts. -/
  unfinished : List (String × Verdict) := []
  /-- The fault that the batch ended at, if it ended early. -/
  fault? : Option ReadFault := none

namespace BatchReport

/-- All files that are done, with their verdicts. -/
def judged (report : BatchReport) : List (String × Verdict) :=
  report.sections.flatten ++ report.unfinished

/-- The verdicts, each with a line end. -/
def verdictLines (lineEnd : String) (judged : List (String × Verdict)) : String :=
  String.join (judged.map fun entry => entry.2.text ++ lineEnd)

/-- The verdicts on the files of a folder, and the separator behind them with a line end. -/
def sectionText (lineEnd : String) (judged : List (String × Verdict)) : String :=
  verdictLines lineEnd judged ++ (BatchEntry.folderSeparator ++ lineEnd)

/-- The text of the report. -/
def text (lineEnd : String) (report : BatchReport) : String :=
  String.join (report.sections.map (sectionText lineEnd)) ++ verdictLines lineEnd report.unfinished

end BatchReport

/-- The report that some folders have. -/
inductive Library.Reports (library : Library) (disk : Disk) : List String → BatchReport → Prop where
  /-- Nothing is done for no folders. -/
  | nil : Reports library disk [] {}
  /-- The files of the first folder have verdicts, and the other folders have a report. -/
  | cons {folder : String} {folders : List String} {judged : List (String × Verdict)}
      {report : BatchReport} :
      library.JudgesFolder disk folder judged → Reports library disk folders report →
        Reports library disk (folder :: folders)
          { report with sections := judged :: report.sections }
  /-- The first folder is missing. -/
  | noFolder {folder : String} {folders : List String} :
      disk.names? folder = none →
        Reports library disk (folder :: folders) { fault? := some (.noFolder folder) }
  /-- Some files of the first folder have verdicts, and the next one cannot be read. -/
  | unread {folder : String} {folders : List String} {judged : List (String × Verdict)}
      {name : String} {names : List String} {fault : ReadFault} :
      library.list disk folder = .ok (judged.map Prod.fst ++ name :: names) →
        (∀ entry ∈ judged, library.Judges disk entry) →
        library.readLines disk name = .error fault →
        Reports library disk (folder :: folders)
          { unfinished := judged, fault? := some fault }

namespace Library

/-- A file has the verdict on its lines, if they can be read. -/
theorem judges_iff {verdict : Verdict} :
    library.Judges disk (name, verdict) ↔
      ∃ lines, library.readLines disk name = .ok lines ∧
        verdict = (check (.lines lines)).verdict := by
  rw [Judges, checkFile_result]
  cases library.readLines disk name with
  | ok lines =>
      constructor
      · intro same
        cases same
        exact ⟨lines, rfl, rfl⟩
      · rintro ⟨_, same, rfl⟩
        cases same
        rfl
  | error fault =>
      constructor
      · intro same
        cases same
      · rintro ⟨_, same, -⟩
        cases same

/-- Some files have verdicts, up to the end or to the first one that cannot be read. -/
theorem exists_judged (library : Library) (disk : Disk) (names : List String) :
    ∃ judged : List (String × Verdict), (∀ entry ∈ judged, library.Judges disk entry) ∧
      (names = judged.map Prod.fst ∨
        ∃ name rest fault, names = judged.map Prod.fst ++ name :: rest ∧
          library.readLines disk name = .error fault) := by
  induction names with
  | nil => exact ⟨[], List.forall_mem_nil _, .inl rfl⟩
  | cons name names induction =>
      cases read : library.readLines disk name with
      | error fault =>
          exact ⟨[], List.forall_mem_nil _, .inr ⟨name, names, fault, rfl, read⟩⟩
      | ok lines =>
          obtain ⟨judged, all, ends⟩ := induction
          have first := judges_iff.mpr ⟨lines, read, rfl⟩
          refine ⟨(name, _) :: judged, List.forall_mem_cons.mpr ⟨first, all⟩, ?_⟩
          rcases ends with rfl | ⟨other, rest, fault, rfl, unread⟩
          · exact .inl rfl
          · exact .inr ⟨other, rest, fault, rfl, unread⟩

/-- All folders have a report. -/
theorem exists_reports (library : Library) (disk : Disk) (folders : List String) :
    ∃ report, library.Reports disk folders report := by
  induction folders with
  | nil => exact ⟨_, .nil⟩
  | cons folder folders induction =>
      rcases list_cases library disk folder with ⟨names, listed⟩ | ⟨missing, -⟩
      · obtain ⟨judged, all, rfl | ⟨name, rest, fault, rfl, unread⟩⟩ :=
          exists_judged library disk names
        · obtain ⟨report, reports⟩ := induction
          exact ⟨_, .cons ⟨listed, all⟩ reports⟩
        · exact ⟨_, .unread listed all unread⟩
      · exact ⟨_, .noFolder missing⟩

/-- The files that are done have their verdicts. -/
theorem Reports.judges {report : BatchReport} (reports : library.Reports disk folders report) :
    ∀ entry ∈ report.judged, library.Judges disk entry := by
  induction reports with
  | nil => exact List.forall_mem_nil _
  | @cons _ _ judged report first _ induction =>
      have same : BatchReport.judged { report with sections := judged :: report.sections } =
          judged ++ report.judged := List.append_assoc _ _ _
      rw [same]
      exact List.forall_mem_append.mpr ⟨first.judges, induction⟩
  | noFolder _ => exact List.forall_mem_nil _
  | unread _ begun _ => exact begun

/-! ## Folders that can be read -/

/-- The folder can be listed, and its files can be read. -/
def CanRead (library : Library) (disk : Disk) (folder : String) : Prop :=
  ∃ names, library.list disk folder = .ok names ∧
    ∀ name ∈ names, ∃ lines, library.readLines disk name = .ok lines

/-- A folder that is done can be read. -/
theorem JudgesFolder.canRead {judged : List (String × Verdict)}
    (judges : library.JudgesFolder disk folder judged) : library.CanRead disk folder := by
  refine ⟨_, judges.listed, fun name member => ?_⟩
  obtain ⟨⟨_, verdict⟩, among, rfl⟩ := List.mem_map.mp member
  obtain ⟨lines, read, -⟩ := judges_iff.mp (judges.judges _ among)
  exact ⟨lines, read⟩

/-- The report of some folders has no fault iff they can all be read. -/
theorem Reports.fault?_eq_none_iff {report : BatchReport}
    (reports : library.Reports disk folders report) :
    report.fault? = none ↔ ∀ folder ∈ folders, library.CanRead disk folder := by
  induction reports with
  | nil => exact iff_of_true rfl (List.forall_mem_nil _)
  | cons first _ induction =>
      rw [List.forall_mem_cons, and_iff_right first.canRead]
      exact induction
  | noFolder missing =>
      refine iff_of_false (by simp) fun all => ?_
      obtain ⟨names, listed, -⟩ := all _ List.mem_cons_self
      rw [list, missing] at listed
      cases listed
  | unread listed _ unread =>
      refine iff_of_false (by simp) fun all => ?_
      obtain ⟨names, same, readable⟩ := all _ List.mem_cons_self
      rw [listed] at same
      cases same
      obtain ⟨lines, read⟩ := readable _ List.mem_append_cons_self
      rw [unread] at read
      cases read

end Library

/-! ## Batches one behind another -/

/-- What a file makes of a batch: a report on its lines, if they can be read. -/
theorem BatchEntry.ofFile_eq (library : Library) (disk : Disk) (name : String) :
    BatchEntry.ofFile library disk name =
      match library.readLines disk name with
      | .ok lines => .checked name (checkFile library disk name).fullName (check (.lines lines))
      | .error fault => .unread (checkFile library disk name).fullName fault := by
  rw [ofFile, checkFile_result]
  cases library.readLines disk name <;> rfl

namespace Batch

variable {batch next : Batch}

/-- A batch that ended early is not gone on with. -/
theorem followedBy_of_fault (ended : batch.fault? = some fault) (next : Batch) :
    batch.followedBy next = batch := by
  rw [followedBy, if_pos (by rw [ended]; rfl)]

/-- A batch that did not end early is gone on with. -/
theorem followedBy_of_complete (complete : batch.fault? = none) (next : Batch) :
    batch.followedBy next = ⟨batch.entries ++ next.entries⟩ := by
  rw [followedBy, if_neg (by simp [complete])]

/-- The first fault ends the batch. -/
theorem fault?_followedBy (batch next : Batch) :
    (batch.followedBy next).fault? = batch.fault?.or next.fault? := by
  cases ended : batch.fault? with
  | some fault => rw [followedBy_of_fault ended, ended, Option.some_or]
  | none =>
      rw [followedBy_of_complete ended, fault?, List.findSome?_append]
      exact congrArg (Option.or · next.fault?) ended

/-- It makes no difference how batches are put together. -/
theorem followedBy_assoc (first second third : Batch) :
    (first.followedBy second).followedBy third = first.followedBy (second.followedBy third) := by
  cases ended : first.fault? with
  | some fault =>
      rw [followedBy_of_fault ended second, followedBy_of_fault ended, followedBy_of_fault ended]
  | none =>
      have both := fault?_followedBy first second
      rw [ended, Option.none_or] at both
      cases endedNext : second.fault? with
      | some fault =>
          rw [endedNext] at both
          rw [followedBy_of_fault both, followedBy_of_fault endedNext]
      | none =>
          rw [endedNext] at both
          rw [followedBy_of_complete both, followedBy_of_complete ended (second.followedBy third),
            followedBy_of_complete endedNext, followedBy_of_complete ended, List.append_assoc]

/-- Nothing stands before the first batch. -/
theorem nil_followedBy (batch : Batch) : (Batch.mk []).followedBy batch = batch :=
  followedBy_of_complete rfl batch

/-- Files behind others are checked behind them. -/
theorem ofFiles_append (library : Library) (disk : Disk) (names others : List String) :
    ofFiles library disk (names ++ others) =
      (ofFiles library disk names).followedBy (ofFiles library disk others) := by
  induction names with
  | nil => exact (nil_followedBy _).symm
  | cons name names induction =>
      rw [List.cons_append, ofFiles, ofFiles, induction, followedBy_assoc]

/-- Folders behind others are checked behind them. -/
theorem ofFolders_append (library : Library) (disk : Disk) (folders others : List String) :
    ofFolders library disk (folders ++ others) =
      (ofFolders library disk folders).followedBy (ofFolders library disk others) := by
  induction folders with
  | nil => exact (nil_followedBy _).symm
  | cons folder folders induction =>
      rw [List.cons_append, ofFolders, ofFolders, induction, followedBy_assoc]

/-! ## What a batch comes to -/

/-- The verdict of the entry on the file it is about, if it is about one that is checked. -/
def judged? : BatchEntry → Option (String × Verdict)
  | .checked name _ report => some (name, report.verdict)
  | .unread .. | .folderEnd => none

/-- The files that are checked with their verdicts, in the order in which they are checked. -/
def judged (batch : Batch) : List (String × Verdict) :=
  batch.entries.filterMap judged?

/-- The batch comes to the report: it ends at its fault, judges its files and writes its text. -/
structure ComesTo (batch : Batch) (report : BatchReport) : Prop where
  /-- It ends at the fault of the report. -/
  fault : batch.fault? = report.fault?
  /-- It judges the files of the report. -/
  judged : batch.judged = report.judged
  /-- It writes the text of the report. -/
  text : ∀ lineEnd, batch.text lineEnd = report.text lineEnd

/-- An empty batch comes to an empty report. -/
theorem comesTo_nil : (Batch.mk []).ComesTo {} :=
  ⟨rfl, rfl, fun _ => rfl⟩

/-- Behind a batch that did not end early, another one adds its files and its text. -/
theorem ComesTo.followedBy {report further whole : BatchReport} (first : batch.ComesTo report)
    (complete : report.fault? = none) (second : next.ComesTo further)
    (fault : whole.fault? = further.fault?)
    (judged : whole.judged = report.judged ++ further.judged)
    (text : ∀ lineEnd, whole.text lineEnd = report.text lineEnd ++ further.text lineEnd) :
    (batch.followedBy next).ComesTo whole := by
  have ended := first.fault.trans complete
  refine ⟨?_, ?_, fun lineEnd => ?_⟩
  · rw [fault?_followedBy, ended, Option.none_or, second.fault, fault]
  · rw [followedBy_of_complete ended, Batch.judged, List.filterMap_append, judged]
    exact congrArg₂ _ first.judged second.judged
  · rw [followedBy_of_complete ended, Batch.text, List.map_append, String.join_append, text]
    exact congrArg₂ _ (first.text lineEnd) (second.text lineEnd)

/-- Behind a batch that ended early, nothing is added. -/
theorem ComesTo.followedBy_of_fault {report : BatchReport} (first : batch.ComesTo report)
    (ended : report.fault? = some fault) : (batch.followedBy next).ComesTo report := by
  rw [Batch.followedBy_of_fault (first.fault.trans ended)]
  exact first

/-- What comes of a file that has a verdict. -/
theorem comesTo_of_judges {verdict : Verdict} (judges : library.Judges disk (name, verdict)) :
    (Batch.mk [.ofFile library disk name]).ComesTo { unfinished := [(name, verdict)] } := by
  obtain ⟨lines, read, rfl⟩ := Library.judges_iff.mp judges
  rw [BatchEntry.ofFile_eq, read]
  exact ⟨rfl, rfl, fun _ => rfl⟩

/-- What comes of a file that cannot be read. -/
theorem comesTo_of_unread (unread : library.readLines disk name = .error fault) :
    (Batch.mk [.ofFile library disk name]).ComesTo { fault? := some fault } := by
  rw [BatchEntry.ofFile_eq, unread]
  exact ⟨rfl, rfl, fun _ => rfl⟩

/-- What comes of files that have verdicts. -/
theorem comesTo_ofFiles {judged : List (String × Verdict)}
    (judges : ∀ entry ∈ judged, library.Judges disk entry) :
    (ofFiles library disk (judged.map Prod.fst)).ComesTo { unfinished := judged } := by
  induction judged with
  | nil => exact comesTo_nil
  | cons entry judged induction =>
      obtain ⟨first, others⟩ := List.forall_mem_cons.mp judges
      refine (comesTo_of_judges first).followedBy rfl (induction others) rfl rfl fun lineEnd => ?_
      simp [BatchReport.text, BatchReport.verdictLines]

/-- What comes of files that have verdicts and one behind them that cannot be read. -/
theorem comesTo_ofFiles_of_unread {judged : List (String × Verdict)}
    (judges : ∀ entry ∈ judged, library.Judges disk entry)
    (unread : library.readLines disk name = .error fault) :
    (ofFiles library disk (judged.map Prod.fst ++ name :: names)).ComesTo
      { unfinished := judged, fault? := some fault } := by
  have stopped : (ofFiles library disk (name :: names)).ComesTo { fault? := some fault } :=
    (comesTo_of_unread unread).followedBy_of_fault rfl
  rw [ofFiles_append]
  refine (comesTo_ofFiles judges).followedBy rfl stopped rfl ?_ fun lineEnd => ?_
  · simp [BatchReport.judged]
  · simp [BatchReport.text, BatchReport.verdictLines]

/-- What comes of a folder that is done. -/
theorem comesTo_ofFolder {judged : List (String × Verdict)}
    (judges : library.JudgesFolder disk folder judged) :
    (ofFolder library disk folder).ComesTo { sections := [judged] } := by
  have separator : (Batch.mk [.folderEnd]).ComesTo { sections := [[]] } :=
    ⟨rfl, rfl, fun lineEnd => by
      simp [Batch.text, BatchReport.text, BatchReport.sectionText, BatchReport.verdictLines,
        BatchEntry.text]⟩
  rw [ofFolder, judges.listed]
  refine (comesTo_ofFiles judges.judges).followedBy rfl separator rfl ?_ fun lineEnd => ?_
  · simp [BatchReport.judged]
  · simp [BatchReport.text, BatchReport.sectionText, BatchReport.verdictLines]

/-- What comes of a missing folder. -/
theorem comesTo_ofFolder_of_missing (library : Library) (missing : disk.names? folder = none) :
    (ofFolder library disk folder).ComesTo { fault? := some (.noFolder folder) } := by
  rw [ofFolder, Library.list, missing]
  exact ⟨rfl, rfl, fun _ => rfl⟩

/-- What comes of a folder with a file that cannot be read. -/
theorem comesTo_ofFolder_of_unread {judged : List (String × Verdict)}
    (listed : library.list disk folder = .ok (judged.map Prod.fst ++ name :: names))
    (judges : ∀ entry ∈ judged, library.Judges disk entry)
    (unread : library.readLines disk name = .error fault) :
    (ofFolder library disk folder).ComesTo { unfinished := judged, fault? := some fault } := by
  rw [ofFolder, listed]
  exact (comesTo_ofFiles_of_unread judges unread).followedBy_of_fault rfl

/-- **The batch of some folders comes to the report that they have.** The induction is on the
report: the first folder adds a section, or ends the batch. -/
theorem comesTo_of_reports {report : BatchReport}
    (reports : library.Reports disk folders report) :
    (ofFolders library disk folders).ComesTo report := by
  induction reports with
  | nil => exact comesTo_nil
  | cons first _ induction =>
      refine (comesTo_ofFolder first).followedBy rfl induction rfl ?_ fun lineEnd => ?_
      · simp [BatchReport.judged]
      · simp [BatchReport.text, BatchReport.verdictLines, String.append_assoc]
  | noFolder missing => exact (comesTo_ofFolder_of_missing library missing).followedBy_of_fault rfl
  | unread listed begun unread =>
      exact (comesTo_ofFolder_of_unread listed begun unread).followedBy_of_fault rfl

/-! ## What a batch records -/

/-- A name is added to those recorded, unless it is one of them. -/
theorem keys_record (verdicts : List (String × Verdict)) (name : String) (verdict : Verdict) :
    (record verdicts name verdict).map Prod.fst =
      if name ∈ verdicts.map Prod.fst then verdicts.map Prod.fst
      else verdicts.map Prod.fst ++ [name] := by
  have known : (verdicts.any fun old => old.1 == name) = true ↔ name ∈ verdicts.map Prod.fst := by
    simp
  rw [record]
  by_cases present : name ∈ verdicts.map Prod.fst
  · rw [if_pos (known.mpr present), if_pos present, List.map_map]
    refine List.map_congr_left fun old _ => ?_
    dsimp only [Function.comp]
    split
    · next same => exact same.symm
    · rfl
  · rw [if_neg (mt known.mp present), if_neg present, List.map_append]
    rfl

/-- The names recorded are those judged, each where it is judged first. The induction is on the
entries from the last one, which is recorded last. -/
theorem keys_verdicts (batch : Batch) :
    batch.verdicts.map Prod.fst = (batch.judged.map Prod.fst).eraseDups := by
  obtain ⟨entries⟩ := batch
  induction entries using List.reverseRecOn with
  | nil => rfl
  | append_singleton before last induction =>
      have judged : (Batch.mk (before ++ [last])).judged =
          (Batch.mk before).judged ++ (judged? last).toList := by
        rw [Batch.judged, List.filterMap_append]
        cases last <;> rfl
      rw [verdicts_concat, judged, List.map_append, List.eraseDups_append]
      cases last with
      | checked name fullName report =>
          dsimp only [judged?, Option.toList, List.map]
          rw [keys_record, induction]
          by_cases present : name ∈ (Batch.mk before).judged.map Prod.fst
          · rw [if_pos (List.mem_eraseDups.mpr present)]
            simp [present, List.removeAll]
          · rw [if_neg (mt List.mem_eraseDups.mp present)]
            simp [present, List.removeAll, List.eraseDups_cons]
      | unread fullName fault => simpa [judged?, List.removeAll] using induction
      | folderEnd => simpa [judged?, List.removeAll] using induction

/-- If all files that are judged have their verdicts, these are what is recorded. -/
theorem mem_verdicts_iff (judges : ∀ entry ∈ batch.judged, library.Judges disk entry)
    (entry : String × Verdict) : entry ∈ batch.verdicts ↔ entry ∈ batch.judged := by
  have recorded {entry : String × Verdict} (member : entry ∈ batch.verdicts) :
      entry ∈ batch.judged := by
    obtain ⟨fullName, report, present, same⟩ := exists_report_of_mem_verdicts member
    exact List.mem_filterMap.mpr ⟨_, present, congrArg some (Prod.ext rfl same.symm)⟩
  refine ⟨recorded, fun member => ?_⟩
  obtain ⟨present, there, same⟩ := List.mem_filterMap.mp member
  cases present with
  | checked name fullName report =>
      cases same
      obtain ⟨verdict, kept⟩ := exists_verdict_of_mem there
      -- What is recorded under the name is the one verdict that the file has.
      have one : verdict = report.verdict := Except.ok.inj
        ((judges (name, verdict) (recorded kept)).symm.trans (judges (name, report.verdict) member))
      exact one ▸ kept
  | unread fullName fault => cases same
  | folderEnd => cases same

/-! ## Writing a batch -/

/-- What a writer is told for an entry. -/
def commands : BatchEntry → List WriteCommand
  | .checked _ _ report => [.writeLine (.verdict report.verdict)]
  | .unread .. => []
  | .folderEnd => [.writeLine (.text BatchEntry.folderSeparator)]

/-- A writer that takes text is left with the text of the batch. -/
theorem foldlM_perform (batch : Batch) (writer : Writer) (takes : writer.isOpen = true) :
    (batch.entries.flatMap commands).foldlM Writer.perform writer =
      some { writer with text := writer.text ++ batch.text writer.lineEnd } := by
  obtain ⟨entries⟩ := batch
  induction entries generalizing writer with
  | nil => simp [Batch.text]
  | cons entry entries induction =>
      have first : (commands entry).foldlM Writer.perform writer =
          some { writer with text := writer.text ++ entry.text writer.lineEnd } := by
        cases entry with
        | checked name fullName report =>
            simp [commands, Writer.perform, Writer.append?, takes, BatchEntry.text, Cell.shown]
        | unread fullName fault => simp [commands, BatchEntry.text]
        | folderEnd =>
            simp [commands, Writer.perform, Writer.append?, takes, BatchEntry.text, Cell.shown]
      have others :=
        induction { writer with text := writer.text ++ entry.text writer.lineEnd } takes
      rw [List.flatMap_cons, List.foldlM_append, first]
      refine others.trans ?_
      simp [Batch.text, String.append_assoc]

end Batch

/-! ## Whole batches -/

/-- **The report of a batch.** A folder lists the source files in it in the order of the code points
of their names. The batch of some folders ends at the fault of the report that they have, if it has
one: where a folder is missing or one of its files cannot be read. A writer is left with the text of
the report, and the names recorded are those of the files judged, each where it is judged first and
with the verdict it has. Behind folders without a fault, others add their own text. -/
theorem report_of_batch (tree : disk.IsTree) (library : Library) :
    (∀ folder names, library.list disk folder = .ok names ↔
      ∃ inside sources, disk.names? folder = some inside ∧
        List.Perm sources (library.sourcesIn disk folder inside) ∧ sources.Pairwise (· ≤ ·) ∧
        names = sources.map (Path.join folder)) ∧
      ∀ folders,
        (∃ report, library.Reports disk folders report) ∧
        (∀ report, library.Reports disk folders report →
          (report.fault? = none ↔ ∀ folder ∈ folders, library.CanRead disk folder) ∧
          (Batch.ofFolders library disk folders).fault? = report.fault? ∧
          (∀ lineEnd,
            (Batch.ofFolders library disk folders).text lineEnd = report.text lineEnd) ∧
          (∀ writer : Writer, writer.isOpen = true →
            ((Batch.ofFolders library disk folders).entries.flatMap Batch.commands).foldlM
                Writer.perform writer =
              some { writer with text := writer.text ++ report.text writer.lineEnd }) ∧
          (Batch.ofFolders library disk folders).verdicts.map Prod.fst =
            (report.judged.map Prod.fst).eraseDups ∧
          ∀ entry, entry ∈ (Batch.ofFolders library disk folders).verdicts ↔
            entry ∈ report.judged) ∧
        ((Batch.ofFolders library disk folders).fault? = none → ∀ others lineEnd,
          (Batch.ofFolders library disk (folders ++ others)).text lineEnd =
            (Batch.ofFolders library disk folders).text lineEnd ++
              (Batch.ofFolders library disk others).text lineEnd) := by
  refine ⟨fun folder names => Library.list_eq_ok_iff tree,
    fun folders => ⟨Library.exists_reports library disk folders, fun report reports => ?_, ?_⟩⟩
  · obtain ⟨fault, judged, text⟩ := Batch.comesTo_of_reports reports
    refine ⟨reports.fault?_eq_none_iff, fault, text, fun writer takes => ?_, ?_, fun entry => ?_⟩
    · rw [Batch.foldlM_perform _ writer takes, text]
    · rw [Batch.keys_verdicts, judged]
    · rw [← judged]
      exact Batch.mem_verdicts_iff (judged.symm ▸ reports.judges) entry
  · intro complete others lineEnd
    rw [Batch.ofFolders_append, Batch.followedBy_of_complete complete, Batch.text, List.map_append,
      String.join_append]
    rfl

/-- Behind a folder that is done, a missing one ends the batch. -/
theorem report_of_batch_missingFolder :
    (Batch.ofFolders {} twoFiles ["good", "gone"]).fault? = some (.noFolder "gone") ∧
      ((Batch.ofFolders {} twoFiles ["good", "gone"]).entries.flatMap Batch.commands).foldlM
          Writer.perform { target := .console } =
        some { target := .console, text := "ok\n\n==============\n\n" } ∧
      (Batch.ofFolders {} twoFiles ["good", "gone"]).verdicts.map Prod.fst = ["good/a.dopl"] ∧
      (Batch.ofFolders {} twoFiles ["good", "gone"]).text "\n" =
        (Batch.ofFolders {} twoFiles ["good"]).text "\n" ++
          (Batch.ofFolders {} twoFiles ["gone"]).text "\n" := by
  have done : Library.JudgesFolder {} twoFiles "good" [("good/a.dopl", .ok)] :=
    ⟨list_twoFiles ["."], List.forall_mem_singleton.mpr (by unfold Library.Judges; decide +kernel)⟩
  have reports : Library.Reports {} twoFiles ["good", "gone"]
      { sections := [[("good/a.dopl", .ok)]], fault? := some (.noFolder "gone") } :=
    .cons done (.noFolder (by decide +kernel))
  have complete : (Batch.ofFolders {} twoFiles ["good"]).fault? = none := by decide +kernel
  obtain ⟨-, fault, -, written, keys, -⟩ :=
    ((report_of_batch isTree_twoFiles {}).2 ["good", "gone"]).2.1 _ reports
  exact ⟨fault, written { target := .console } rfl, keys,
    ((report_of_batch isTree_twoFiles {}).2 ["good"]).2.2 complete ["gone"] "\n"⟩

end Dopl
