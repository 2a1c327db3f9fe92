import Dopl.Batch
import Dopl.Proofs.Library
import Mathlib.Data.List.Induction

/-! # What a batch checks

A batch lists its folders and then looks each listed name up again. So the report of a file is that
on the lines of the listed file where the library finds it again, and may be that of another file or
be missing elsewhere.

* **`BatchEntry.ofContent`** — what the content of a file makes of a batch, and
  **`BatchEntry.ofFile_of_finds`** — that is what comes of a listed file that is found again.
* **`Batch.exists_of_mem_ofFolders`**, **`Batch.mem_ofFolders`** — where the entries of a batch come
  from, and which entries a batch without a fault has.
* **`batch_of_listed`** — which listed files are found again, and the verdicts if all are. -/

namespace Dopl

variable {library : Library} {disk : Disk} {name : String} {location : Location}
  {content : List UInt8}

/-! ## A single file -/

namespace BatchEntry

/-- What the content of a file makes of a batch: a report on its lines, if it can be decoded. -/
def ofContent (name fullName : String) (content : List UInt8) : BatchEntry :=
  match Text.decode content with
  | .ok text => .checked name (some fullName) (check (.lines (Library.linesOf text)))
  | .error fault => .unread (some fullName) (.undecodable name fault)

/-- A file that the library finds under a name makes of a batch what its content makes of it. -/
theorem ofFile_of_finds (found : library.Finds disk name location)
    (held : disk.entry? location = some (.file content)) :
    ∃ fullName, ofFile library disk name = ofContent name fullName content := by
  obtain ⟨fullName, located, named⟩ := found
  have bytes : disk.read fullName = .ok content := Disk.read_eq_ok_iff.mpr ⟨location, named, held⟩
  refine ⟨fullName, ?_⟩
  rw [ofFile, checkFile, located, ofContent]
  dsimp only
  rw [Library.read, bytes]
  dsimp only
  cases Text.decode content <;> rfl

/-- A report in a batch is one on the lines of the content. -/
theorem eq_checked_of_ofContent {fullName : String} {other : String} {otherFull : Option String}
    {report : Report} (same : ofContent name fullName content = .checked other otherFull report) :
    other = name ∧ ∃ text, Text.decode content = .ok text ∧
      report = check (.lines (Library.linesOf text)) := by
  unfold ofContent at same
  cases decoded : Text.decode content with
  | ok text =>
      rw [decoded] at same
      cases same
      exact ⟨rfl, text, rfl, rfl⟩
  | error fault =>
      rw [decoded] at same
      cases same

end BatchEntry

/-! ## Entries of a batch -/

namespace Batch

/-- A batch behind another one adds its entries at most. -/
theorem mem_followedBy {batch next : Batch} {entry : BatchEntry}
    (member : entry ∈ (batch.followedBy next).entries) :
    entry ∈ batch.entries ∨ entry ∈ next.entries := by
  unfold followedBy at member
  split at member
  · exact .inl member
  · exact List.mem_append.mp member

/-- Without a fault a batch and the one behind it have all their entries. -/
theorem entries_followedBy {batch next : Batch}
    (complete : (batch.followedBy next).fault? = none) :
    batch.fault? = none ∧ next.fault? = none ∧
      (batch.followedBy next).entries = batch.entries ++ next.entries := by
  unfold followedBy at complete ⊢
  split at complete
  · next ended =>
    rw [complete] at ended
    cases ended
  · next going =>
    rw [if_neg going]
    rw [fault?, List.findSome?_append, Option.or_eq_none_iff] at complete
    exact ⟨complete.1, complete.2, rfl⟩

/-- The entries of files come from the files. -/
theorem exists_of_mem_ofFiles {names : List String} {entry : BatchEntry}
    (member : entry ∈ (ofFiles library disk names).entries) :
    ∃ name ∈ names, entry = .ofFile library disk name := by
  induction names with
  | nil => cases member
  | cons name rest induction =>
      rcases mem_followedBy member with first | others
      · exact ⟨name, List.mem_cons_self, List.mem_singleton.mp first⟩
      · obtain ⟨other, listed, same⟩ := induction others
        exact ⟨other, List.mem_cons_of_mem name listed, same⟩

/-- A report in the batch of a folder is that of a file that the folder lists. -/
theorem exists_of_mem_ofFolder {folder : String} {fullName : Option String} {report : Report}
    (member : .checked name fullName report ∈ (ofFolder library disk folder).entries) :
    ∃ names, library.list disk folder = .ok names ∧
      ∃ listed ∈ names, .ofFile library disk listed = BatchEntry.checked name fullName report := by
  unfold ofFolder at member
  split at member
  · simp at member
  · next names found =>
    rcases mem_followedBy member with inside | last
    · obtain ⟨listed, among, same⟩ := exists_of_mem_ofFiles inside
      exact ⟨names, found, listed, among, same.symm⟩
    · simp at last

/-- A report in the batch of some folders is that of a file that one of them lists. -/
theorem exists_of_mem_ofFolders {folders : List String} {fullName : Option String} {report : Report}
    (member : .checked name fullName report ∈ (ofFolders library disk folders).entries) :
    ∃ folder ∈ folders, ∃ names, library.list disk folder = .ok names ∧
      ∃ listed ∈ names, .ofFile library disk listed = BatchEntry.checked name fullName report := by
  induction folders with
  | nil => cases member
  | cons folder rest induction =>
      rcases mem_followedBy member with first | others
      · exact ⟨folder, List.mem_cons_self, exists_of_mem_ofFolder first⟩
      · obtain ⟨other, among, listed⟩ := induction others
        exact ⟨other, List.mem_cons_of_mem folder among, listed⟩

/-- Without a fault all files have their entries. -/
theorem mem_ofFiles {names : List String} (complete : (ofFiles library disk names).fault? = none)
    (member : name ∈ names) :
    .ofFile library disk name ∈ (ofFiles library disk names).entries := by
  induction names with
  | nil => cases member
  | cons first rest induction =>
      obtain ⟨-, further, same⟩ := entries_followedBy complete
      rw [ofFiles, same]
      rcases List.mem_cons.mp member with rfl | later
      · exact List.mem_append_left _ List.mem_cons_self
      · exact List.mem_append_right _ (induction further later)

/-- Without a fault all the files of a folder have their entries. -/
theorem mem_ofFolder {folder : String} {names : List String}
    (complete : (ofFolder library disk folder).fault? = none)
    (listed : library.list disk folder = .ok names) (member : name ∈ names) :
    .ofFile library disk name ∈ (ofFolder library disk folder).entries := by
  unfold ofFolder at complete ⊢
  rw [listed] at complete ⊢
  obtain ⟨inside, -, same⟩ := entries_followedBy complete
  dsimp only
  rw [same]
  exact List.mem_append_left _ (mem_ofFiles inside member)

/-- Without a fault all the files of all the folders have their entries. -/
theorem mem_ofFolders {folders : List String} {folder : String} {names : List String}
    (complete : (ofFolders library disk folders).fault? = none) (among : folder ∈ folders)
    (listed : library.list disk folder = .ok names) (member : name ∈ names) :
    .ofFile library disk name ∈ (ofFolders library disk folders).entries := by
  induction folders with
  | nil => cases among
  | cons first rest induction =>
      obtain ⟨here, further, same⟩ := entries_followedBy complete
      rw [ofFolders, same]
      rcases List.mem_cons.mp among with rfl | later
      · exact List.mem_append_left _ (mem_ofFolder here listed member)
      · exact List.mem_append_right _ (induction further later)

/-- Without a fault no entry is one. -/
theorem fault?_of_mem {batch : Batch} (complete : batch.fault? = none) {entry : BatchEntry}
    (member : entry ∈ batch.entries) : entry.fault? = none :=
  List.findSome?_eq_none_iff.mp complete entry member

/-! ## Verdicts -/

/-- A verdict is that of the last report or one from before. -/
theorem mem_record {verdicts : List (String × Verdict)} {verdict : Verdict}
    {recorded : String × Verdict} (member : recorded ∈ record verdicts name verdict) :
    recorded = (name, verdict) ∨ recorded ∈ verdicts := by
  unfold record at member
  split at member
  · obtain ⟨old, present, same⟩ := List.mem_map.mp member
    split at same
    · exact .inl same.symm
    · exact .inr (same ▸ present)
  · rcases List.mem_append.mp member with before | last
    · exact .inr before
    · exact .inl (List.mem_singleton.mp last)

/-- A report is recorded under its name. -/
theorem mem_record_self (verdicts : List (String × Verdict)) (name : String) (verdict : Verdict) :
    (name, verdict) ∈ record verdicts name verdict := by
  unfold record
  split
  · next known =>
    obtain ⟨old, present, same⟩ := List.any_eq_true.mp known
    refine List.mem_map.mpr ⟨old, present, ?_⟩
    rw [if_pos (eq_of_beq same)]
  · exact List.mem_append_right _ List.mem_cons_self

/-- A name that has a verdict keeps one. -/
theorem exists_mem_record_of_mem {verdicts : List (String × Verdict)} {other : String}
    {verdict otherVerdict : Verdict} (present : (other, otherVerdict) ∈ verdicts) :
    ∃ kept, (other, kept) ∈ record verdicts name verdict := by
  unfold record
  split
  · by_cases same : other = name
    · refine ⟨verdict, List.mem_map.mpr ⟨_, present, ?_⟩⟩
      rw [if_pos same, same]
    · refine ⟨otherVerdict, List.mem_map.mpr ⟨_, present, ?_⟩⟩
      rw [if_neg same]
  · exact ⟨otherVerdict, List.mem_append_left _ present⟩

/-- The last entry of a batch is recorded last. -/
theorem verdicts_concat (entries : List BatchEntry) (last : BatchEntry) :
    (Batch.mk (entries ++ [last])).verdicts =
      match last with
      | .checked name _ report => record (Batch.mk entries).verdicts name report.verdict
      | .unread .. | .folderEnd => (Batch.mk entries).verdicts := by
  rw [verdicts, List.foldl_append]
  rfl

/-- Every verdict of a batch is that of one of its reports. -/
theorem exists_report_of_mem_verdicts {batch : Batch} {verdict : Verdict}
    (recorded : (name, verdict) ∈ batch.verdicts) :
    ∃ fullName report,
      .checked name fullName report ∈ batch.entries ∧ verdict = report.verdict := by
  obtain ⟨entries⟩ := batch
  induction entries using List.reverseRecOn generalizing verdict with
  | nil => cases recorded
  | append_singleton before last induction =>
      -- What an earlier entry records is that of a report before the last entry.
      have earlier (recorded : (name, verdict) ∈ (Batch.mk before).verdicts) :
          ∃ fullName report, .checked name fullName report ∈ before ++ [last] ∧
            verdict = report.verdict := by
        obtain ⟨fullName, report, member, same⟩ := induction recorded
        exact ⟨fullName, report, List.mem_append_left _ member, same⟩
      rw [verdicts_concat] at recorded
      cases last with
      | checked other fullName report =>
          rcases mem_record recorded with same | before
          · cases same
            exact ⟨fullName, report, List.mem_append_right _ List.mem_cons_self, rfl⟩
          · exact earlier before
      | unread _ _ => exact earlier recorded
      | folderEnd => exact earlier recorded

/-- Every report of a batch leaves a verdict under its name. -/
theorem exists_verdict_of_mem {batch : Batch} {fullName : Option String} {report : Report}
    (member : .checked name fullName report ∈ batch.entries) :
    ∃ verdict, (name, verdict) ∈ batch.verdicts := by
  obtain ⟨entries⟩ := batch
  induction entries using List.reverseRecOn with
  | nil => cases member
  | append_singleton before last induction =>
      rw [verdicts_concat]
      rcases List.mem_append.mp member with earlier | final
      · obtain ⟨verdict, recorded⟩ := induction earlier
        cases last with
        | checked other _ report => exact exists_mem_record_of_mem recorded
        | unread _ _ => exact ⟨verdict, recorded⟩
        | folderEnd => exact ⟨verdict, recorded⟩
      · cases List.mem_singleton.mp final
        exact ⟨_, mem_record_self _ _ _⟩

end Batch

/-! ## Whole batches -/

/-- All files that some folders list are found again. -/
def Library.FindsListed (library : Library) (disk : Disk) (folders : List String) : Prop :=
  ∀ folder ∈ folders, ∀ name location content,
    library.Lists disk folder name location content → library.Finds disk name location

/-- Where all listed files are found again, every report of a batch is one on the lines of a listed
file. -/
theorem exists_listed_of_checked (tree : disk.IsTree) {folders : List String}
    (finds : library.FindsListed disk folders) {fullName : Option String} {report : Report}
    (member : .checked name fullName report ∈ (Batch.ofFolders library disk folders).entries) :
    ∃ folder ∈ folders, ∃ location content text, library.Lists disk folder name location content ∧
      Text.decode content = .ok text ∧ report = check (.lines (Library.linesOf text)) := by
  obtain ⟨folder, among, names, found, listed, present, same⟩ :=
    Batch.exists_of_mem_ofFolders member
  obtain ⟨location, content, lists⟩ := Library.exists_lists tree found present
  obtain ⟨full, made⟩ :=
    BatchEntry.ofFile_of_finds (finds folder among _ _ _ lists) lists.held
  rw [made] at same
  obtain ⟨rfl, text, decoded, reported⟩ := BatchEntry.eq_checked_of_ofContent same
  exact ⟨folder, among, location, content, text, lists, decoded, reported⟩

/-- Where all listed files are found again, a batch without a fault has a report on the lines of
every listed file. -/
theorem exists_checked_of_listed {folders : List String} {folder : String}
    (finds : library.FindsListed disk folders) (among : folder ∈ folders)
    (lists : library.Lists disk folder name location content)
    (complete : (Batch.ofFolders library disk folders).fault? = none) :
    ∃ fullName text, Text.decode content = .ok text ∧
      .checked name (some fullName) (check (.lines (Library.linesOf text))) ∈
        (Batch.ofFolders library disk folders).entries := by
  obtain ⟨names, found, present⟩ := lists.listed
  obtain ⟨full, made⟩ := BatchEntry.ofFile_of_finds (finds folder among _ _ _ lists) lists.held
  have member := Batch.mem_ofFolders complete among found present
  rw [made] at member
  have faultless := Batch.fault?_of_mem complete member
  unfold BatchEntry.ofContent at member faultless
  cases decoded : Text.decode content with
  | ok text =>
      rw [decoded] at member
      exact ⟨full, text, rfl, member⟩
  | error fault =>
      rw [decoded] at faultless
      cases faultless

/-- **A batch checks the files it lists, if the library finds them again.** Every listed name is
that of a file in the folder. The library finds that file under the name iff the name is absolute, or
the first folder of the library from which it names a file is one from which it names the same file.
Where this is so of all files that some folders list, each report of their batch is one on the lines
of a listed file; and if the batch ends without a fault, the verdict recorded under a listed name is
that of a check of the lines of the listed file. -/
theorem batch_of_listed (tree : disk.IsTree) (library : Library) :
    (∀ folder names, library.list disk folder = .ok names → ∀ name ∈ names,
      ∃ location content, library.Lists disk folder name location content ∧
        (library.Finds disk name location ↔
          Path.isAbsolute name = true ∨ library.MeetsFirst disk name location)) ∧
      ∀ folders, library.FindsListed disk folders →
        (∀ name fullName report,
          .checked name fullName report ∈ (Batch.ofFolders library disk folders).entries →
            ∃ folder ∈ folders, ∃ location content text,
              library.Lists disk folder name location content ∧
                Text.decode content = .ok text ∧ report = check (.lines (Library.linesOf text))) ∧
        ((Batch.ofFolders library disk folders).fault? = none →
          ∀ folder ∈ folders, ∀ name location content,
            library.Lists disk folder name location content →
              ∃ text, Text.decode content = .ok text ∧ ∀ verdict,
                (name, verdict) ∈ (Batch.ofFolders library disk folders).verdicts ↔
                  verdict = (check (.lines (Library.linesOf text))).verdict) := by
  refine ⟨fun folder names found name member => ?_, fun folders finds => ⟨?_, ?_⟩⟩
  · obtain ⟨location, content, lists⟩ := Library.exists_lists tree found member
    exact ⟨location, content, lists, Library.finds_iff tree lists⟩
  · exact fun name fullName report member => exists_listed_of_checked tree finds member
  · intro complete folder among name location content lists
    obtain ⟨fullName, text, decoded, member⟩ :=
      exists_checked_of_listed finds among lists complete
    -- Whatever is recorded under the name is the verdict on the one file that the name is of.
    have only : ∀ verdict, (name, verdict) ∈ (Batch.ofFolders library disk folders).verdicts →
        verdict = (check (.lines (Library.linesOf text))).verdict := by
      intro verdict recorded
      obtain ⟨_, report, reported, rfl⟩ := Batch.exists_report_of_mem_verdicts recorded
      obtain ⟨_, -, other, otherContent, otherText, otherLists, otherDecoded, rfl⟩ :=
        exists_listed_of_checked tree finds reported
      obtain rfl : other = location := by
        have same := otherLists.named.symm.trans lists.named
        cases same
        rfl
      obtain rfl : otherContent = content := by
        have same := otherLists.held.symm.trans lists.held
        cases same
        rfl
      rw [decoded] at otherDecoded
      cases otherDecoded
      rfl
    refine ⟨text, decoded, fun verdict => ⟨only verdict, ?_⟩⟩
    rintro rfl
    obtain ⟨verdict, recorded⟩ := Batch.exists_verdict_of_mem member
    exact only verdict recorded ▸ recorded

/-! ## A library that searches elsewhere -/

/-- The bytes of a program. -/
def startFinish : List UInt8 :=
  "start finish".toUTF8.toList

/-- A tree with two files that have the same path, one seen from the working folder and one seen
from a folder in it. -/
def twoFiles : Disk :=
  ((Disk.ofWorkingFolder ["home"]).addFile ["a.dopl", "good", "home"] startFinish).addFile
    ["a.dopl", "good", "p", "home"] []

/-- The files form a tree. -/
theorem isTree_twoFiles : twoFiles.IsTree := by
  decide +kernel

/-- What a folder lists does not depend on where the library searches. -/
theorem list_twoFiles (folders : List String) :
    ({ folders := folders } : Library).list twoFiles "good" = .ok ["good/a.dopl"] := by
  have searched : ({} : Library).list twoFiles "good" = .ok ["good/a.dopl"] := by decide +kernel
  exact searched

/-- The one listed name is that of the file in the working folder. -/
theorem lists_twoFiles (folders : List String) :
    ({ folders := folders } : Library).Lists twoFiles "good" "good/a.dopl"
      ["a.dopl", "good", "home"] startFinish where
  listed := ⟨_, list_twoFiles folders, List.mem_cons_self⟩
  container := by decide +kernel
  named := by decide +kernel
  held := by decide +kernel

/-- A library that searches the working folder finds the listed file again. -/
theorem findsListed_twoFiles : Library.FindsListed {} twoFiles ["good"] := by
  intro folder among name location content lists
  obtain rfl := List.mem_singleton.mp among
  obtain ⟨names, found, member⟩ := lists.listed
  rw [list_twoFiles] at found
  cases found
  obtain rfl := List.mem_singleton.mp member
  exact Library.finds_of_workingFolder isTree_twoFiles lists rfl (by decide +kernel)
    (by decide +kernel) (by decide +kernel)

/-- So its batch records the verdict on the listed file. -/
theorem batch_of_listed_workingFolder :
    ∃ text, Text.decode startFinish = .ok text ∧
      ("good/a.dopl", (check (.lines (Library.linesOf text))).verdict) ∈
        (Batch.ofFolders {} twoFiles ["good"]).verdicts := by
  have complete : (Batch.ofFolders {} twoFiles ["good"]).fault? = none := by decide +kernel
  obtain ⟨text, decoded, verdicts⟩ :=
    ((batch_of_listed isTree_twoFiles {}).2 ["good"] findsListed_twoFiles).2 complete "good"
      List.mem_cons_self "good/a.dopl" _ _ (lists_twoFiles ["."])
  exact ⟨text, decoded, (verdicts _).mpr rfl⟩

/-- A library that searches another folder does not find the listed file, but another one, and
records the verdict on that. -/
theorem exists_listed_not_found :
    ({ folders := ["p"] } : Library).Lists twoFiles "good" "good/a.dopl"
        ["a.dopl", "good", "home"] startFinish ∧
      ¬({ folders := ["p"] } : Library).Finds twoFiles "good/a.dopl" ["a.dopl", "good", "home"] ∧
      (Batch.ofFolders { folders := ["p"] } twoFiles ["good"]).verdicts =
        [("good/a.dopl", .error)] ∧
      (Batch.ofFolders {} twoFiles ["good"]).verdicts = [("good/a.dopl", .ok)] := by
  refine ⟨lists_twoFiles ["p"], ?_, by decide +kernel, by decide +kernel⟩
  rw [Library.finds_iff isTree_twoFiles (lists_twoFiles ["p"])]
  rintro (absolute | ⟨place, first, named, -⟩)
  · exact absurd absolute (by decide)
  · obtain rfl : place = "p" := List.mem_singleton.mp (List.mem_of_find?_eq_some first)
    exact absurd named (by decide +kernel)

end Dopl
