import Dopl.Proofs.Library

/-! # The order of a listing

A folder sorts its source files by the paths they have seen from it. All of these start alike, so
the files stand in the order of their names:

* **`Path.exists_before_join`** — relative paths are seen from a folder behind the same characters.
* **`Path.mergeSort_join`** — so names have the same order by themselves and seen from the folder.
* **`Library.list_eq_ok_iff`** — which names a folder lists. -/

namespace Dopl

/-! ## Texts in order -/

/-- Characters that two texts start with do not count in their order. -/
theorem append_lt_append_iff (before first second : String) :
    before ++ first < before ++ second ↔ first < second := by
  rw [String.lt_iff, String.lt_iff, String.toList_append, String.toList_append]
  induction before.toList with
  | nil => rfl
  | cons c rest induction =>
      rw [List.cons_append, List.cons_append, List.cons_lt_cons_iff, induction]
      simp

/-- Sorted texts stand in order. -/
theorem pairwise_mergeSort_texts (texts : List String) :
    (texts.mergeSort fun a b => decide (a ≤ b)).Pairwise (· ≤ ·) := by
  have sorted : (texts.mergeSort fun a b => decide (a ≤ b)).Pairwise
      fun a b => decide (a ≤ b) = true := by
    refine List.pairwise_mergeSort (fun a b c first second => ?_) (fun a b => ?_) texts
    · simpa using String.le_trans (of_decide_eq_true first) (of_decide_eq_true second)
    · simpa using String.le_total a b
  simpa using sorted

namespace Path

/-- Relative paths are seen from a folder behind the same characters. -/
theorem exists_before_join (folder : String) :
    ∃ before, ∀ path, isAbsolute path = false → join folder path = before ++ path := by
  by_cases ends : folder.toList.isEmpty || folder.toList.getLast? == some '/'
  · refine ⟨folder, fun path relative => ?_⟩
    rw [join, if_neg (by simp [relative]), if_pos ends]
  · refine ⟨folder ++ "/", fun path relative => ?_⟩
    rw [join, if_neg (by simp [relative]), if_neg ends]

/-- Names have the same order by themselves and seen from a folder. -/
theorem mergeSort_join {names : List String} (proper : ∀ name ∈ names, IsName name)
    (folder : String) :
    ((names.map (join folder)).mergeSort fun a b => decide (a ≤ b)) =
      (names.mergeSort fun a b => decide (a ≤ b)).map (join folder) := by
  obtain ⟨before, joined⟩ := exists_before_join folder
  have seen (name : String) (member : name ∈ names) : join folder name = before ++ name :=
    joined name (Disk.isAbsolute_of_isName (proper name member))
  refine (List.map_mergeSort fun first firstIn second secondIn => ?_).symm
  rw [seen first firstIn, seen second secondIn, decide_eq_decide, ← String.not_lt, ← String.not_lt,
    append_lt_append_iff]

end Path

namespace Library

variable {library : Library} {disk : Disk} {folder : String} {names : List String}

/-! ## Listings -/

/-- A folder is listed, or it is missing. -/
theorem list_cases (library : Library) (disk : Disk) (folder : String) :
    (∃ names, library.list disk folder = .ok names) ∨
      disk.names? folder = none ∧ library.list disk folder = .error (.noFolder folder) := by
  unfold list
  cases disk.names? folder with
  | none => exact .inr ⟨rfl, rfl⟩
  | some inside => exact .inl ⟨_, rfl⟩

/-- The names of the source files among those in a folder. -/
def sourcesIn (library : Library) (disk : Disk) (folder : String) (inside : List String) :
    List String :=
  inside.filter fun name => library.admits name && disk.isFile (Path.join folder name)

/-- The names in a folder are proper. -/
theorem isName_of_mem_names? (tree : disk.IsTree) {inside : List String} {name : String}
    (found : disk.names? folder = some inside) (member : name ∈ inside) : Path.IsName name := by
  unfold Disk.names? at found
  split at found
  · split at found
    · cases found
      exact isName_of_mem_namesAt tree member
    · cases found
  · cases found

/-- What a folder lists is sorted by name. -/
theorem list_of_names? (tree : disk.IsTree) (library : Library) {inside : List String}
    (found : disk.names? folder = some inside) :
    library.list disk folder =
      .ok (((library.sourcesIn disk folder inside).mergeSort fun a b => decide (a ≤ b)).map
        (Path.join folder)) := by
  have proper (name : String) (member : name ∈ library.sourcesIn disk folder inside) :
      Path.IsName name :=
    isName_of_mem_names? tree found (List.mem_filter.mp member).1
  rw [← Path.mergeSort_join proper, list, found]
  rfl

/-- **Which names a folder lists.** They are those of the source files in it, in the order of their
code points, each seen from the folder. -/
theorem list_eq_ok_iff (tree : disk.IsTree) :
    library.list disk folder = .ok names ↔
      ∃ inside sources, disk.names? folder = some inside ∧
        List.Perm sources (library.sourcesIn disk folder inside) ∧ sources.Pairwise (· ≤ ·) ∧
        names = sources.map (Path.join folder) := by
  constructor
  · intro listed
    cases found : disk.names? folder with
    | none =>
        rw [list, found] at listed
        cases listed
    | some inside =>
        rw [list_of_names? tree library found] at listed
        cases listed
        exact ⟨inside, _, rfl, List.mergeSort_perm _ _, pairwise_mergeSort_texts _, rfl⟩
  · rintro ⟨inside, sources, found, permuted, ordered, rfl⟩
    have same : ((library.sourcesIn disk folder inside).mergeSort fun a b => decide (a ≤ b)) =
        sources :=
      ((List.mergeSort_perm _ _).trans permuted.symm).eq_of_pairwise
        (fun _ _ _ _ => String.le_antisymm) (pairwise_mergeSort_texts _) ordered
    rw [list_of_names? tree library found, same]

end Library

end Dopl
