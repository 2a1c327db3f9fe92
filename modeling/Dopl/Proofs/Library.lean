import Dopl.Library
import Dopl.Proofs.Disk

/-! # Whether a listed file is found again

A folder is listed from the working folder, but a relative name is looked for in the folders of the
library, so the file that is found need not be the one listed:

* **`Library.Lists`** — a folder lists a file under a name, and **`Library.exists_lists`** — every
  listed name is that of a file in the folder.
* **`Library.Finds`** — a library finds the file at a location under a name.
* **`Library.finds_iff`** — when the file found is the one listed.
* **`Library.finds_of_workingFolder`** — it is where the working folder is searched first. -/

namespace Dopl

namespace Library

variable {library : Library} {disk : Disk} {folder name : String} {location : Location}
  {content : List UInt8}

/-! ## Listed files -/

/-- A folder lists a file under a name: the file lies directly in the folder and has the content. -/
structure Lists (library : Library) (disk : Disk) (folder name : String) (location : Location)
    (content : List UInt8) : Prop where
  /-- The name is one of those listed. -/
  listed : ∃ names, library.list disk folder = .ok names ∧ name ∈ names
  /-- The file lies in the folder. -/
  container : disk.resolve folder = .ok location.tail
  /-- The name is that of the file. -/
  named : disk.resolve name = .ok location
  /-- The bytes of the file. -/
  held : disk.entry? location = some (.file content)

/-- The names in a folder are proper. -/
theorem isName_of_mem_namesAt (tree : disk.IsTree) {base : String}
    (member : base ∈ disk.namesAt location) : Path.IsName base := by
  obtain ⟨⟨place, entry⟩, present, named⟩ := List.mem_filterMap.mp member
  have placed := tree.placed _ present
  cases place with
  | nil => cases named
  | cons own parent =>
      dsimp only at named
      split at named
      · cases named
        exact placed.1
      · cases named

/-- A listed name is a proper name seen from the folder; it ends as the names of source files do and
is that of a file. -/
theorem exists_base_of_listed (tree : disk.IsTree) {names : List String}
    (listed : library.list disk folder = .ok names) (member : name ∈ names) :
    ∃ container base, disk.resolve folder = .ok container ∧ name = Path.join folder base ∧
      Path.IsName base ∧ library.admits base = true ∧ disk.isFile name = true := by
  unfold list at listed
  split at listed
  · cases listed
  · next inside found =>
    cases listed
    rw [List.mem_mergeSort] at member
    obtain ⟨base, source, rfl⟩ := List.mem_map.mp member
    obtain ⟨present, admitted⟩ := List.mem_filter.mp source
    rw [Bool.and_eq_true] at admitted
    unfold Disk.names? at found
    split at found
    · next container there =>
      split at found
      · cases found
        exact ⟨container, base, there, rfl, isName_of_mem_namesAt tree present, admitted.1,
          admitted.2⟩
      · cases found
    · cases found

/-- Every listed name is that of a file in the folder. -/
theorem exists_lists (tree : disk.IsTree) {names : List String}
    (listed : library.list disk folder = .ok names) (member : name ∈ names) :
    ∃ location content, library.Lists disk folder name location content := by
  obtain ⟨container, base, there, rfl, proper, -, file⟩ :=
    exists_base_of_listed tree listed member
  obtain ⟨location, content, named, held⟩ := Disk.isFile_iff.mp file
  obtain rfl := Disk.eq_of_resolve_join proper there named
  exact ⟨base :: container, content, ⟨names, listed, member⟩, there, named, held⟩

/-- A listed name ends as the names of source files do, also seen from the folder. -/
theorem Lists.admits (tree : disk.IsTree)
    (lists : library.Lists disk folder name location content) : library.admits name = true := by
  obtain ⟨names, listed, member⟩ := lists.listed
  obtain ⟨container, base, -, rfl, proper, admitted, -⟩ := exists_base_of_listed tree listed member
  obtain ⟨before, same, -⟩ := Path.exists_join_eq folder base
  unfold Library.admits at admitted ⊢
  rw [List.isSuffixOf_iff_suffix] at admitted ⊢
  rw [same, String.toList_append]
  exact admitted.trans (List.suffix_append _ _)

/-! ## Finding a file -/

/-- Under the name the library finds the file at the location. -/
def Finds (library : Library) (disk : Disk) (name : String) (location : Location) : Prop :=
  ∃ fullName, library.locate disk name = .ok fullName ∧ disk.resolve fullName = .ok location

/-- The first folder of the library from which the name names a file is one from which it names the
file at the location, and the absolute path of that is short enough. -/
def MeetsFirst (library : Library) (disk : Disk) (name : String) (location : Location) : Prop :=
  ∃ place, library.folders.find? (fun place => disk.isFile (Path.join place name)) = some place ∧
    disk.resolve (Path.join place name) = .ok location ∧
    (disk.absolute (Path.join place name)).utf8ByteSize ≤ Disk.longestPath

/-- A name that ends as those of source files do has the full name that is found for it. -/
theorem locate_of_admits (admitted : library.admits name = true) :
    library.locate disk name = library.fullName disk name := by
  rw [locate, checkName, if_pos admitted]
  rfl

/-- **When the file found is the one listed.** A listed file is found under its name iff the name is
absolute, or the first folder of the library from which it names a file is one from which it names
the same file. -/
theorem finds_iff (tree : disk.IsTree) (lists : library.Lists disk folder name location content) :
    library.Finds disk name location ↔
      Path.isAbsolute name = true ∨ library.MeetsFirst disk name location := by
  have file : disk.isFile name = true :=
    Disk.isFile_iff.mpr ⟨location, content, lists.named, lists.held⟩
  rw [Finds, locate_of_admits (lists.admits tree), fullName]
  cases absolute : Path.isAbsolute name with
  | true =>
      rw [if_pos rfl, if_pos file]
      exact ⟨fun _ => .inl rfl, fun _ => ⟨name, rfl, lists.named⟩⟩
  | false =>
      rw [if_neg Bool.false_ne_true, MeetsFirst]
      cases first : library.folders.find? fun place => disk.isFile (Path.join place name) with
      | none => simp
      | some place =>
          have met := List.find?_some first
          obtain ⟨other, _, reached, -⟩ := Disk.isFile_iff.mp met
          constructor
          · rintro ⟨fullName, same, named⟩
            cases same
            -- The absolute path names something, so it is short enough, and names the file met.
            obtain ⟨-, -, short, -⟩ := Disk.resolve_eq_ok_iff.mp named
            rw [Disk.resolve_absolute tree reached short] at named
            cases named
            exact .inr ⟨place, rfl, reached, short⟩
          · rintro (impossible | ⟨_, same, named, short⟩)
            · cases impossible
            · cases same
              exact ⟨_, rfl, Disk.resolve_absolute tree named short⟩

/-- Where the folder that is searched first is the working folder, a listed file is found under its
name, unless the paths that are tried are too long to name anything. -/
theorem finds_of_workingFolder (tree : disk.IsTree)
    (lists : library.Lists disk folder name location content) {place : String}
    {others : List String} (first : library.folders = place :: others)
    (working : disk.resolve place = .ok disk.workingFolder)
    (short : (Path.join place name).utf8ByteSize ≤ Disk.longestPath)
    (absoluteShort : (disk.absolute (Path.join place name)).utf8ByteSize ≤ Disk.longestPath) :
    library.Finds disk name location := by
  rw [finds_iff tree lists]
  cases absolute : Path.isAbsolute name with
  | true => exact .inl rfl
  | false =>
      obtain ⟨some, null, -, walked⟩ := Disk.resolve_eq_ok_iff.mp lists.named
      obtain ⟨-, placeNull, -, placed⟩ := Disk.resolve_eq_ok_iff.mp working
      rw [Disk.origin, absolute, if_neg Bool.false_ne_true] at walked
      -- Seen from the working folder, the name leads where it leads by itself.
      have named : disk.resolve (Path.join place name) = .ok location := by
        obtain ⟨before, same, characters⟩ := Path.exists_join_eq place name
        refine Disk.resolve_eq_ok_iff.mpr ⟨?_, ?_, short, ?_⟩
        · rw [same]
          simp [some]
        · rw [same, String.toList_append, List.mem_append, not_or]
          exact ⟨fun member => (characters _ member).elim placeNull (by decide), null⟩
        · rw [Disk.origin_join disk place absolute, Disk.walk_join disk _ place absolute, placed]
          exact walked
      have met : disk.isFile (Path.join place name) = true :=
        Disk.isFile_iff.mpr ⟨location, content, named, lists.held⟩
      refine .inr ⟨place, ?_, named, absoluteShort⟩
      rw [first, List.find?_cons, met]

end Library

end Dopl
