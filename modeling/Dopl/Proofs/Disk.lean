import Dopl.Disk
import Dopl.Proofs.Path

/-! # Paths in a tree

In a tree every entry lies in a folder and has a name that a path can hold. So a path may be
normalised without a look at the tree, and names what it named before:

* **`Disk.IsTree`** — entries lie in folders, under proper names.
* **`Disk.walk_append`**, **`Disk.eq_of_walk`** — where components lead, if they lead anywhere.
* **`Disk.resolve_ofComponents`** — an entry is found under its normalised path.
* **`Disk.resolve_absolute`** — the absolute path of a path names the same entry, unless it is too
  long to name anything. -/

namespace Dopl

/-! ## Trees -/

/-- The text can be the name of an entry: it is not empty, is no self or parent component, holds no
slash and no null character, and is short enough. -/
def Path.IsName (name : String) : Prop :=
  name ≠ "" ∧ name ≠ "." ∧ name ≠ ".." ∧ '/' ∉ name.toList ∧ '\x00' ∉ name.toList ∧
    name.utf8ByteSize ≤ Disk.longestName

/-- Whether a text can be a name can be decided. -/
instance (name : String) : Decidable (Path.IsName name) :=
  inferInstanceAs (Decidable (_ ∧ _))

namespace Disk

/-- The location lies in a folder, under a proper name. -/
def IsPlaced (disk : Disk) : Location → Prop
  | [] => False
  | name :: parent => Path.IsName name ∧ disk.hasFolder parent = true

/-- Whether a location lies in a folder can be decided. -/
instance (disk : Disk) (location : Location) : Decidable (disk.IsPlaced location) :=
  match location with
  | [] => inferInstanceAs (Decidable False)
  | _ :: _ => inferInstanceAs (Decidable (_ ∧ _))

/-- The entries form a tree, and the working folder is a folder in it. -/
structure IsTree (disk : Disk) : Prop where
  /-- Every entry lies in a folder, under a proper name. -/
  placed : ∀ entry ∈ disk.entries, disk.IsPlaced entry.1
  /-- Relative paths start in a folder. -/
  working : disk.hasFolder disk.workingFolder = true

/-- Whether the entries form a tree can be decided. -/
instance (disk : Disk) : Decidable disk.IsTree :=
  decidable_of_iff ((∀ entry ∈ disk.entries, disk.IsPlaced entry.1) ∧
      disk.hasFolder disk.workingFolder = true)
    ⟨fun ⟨placed, working⟩ => ⟨placed, working⟩, fun tree => ⟨tree.placed, tree.working⟩⟩

variable {disk : Disk} {location : Location}

/-- A folder is an entry. -/
theorem isSome_of_hasFolder (folder : disk.hasFolder location = true) :
    (disk.entry? location).isSome = true := by
  rw [hasFolder, beq_iff_eq] at folder
  rw [folder]
  rfl

namespace IsTree

/-- An entry other than the root lies in a folder, under a proper name. -/
theorem isPlaced (tree : disk.IsTree) {name : String} {parent : Location}
    (present : (disk.entry? (name :: parent)).isSome = true) : disk.IsPlaced (name :: parent) := by
  unfold entry? at present
  rw [if_neg (List.cons_ne_nil name parent)] at present
  obtain ⟨entry, found⟩ := Option.isSome_iff_exists.mp present
  obtain ⟨before, after, same, -⟩ := List.lookup_eq_some_iff.mp found
  refine tree.placed (name :: parent, entry) ?_
  rw [same]
  simp

/-- The names on the way to an entry are proper. -/
theorem isName (tree : disk.IsTree) (present : (disk.entry? location).isSome = true) :
    ∀ name ∈ location, Path.IsName name := by
  induction location with
  | nil => exact fun _ member => absurd member List.not_mem_nil
  | cons name parent induction =>
      obtain ⟨proper, folder⟩ := tree.isPlaced present
      exact List.forall_mem_cons.mpr ⟨proper, induction (isSome_of_hasFolder folder)⟩

end IsTree

/-! ## Following components -/

/-- Components are followed one list after the other. -/
theorem walk_append (disk : Disk) (location : Location) (first second : List String) :
    disk.walk location (first ++ second) =
      (disk.walk location first).bind fun middle => disk.walk middle second := by
  induction first generalizing location with
  | nil => rfl
  | cons component rest induction =>
      rw [List.cons_append, walk, walk]
      repeat' split
      all_goals first | exact induction _ | rfl

/-- A component that is followed stays in a folder, goes to the one it lies in, or goes to an
entry; it leads where the component alone says. -/
theorem walk_cons_eq_ok {component : String} {rest : List String} {reached : Location}
    (walked : disk.walk location (component :: rest) = .ok reached) :
    disk.walk (Path.addComponent location component) rest = .ok reached ∧
      (Path.addComponent location component = location ∨
        Path.addComponent location component = location.tail ∨
        (disk.entry? (Path.addComponent location component)).isSome = true) := by
  rw [walk] at walked
  rw [Path.addComponent]
  split at walked
  · split at walked
    · next stays =>
      rw [if_pos stays]
      exact ⟨walked, .inl rfl⟩
    · next moves =>
      rw [if_neg moves]
      split at walked
      · next up =>
        rw [if_pos up]
        exact ⟨walked, .inr (.inl rfl)⟩
      · next down =>
        rw [if_neg down]
        split at walked
        · cases walked
        · split at walked
          · next present => exact ⟨walked, .inr (.inr present)⟩
          · cases walked
  · cases walked

/-- Where components lead is told by the components alone. -/
theorem eq_of_walk {components : List String} {reached : Location}
    (walked : disk.walk location components = .ok reached) :
    reached = components.foldl Path.addComponent location := by
  induction components generalizing location with
  | nil =>
      cases walked
      rfl
  | cons component rest induction => exact induction (walk_cons_eq_ok walked).1

/-- From an entry of a tree, components lead to entries only. -/
theorem isSome_of_walk (tree : disk.IsTree) {components : List String} {reached : Location}
    (present : (disk.entry? location).isSome = true)
    (walked : disk.walk location components = .ok reached) :
    (disk.entry? reached).isSome = true := by
  induction components generalizing location with
  | nil =>
      cases walked
      exact present
  | cons component rest induction =>
      obtain ⟨further, stays | up | down⟩ := walk_cons_eq_ok walked
      · refine induction ?_ further
        rw [stays]
        exact present
      · refine induction ?_ further
        rw [up]
        -- The folder that an entry lies in is an entry, and the root lies in itself.
        cases location with
        | nil => exact present
        | cons name parent => exact isSome_of_hasFolder (tree.isPlaced present).2
      · exact induction down further

/-- A name leads from a folder to the entry that has it. -/
theorem walk_name {name : String} (proper : Path.IsName name)
    (folder : disk.hasFolder location = true)
    (present : (disk.entry? (name :: location)).isSome = true) :
    disk.walk location [name] = .ok (name :: location) := by
  obtain ⟨some, notSelf, notParent, -, -, short⟩ := proper
  simp only [walk, folder, some, notSelf, notParent, Nat.not_lt.mpr short, present, if_true,
    or_self, if_false]

/-- From the root, the names on the way to an entry lead to it. The induction is on the folders it
lies in, the innermost of which comes last on the way. -/
theorem walk_reverse (tree : disk.IsTree) (present : (disk.entry? location).isSome = true) :
    disk.walk [] location.reverse = .ok location := by
  induction location with
  | nil => rfl
  | cons name parent induction =>
      obtain ⟨proper, folder⟩ := tree.isPlaced present
      rw [List.reverse_cons, walk_append, induction (isSome_of_hasFolder folder)]
      exact walk_name proper folder present

/-- Seen from a folder, a relative path is followed from where the folder is. -/
theorem walk_join (disk : Disk) (location : Location) (folder : String) {path : String}
    (relative : Path.isAbsolute path = false) :
    disk.walk location (Path.components (Path.join folder path)) =
      (disk.walk location (Path.components folder)).bind fun middle =>
        disk.walk middle (Path.components path) := by
  obtain ⟨pieces, joined, before | before⟩ := Path.exists_components_join folder relative
  · rw [joined, before, walk_append]
  · rw [joined, before, walk_append, walk_append]
    -- The empty component that ends the folder only asks for a folder, as the path itself does.
    cases disk.walk location pieces with
    | error fault => rfl
    | ok middle =>
        obtain ⟨first, rest, same⟩ := List.exists_cons_of_ne_nil (Path.components_ne_nil path)
        show disk.walk middle (Path.components path) =
          (disk.walk middle [""]).bind fun reached => disk.walk reached (Path.components path)
        rw [same, walk, walk]
        cases folder : disk.hasFolder middle with
        | true =>
            simp only [if_true, true_or, walk]
            show _ = disk.walk middle (first :: rest)
            rw [walk, if_pos folder]
        | false => rfl

/-- A name is a relative path. -/
theorem isAbsolute_of_isName {name : String} (proper : Path.IsName name) :
    Path.isAbsolute name = false := by
  have absent : '/' ∉ name.toList := proper.2.2.2.1
  unfold Path.isAbsolute
  cases text : name.toList with
  | nil => rfl
  | cons c rest =>
      have other : c ≠ '/' := by
        rintro rfl
        exact absent (text ▸ List.mem_cons_self)
      simp [other]

/-! ## What paths name -/

/-- A path names a location iff it can name anything and its components lead there. -/
theorem resolve_eq_ok_iff {path : String} :
    disk.resolve path = .ok location ↔
      path ≠ "" ∧ '\x00' ∉ path.toList ∧ path.utf8ByteSize ≤ longestPath ∧
        disk.walk (disk.origin path) (Path.components path) = .ok location := by
  unfold resolve Path.hasNull
  by_cases some : path = ""
  · simp [some]
  · by_cases null : '\x00' ∈ path.toList
    · simp [some, null]
    · by_cases long : longestPath < path.utf8ByteSize
      · simp [some, null, long, Nat.not_le.mpr long]
      · simp [some, null, long, Nat.not_lt.mp long]

/-- What a path names in a tree is an entry. -/
theorem isSome_of_resolve (tree : disk.IsTree) {path : String}
    (named : disk.resolve path = .ok location) : (disk.entry? location).isSome = true := by
  obtain ⟨-, -, -, walked⟩ := resolve_eq_ok_iff.mp named
  refine isSome_of_walk tree ?_ walked
  unfold origin
  split
  · rfl
  · exact isSome_of_hasFolder tree.working

/-- A path is read iff it names a file. -/
theorem read_eq_ok_iff {path : String} {content : List UInt8} :
    disk.read path = .ok content ↔
      ∃ location, disk.resolve path = .ok location ∧
        disk.entry? location = some (.file content) := by
  unfold read
  cases named : disk.resolve path with
  | error fault => simp [bind, Except.bind]
  | ok location =>
      cases held : disk.entry? location with
      | none => simp [bind, Except.bind, held]
      | some entry => cases entry <;> simp [bind, Except.bind, held]

/-- A path names a file iff it can be read. -/
theorem isFile_iff {path : String} :
    disk.isFile path = true ↔
      ∃ location content, disk.resolve path = .ok location ∧
        disk.entry? location = some (.file content) := by
  have read : disk.isFile path = true ↔ ∃ content, disk.read path = .ok content := by
    unfold isFile
    cases disk.read path <;> simp [Except.isOk, Except.toBool]
  rw [read]
  simp only [read_eq_ok_iff]
  exact exists_comm

/-- Seen from a folder, a relative path starts where the folder does. -/
theorem origin_join (disk : Disk) (folder : String) {path : String}
    (relative : Path.isAbsolute path = false) :
    disk.origin (Path.join folder path) = disk.origin folder := by
  rw [origin, Path.isAbsolute_join, relative, Bool.false_or, origin]

/-- Seen from a folder, a name names nothing but what lies in the folder under that name. -/
theorem eq_of_resolve_join {folder name : String} {container : Location}
    (proper : Path.IsName name) (there : disk.resolve folder = .ok container)
    (named : disk.resolve (Path.join folder name) = .ok location) :
    location = name :: container := by
  have relative := isAbsolute_of_isName proper
  obtain ⟨-, -, -, before⟩ := resolve_eq_ok_iff.mp there
  obtain ⟨-, -, -, walked⟩ := resolve_eq_ok_iff.mp named
  rw [origin_join disk folder relative, walk_join disk _ folder relative, before,
    Path.components_of_not_mem proper.2.2.2.1] at walked
  have reached := eq_of_walk (show disk.walk container [name] = .ok location from walked)
  obtain ⟨some, notSelf, notParent, -⟩ := proper
  rw [reached, List.foldl_cons, List.foldl_nil, Path.addComponent,
    if_neg (not_or.mpr ⟨some, notSelf⟩), if_neg notParent]

/-! ## Absolute paths -/

/-- No null character stands in names with slashes between them. -/
theorem not_mem_intercalate {names : List String} (proper : ∀ name ∈ names, Path.IsName name) :
    '\x00' ∉ ("/".intercalate names).toList := by
  induction names with
  | nil => simp
  | cons first rest induction =>
      obtain ⟨properFirst, properRest⟩ := List.forall_mem_cons.mp proper
      have absent : '\x00' ∉ first.toList := properFirst.2.2.2.2.1
      cases rest with
      | nil => simpa using absent
      | cons second others =>
          have others := induction properRest
          rw [String.intercalate_cons_cons, String.toList_append, String.toList_append,
            List.mem_append, List.mem_append]
          rintro ((here | slash) | later)
          · exact absent here
          · exact absurd slash (by decide)
          · exact others later

/-- A path that starts with a slash is absolute. -/
theorem isAbsolute_ofComponents {slashes : String} (leading : slashes = "/" ∨ slashes = "//")
    (inner : List String) : Path.isAbsolute (Path.ofComponents slashes inner) = true := by
  rcases leading with rfl | rfl <;> rw [Path.ofComponents, Path.isAbsolute_append (by decide)] <;>
    decide

/-- The components of the normalised path of an entry lead to it from the root. -/
theorem walk_ofComponents (tree : disk.IsTree) {slashes : String}
    (leading : slashes = "/" ∨ slashes = "//")
    (present : (disk.entry? location).isSome = true) :
    disk.walk [] (Path.components (Path.ofComponents slashes location)) = .ok location := by
  -- Behind the slashes that lead, the components are the names on the way to the entry.
  have inner : disk.walk [] (Path.components ("/".intercalate location.reverse)) =
      .ok location := by
    by_cases root : location = []
    · subst root
      rfl
    · have absent : ∀ name ∈ location.reverse, '/' ∉ name.toList := fun name member =>
        (tree.isName present name (List.mem_reverse.mp member)).2.2.2.1
      rw [Path.components_intercalate (by simpa using root) absent]
      exact walk_reverse tree present
  rcases leading with rfl | rfl
  · rw [Path.ofComponents, Path.components_slash]
    exact inner
  · have both : Path.ofComponents "//" location =
        "/" ++ ("/" ++ "/".intercalate location.reverse) := by
      rw [Path.ofComponents, ← String.append_assoc]
      rfl
    rw [both, Path.components_slash, Path.components_slash]
    exact inner

/-- An entry of a tree is found under its normalised path, if that is short enough. -/
theorem resolve_ofComponents (tree : disk.IsTree) {slashes : String}
    (leading : slashes = "/" ∨ slashes = "//")
    (present : (disk.entry? location).isSome = true)
    (short : (Path.ofComponents slashes location).utf8ByteSize ≤ longestPath) :
    disk.resolve (Path.ofComponents slashes location) = .ok location := by
  refine resolve_eq_ok_iff.mpr ⟨?_, ?_, short, ?_⟩
  · rcases leading with rfl | rfl <;> simp [Path.ofComponents]
  · have null := not_mem_intercalate fun name member =>
      tree.isName present name (List.mem_reverse.mp member)
    rw [Path.ofComponents, String.toList_append, List.mem_append, not_or]
    refine ⟨?_, null⟩
    rcases leading with rfl | rfl <;> decide
  · rw [origin, if_pos (isAbsolute_ofComponents leading location)]
    exact walk_ofComponents tree leading present

/-- The path of the working folder adds the working folder to the root. -/
theorem addComponents_workingFolder (tree : disk.IsTree) :
    Path.addComponents [] (Location.path disk.workingFolder) = disk.workingFolder :=
  (eq_of_walk (walk_ofComponents tree (.inl rfl) (isSome_of_hasFolder tree.working))).symm

/-- The absolute path of a path names what the path names, unless it is too long to name
anything. -/
theorem resolve_absolute (tree : disk.IsTree) {path : String}
    (named : disk.resolve path = .ok location)
    (short : (disk.absolute path).utf8ByteSize ≤ longestPath) :
    disk.resolve (disk.absolute path) = .ok location := by
  obtain ⟨-, -, -, walked⟩ := resolve_eq_ok_iff.mp named
  obtain ⟨slashes, leading, same⟩ :=
    Path.exists_normalise_eq (Path.join (Location.path disk.workingFolder) path)
  have added : Path.addComponents [] (Path.join (Location.path disk.workingFolder) path) =
      location := by
    rw [eq_of_walk walked, origin]
    cases absolute : Path.isAbsolute path with
    | true => rw [Path.join, if_pos absolute, if_pos rfl, Path.addComponents]
    | false =>
        rw [Path.addComponents_join [] _ absolute, addComponents_workingFolder tree,
          if_neg Bool.false_ne_true, Path.addComponents]
  rw [absolute, Path.absolute, same, added] at short ⊢
  exact resolve_ofComponents tree leading (isSome_of_resolve tree named) short

end Disk

end Dopl
