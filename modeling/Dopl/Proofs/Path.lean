import Dopl.Path

/-! # The components of paths

What becomes of the components of a path where paths are put together:

* **`components_intercalate`** — names without slashes are read back from a path that has slashes
  between them.
* **`exists_components_join`** — a path seen from a folder has the components of the folder and then
  its own.
* **`addComponents`** — all the components of a path added to a location, and
  **`addComponents_join`** what that makes of a path seen from a folder. -/

namespace Dopl.Path

/-! ## Pieces between slashes -/

/-- There is always a piece. -/
theorem splitSlashes_ne_nil (text : List Char) : splitSlashes text ≠ [] := by
  cases text with
  | nil => exact List.cons_ne_nil [] []
  | cons c rest =>
      unfold splitSlashes
      split
      · exact List.cons_ne_nil _ _
      · split <;> exact List.cons_ne_nil _ _

/-- A slash stands between two pieces. -/
theorem splitSlashes_append (first second : List Char) :
    splitSlashes (first ++ '/' :: second) = splitSlashes first ++ splitSlashes second := by
  induction first with
  | nil => rfl
  | cons c rest induction =>
      rw [List.cons_append, splitSlashes, splitSlashes]
      by_cases slash : c = '/'
      · rw [if_pos slash, if_pos slash, induction, List.cons_append]
      · rw [if_neg slash, if_neg slash, induction]
        -- The character belongs to the first piece, and there is one.
        cases pieces : splitSlashes rest with
        | nil => exact absurd pieces (splitSlashes_ne_nil rest)
        | cons piece others => rfl

/-- Without a slash there is one piece. -/
theorem splitSlashes_of_not_mem {text : List Char} (absent : '/' ∉ text) :
    splitSlashes text = [text] := by
  induction text with
  | nil => rfl
  | cons c rest induction =>
      obtain ⟨other, others⟩ := List.ne_and_not_mem_of_not_mem_cons absent
      rw [splitSlashes, if_neg (Ne.symm other), induction others]

/-! ## Components -/

/-- There is always a component. -/
theorem components_ne_nil (path : String) : components path ≠ [] := by
  rw [components, Ne, List.map_eq_nil_iff]
  exact splitSlashes_ne_nil path.toList

/-- A slash stands between two components. -/
theorem components_append (first second : String) :
    components (first ++ "/" ++ second) = components first ++ components second := by
  have slash : (first ++ "/" ++ second).toList = first.toList ++ '/' :: second.toList := by
    simp
  rw [components, slash, splitSlashes_append, List.map_append]
  rfl

/-- Behind a slash the components go on. -/
theorem components_slash (path : String) : components ("/" ++ path) = "" :: components path :=
  components_append "" path

/-- A name is its own only component. -/
theorem components_of_not_mem {name : String} (absent : '/' ∉ name.toList) :
    components name = [name] := by
  rw [components, splitSlashes_of_not_mem absent, List.map_singleton, String.ofList_toList]

/-- Names with slashes between them are read back. -/
theorem components_intercalate {names : List String} (some : names ≠ [])
    (absent : ∀ name ∈ names, '/' ∉ name.toList) : components ("/".intercalate names) = names := by
  induction names with
  | nil => exact absurd rfl some
  | cons first rest induction =>
      obtain ⟨absentFirst, absentRest⟩ := List.forall_mem_cons.mp absent
      cases rest with
      | nil => exact components_of_not_mem absentFirst
      | cons second others =>
          rw [String.intercalate_cons_cons, components_append, components_of_not_mem absentFirst,
            induction (List.cons_ne_nil second others) absentRest]
          rfl

/-! ## Absolute paths -/

/-- A normalised path starts with one slash or with two. -/
theorem leadingSlashes_eq (path : String) :
    leadingSlashes path = "/" ∨ leadingSlashes path = "//" := by
  unfold leadingSlashes
  split
  · exact .inl rfl
  · exact .inr rfl
  · exact .inl rfl

/-! ## Paths seen from folders -/

/-- How a relative path is seen from a folder: from the empty one it is what it was, from another it
stands behind the slash that ends the folder, or behind one more. -/
theorem join_cases (folder : String) {path : String} (relative : isAbsolute path = false) :
    folder = "" ∧ join folder path = path ∨
      (∃ outer, folder = outer ++ "/" ∧ join folder path = outer ++ "/" ++ path) ∨
      folder ≠ "" ∧ join folder path = folder ++ "/" ++ path := by
  unfold join
  rw [if_neg (by simp [relative])]
  rcases List.eq_nil_or_concat folder.toList with empty | ⟨outer, last, text⟩
  · refine .inl ⟨String.toList_injective empty, ?_⟩
    have none : folder = "" := String.toList_injective empty
    rw [none]
    simp
  · have some : folder ≠ "" := by
      rintro rfl
      simp at text
    rw [List.concat_eq_append] at text
    by_cases slash : last = '/'
    · have ends : folder = String.ofList outer ++ "/" := by
        apply String.toList_injective
        simp [text, slash]
      refine .inr (.inl ⟨String.ofList outer, ends, ?_⟩)
      rw [if_pos (by simp [text, slash]), ← ends]
    · refine .inr (.inr ⟨some, ?_⟩)
      rw [if_neg (by simp [text, slash])]

/-- Seen from a folder, a path stands at the end, behind characters of the folder and slashes. -/
theorem exists_join_eq (folder path : String) :
    ∃ before, join folder path = before ++ path ∧
      ∀ c ∈ before.toList, c ∈ folder.toList ∨ c = '/' := by
  cases absolute : isAbsolute path with
  | true => exact ⟨"", by rw [join, if_pos absolute, String.empty_append], by simp⟩
  | false =>
      rcases join_cases folder absolute with ⟨-, same⟩ | ⟨outer, ends, same⟩ | ⟨-, same⟩
      · exact ⟨"", by rw [same, String.empty_append], by simp⟩
      · exact ⟨outer ++ "/", same, fun c member => .inl (ends ▸ member)⟩
      · refine ⟨folder ++ "/", same, fun c member => ?_⟩
        rw [String.toList_append, List.mem_append] at member
        exact member.imp id (by simp)

/-- What a path starts with tells whether it is absolute. -/
theorem isAbsolute_append {first : String} (some : first ≠ "") (second : String) :
    isAbsolute (first ++ second) = isAbsolute first := by
  unfold isAbsolute
  rw [String.toList_append]
  cases text : first.toList with
  | nil => exact absurd (String.toList_injective text) some
  | cons c rest => rfl

/-- A path seen from a folder is absolute iff it or the folder is. -/
theorem isAbsolute_join (folder path : String) :
    isAbsolute (join folder path) = (isAbsolute path || isAbsolute folder) := by
  cases absolute : isAbsolute path with
  | true => rw [join, if_pos absolute, absolute, Bool.true_or]
  | false =>
      rw [Bool.false_or]
      rcases join_cases folder absolute with ⟨rfl, same⟩ | ⟨outer, ends, same⟩ | ⟨some, same⟩
      · rw [same, absolute]
        rfl
      · rw [same, ← ends, isAbsolute_append]
        rw [ends]
        simp
      · rw [same, isAbsolute_append (by simp), isAbsolute_append some]

/-- Seen from a folder, a relative path has the components of the folder, but for an empty one at
their end, and then its own. -/
theorem exists_components_join (folder : String) {path : String}
    (relative : isAbsolute path = false) :
    ∃ pieces, components (join folder path) = pieces ++ components path ∧
      (components folder = pieces ∨ components folder = pieces ++ [""]) := by
  rcases join_cases folder relative with ⟨rfl, same⟩ | ⟨outer, rfl, same⟩ | ⟨-, same⟩
  · exact ⟨[], by rw [same, List.nil_append], .inr rfl⟩
  · refine ⟨components outer, by rw [same, components_append], .inr ?_⟩
    have behind := components_append outer ""
    rw [String.append_empty] at behind
    exact behind
  · exact ⟨components folder, by rw [same, components_append], .inl rfl⟩

/-! ## Adding components -/

/-- All the components of a path added to those of an absolute path, the innermost first. -/
def addComponents (inner : List String) (path : String) : List String :=
  (components path).foldl addComponent inner

/-- Seen from a folder, a relative path adds the components of the folder and then its own. -/
theorem addComponents_join (inner : List String) (folder : String) {path : String}
    (relative : isAbsolute path = false) :
    addComponents inner (join folder path) = addComponents (addComponents inner folder) path := by
  obtain ⟨pieces, joined, before | before⟩ := exists_components_join folder relative
  · rw [addComponents, addComponents, addComponents, joined, before, List.foldl_append]
  · -- The empty component that ends the folder adds nothing.
    rw [addComponents, addComponents, addComponents, joined, before, List.foldl_append,
      List.foldl_append]
    rfl

/-- A path is normalised to the components it adds to the root. -/
theorem exists_normalise_eq (path : String) :
    ∃ slashes, (slashes = "/" ∨ slashes = "//") ∧
      normalise path = ofComponents slashes (addComponents [] path) :=
  ⟨leadingSlashes path, leadingSlashes_eq path, rfl⟩

end Dopl.Path
