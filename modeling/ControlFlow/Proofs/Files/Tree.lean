import ControlFlow.Files
import Mathlib.Data.List.Induction
import Mathlib.Data.List.Nodup

set_option autoImplicit false

namespace ControlFlow

theorem mem_intercalate_iff {α : Type} {separator : List α} {item : α}
    (foreign : item ∉ separator) (runs : List (List α)) :
    item ∈ separator.intercalate runs ↔ ∃ run ∈ runs, item ∈ run := by
  induction runs with
  | nil => simp
  | cons first rest ih =>
    cases rest with
    | nil => simp
    | cons second others =>
      rw [List.intercalate_cons_cons, List.mem_append, List.mem_append, ih]
      simp [foreign]

theorem Path.null_mem_text (path : Path) :
    Char.ofNat 0 ∈ path.text.toList ↔
      Char.ofNat 0 ∈ path.root.toList ∨ ∃ part ∈ path.parts, Char.ofNat 0 ∈ part.toList := by
  rw [text]
  split
  · next empty =>
    rw [Bool.and_eq_true, String.isEmpty_iff, List.isEmpty_iff] at empty
    simp [empty]
  · rw [String.toList_append, List.mem_append, String.toList_intercalate,
      mem_intercalate_iff (by decide)]
    simp

namespace Files

def IsName (name : String) : Prop :=
  Path.isStep name = true ∧ name ≠ ".." ∧ '/' ∉ name.toList ∧ Char.ofNat 0 ∉ name.toList

instance : DecidablePred IsName := fun _ => inferInstanceAs (Decidable (_ ∧ _))

/-- Every entry has names that can be names, and is held by a directory. -/
structure IsTree (files : Files) : Prop where
  below : ∀ entry ∈ files.entries, entry.1 ≠ []
  named : ∀ entry ∈ files.entries, ∀ name ∈ entry.1, IsName name
  held : ∀ entry ∈ files.entries, files.lookup entry.1.dropLast = some .directory

inductive Holds (files : Files) : List String → List String → Entry → Prop where
  | file {location : List String} {name : String} {entry : Entry} :
      files.lookup (location ++ [name]) = some entry → entry ≠ .directory →
      Holds files location [name] entry
  | inside {location : List String} {name : String} {parts : List String} {entry : Entry} :
      files.lookup (location ++ [name]) = some .directory →
      Holds files (location ++ [name]) parts entry →
      Holds files location (name :: parts) entry

section

variable {files : Files}

-- The entries have distinct locations, so the first one that is found is the only one.
theorem present_iff {place : List String} (inside : place ≠ []) (entry : Entry) :
    files.lookup place = some entry ↔ (place, entry) ∈ files.entries := by
  rw [Files.lookup, if_neg inside]
  constructor
  · intro found
    obtain ⟨⟨location, kind⟩, first, rfl⟩ := Option.map_eq_some_iff.mp found
    obtain rfl : location = place := by simpa using List.find?_some first
    exact List.mem_of_find?_eq_some first
  · intro member
    cases found : files.entries.find? fun entry => entry.1 = place with
    | none => simpa using List.find?_eq_none.mp found _ member
    | some first =>
      have same : first.1 = place := by simpa using List.find?_some found
      have equal := List.inj_on_of_nodup_map files.distinct (List.mem_of_find?_eq_some found)
        member same
      rw [equal, Option.map_some]

-- Whatever there is, all that leads to it are directories.
theorem directory_above (tree : files.IsTree) {above parts : List String} {entry : Entry}
    (present : files.lookup (above ++ parts) = some entry) (inside : parts ≠ []) :
    files.lookup above = some .directory := by
  induction parts using List.reverseRecOn generalizing entry with
  | nil => exact absurd rfl inside
  | append_singleton front last ih =>
    have listed := (present_iff (by simp) entry).mp present
    have held := tree.held _ listed
    rw [← List.append_assoc, List.dropLast_concat] at held
    by_cases first : front = []
    · rwa [first, List.append_nil] at held
    · exact ih held first

section

variable {location parts : List String} {entry : Entry}

theorem present_of_holds (holds : files.Holds location parts entry) :
    files.lookup (location ++ parts) = some entry ∧ entry ≠ .directory := by
  induction holds with
  | file present regular => exact ⟨present, regular⟩
  | inside _ _ ih => simpa using ih

theorem ne_nil_of_holds (holds : files.Holds location parts entry) : parts ≠ [] := by
  cases holds <;> simp

theorem holds_of_present (tree : files.IsTree)
    (present : files.lookup (location ++ parts) = some entry) (regular : entry ≠ .directory)
    (inside : parts ≠ []) : files.Holds location parts entry := by
  induction parts generalizing location with
  | nil => exact absurd rfl inside
  | cons name rest ih =>
    by_cases last : rest = []
    · subst last
      exact .file present regular
    · have split : location ++ name :: rest = location ++ [name] ++ rest := by simp
      rw [split] at present
      exact .inside (directory_above tree present last) (ih present last)

theorem isName_of_holds (tree : files.IsTree) (holds : files.Holds location parts entry) :
    ∀ name ∈ parts, IsName name := by
  have inside : location ++ parts ≠ [] := by simp [ne_nil_of_holds holds]
  have listed := (present_iff inside _).mp (present_of_holds holds).1
  intro name member
  exact tree.named _ listed name (List.mem_append_right location member)

end

def partsBelow (location : List String) : List String × Entry → Option (List String)
  | (_, .directory) => none
  | (place, _) =>
      if location.isPrefixOf place then some (place.drop location.length) else none

theorem filesBelow_eq (files : Files) (location : List String) :
    files.filesBelow location = files.entries.filterMap (partsBelow location) := rfl

theorem partsBelow_eq_some_iff {location parts place : List String} {entry : Entry} :
    partsBelow location (place, entry) = some parts ↔
      place = location ++ parts ∧ entry ≠ .directory := by
  cases entry with
  | directory => simp [partsBelow]
  | file | locked =>
    simp only [partsBelow, Option.ite_none_right_eq_some, List.isPrefixOf_iff_prefix,
      Option.some.injEq]
    constructor
    · rintro ⟨⟨rest, rfl⟩, rfl⟩
      simp
    · rintro ⟨rfl, -⟩
      simp

theorem mem_filesBelow_iff (tree : files.IsTree) {location : List String}
    (directory : files.lookup location = some .directory) {parts : List String} :
    parts ∈ files.filesBelow location ↔ ∃ entry, files.Holds location parts entry := by
  simp only [filesBelow_eq, List.mem_filterMap, Prod.exists, partsBelow_eq_some_iff]
  constructor
  · rintro ⟨_, entry, member, rfl, regular⟩
    have present := (present_iff (tree.below _ member) _).mpr member
    refine ⟨entry, holds_of_present tree present regular ?_⟩
    rintro rfl
    rw [List.append_nil, directory] at present
    cases present
    exact regular rfl
  · rintro ⟨entry, holds⟩
    have inside : location ++ parts ≠ [] := by simp [ne_nil_of_holds holds]
    obtain ⟨present, regular⟩ := present_of_holds holds
    exact ⟨_, _, (present_iff inside _).mp present, rfl, regular⟩

theorem nodup_filesBelow (files : Files) (location : List String) :
    (files.filesBelow location).Nodup := by
  rw [filesBelow_eq, List.Nodup, List.pairwise_filterMap]
  refine (List.pairwise_map.mp files.distinct).imp ?_
  rintro first second apart parts one _ two rfl
  exact apart ((partsBelow_eq_some_iff.mp one).1.trans (partsBelow_eq_some_iff.mp two).1.symm)

theorem follow_append (path : Path) (location first second : List String) :
    files.follow path location (first ++ second) =
      files.follow path location first >>= fun next => files.follow path next second := by
  induction first generalizing location with
  | nil => rfl
  | cons part rest ih =>
    simp only [List.cons_append, follow]
    cases files.step path location part with
    | error failure => rfl
    | ok next => exact ih next

theorem step_of_directory {path : Path} {location : List String}
    (directory : files.lookup location = some .directory) {name : String} (plain : name ≠ "..") :
    files.step path location name = .ok (location ++ [name]) := by
  rw [step, directory]
  simp [plain]

-- The whole path matters to a step for its report only.
theorem follow_of_ok {path other : Path} {location parts place : List String}
    (leads : files.follow path location parts = .ok place) :
    files.follow other location parts = .ok place := by
  induction parts generalizing location with
  | nil => exact leads
  | cons part rest ih =>
    rw [follow, step] at leads ⊢
    cases present : files.lookup location with
    | none =>
      rw [present] at leads
      cases leads
    | some entry =>
      rw [present] at leads
      cases entry with
      | file | locked => cases leads
      | directory => exact ih leads

theorem follow_holds {path : Path} {location parts : List String} {entry : Entry}
    (holds : files.Holds location parts entry)
    (directory : files.lookup location = some .directory) (plain : ∀ name ∈ parts, name ≠ "..") :
    files.follow path location parts = .ok (location ++ parts) := by
  induction holds with
  | file _ _ =>
    rw [follow, step_of_directory directory (plain _ (by simp))]
    rfl
  | inside next _ ih =>
    rw [follow, step_of_directory directory (plain _ (by simp))]
    have rest := ih next fun name member => plain name (List.mem_cons_of_mem _ member)
    rw [List.append_assoc] at rest
    exact rest

theorem inspect_below (tree : files.IsTree) {root : Path} {location parts : List String}
    {entry : Entry} (located : files.locate root = .ok location)
    (directory : files.lookup location = some .directory)
    (holds : files.Holds location parts entry) :
    files.inspect (root.below parts) = .ok entry := by
  have names := isName_of_holds tree holds
  rw [locate] at located
  split at located
  · cases located
  next rootFree =>
    rw [List.contains_iff_mem, Path.null_mem_text, not_or] at rootFree
    have free : ¬(root.below parts).text.toList.contains (Char.ofNat 0) = true := by
      rw [List.contains_iff_mem, Path.null_mem_text]
      rintro (inRoot | ⟨part, member, inPart⟩)
      · exact rootFree.1 inRoot
      · rcases List.mem_append.mp member with above | inside
        · exact rootFree.2 ⟨part, above, inPart⟩
        · exact (names part inside).2.2.2 inPart
    have leads : files.locate (root.below parts) = .ok (location ++ parts) := by
      rw [locate, if_neg free, Path.below, follow_append]
      change files.follow _ (files.origin root) root.parts >>= _ = _
      rw [follow_of_ok located]
      exact follow_holds holds directory fun name member => (names name member).2.1
    rw [inspect, leads]
    simp only [bind, Except.bind, (present_of_holds holds).1]

end

end Files

end ControlFlow
