import ControlFlow.Document
import Mathlib.Data.List.Basic

set_option autoImplicit false

namespace ControlFlow

def Entry.isDirectory : Entry → Bool
  | .directory => true
  | .file _ | .locked => false

namespace Files

-- Whether a place is taken, and then whether by a directory.
def kind? (files : Files) (location : List String) : Option Bool := do
  let entry ← files.lookup location
  return entry.isDirectory

-- The same places are taken, by directories or by files of any content.
structure SameKinds (files other : Files) : Prop where
  here : files.here = other.here
  nesting : files.nesting = other.nesting
  kinds : ∀ location, files.kind? location = other.kind? location

-- Trees that differ at most in what files hold, and not in what the path leads to.
structure AgreeAt (files other : Files) (path : Path) : Prop extends SameKinds files other where
  content : ∀ location, files.locate path = .ok location →
    files.lookup location = other.lookup location

section

variable {files other : Files}

theorem step_congr (same : files.SameKinds other) (path : Path) (location : List String)
    (part : String) : files.step path location part = other.step path location part := by
  have kind := same.kinds location
  rw [kind?, kind?] at kind
  rw [step, step]
  cases mine : files.lookup location with
  | none =>
    cases theirs : other.lookup location with
    | none => rfl
    | some entry => simp [mine, theirs] at kind
  | some entry =>
    cases theirs : other.lookup location with
    | none => simp [mine, theirs] at kind
    | some counterpart =>
      cases entry <;> cases counterpart <;> simp [mine, theirs, Entry.isDirectory] at kind <;> rfl

theorem follow_congr (same : files.SameKinds other) (path : Path) (location parts : List String) :
    files.follow path location parts = other.follow path location parts := by
  induction parts generalizing location with
  | nil => rfl
  | cons part rest ih => simp only [follow, step_congr same, ih]

theorem locate_congr (same : files.SameKinds other) (path : Path) :
    files.locate path = other.locate path := by
  rw [locate, locate, origin, origin, same.here]
  simp only [follow_congr same]

theorem text_congr {path : Path} (agree : files.AgreeAt other path) :
    files.text path = other.text path := by
  have place := locate_congr agree.toSameKinds path
  have found : files.inspect path = other.inspect path := by
    rw [inspect, inspect, ← place]
    cases located : files.locate path with
    | error failure => rfl
    | ok location => simp only [bind, Except.bind, agree.content location located]
  rw [text, text, bytes, bytes, found]

end

theorem lookup_put (files : Files) {location : List String} (below : location ≠ [])
    (entry : Entry) (place : List String) :
    Files.lookup (files.put location entry) place =
      if place = location then some entry else files.lookup place := by
  rw [Files.lookup, Files.lookup, put, find?_upsert]
  by_cases root : place = []
  · subst root
    simp [Ne.symm below]
  · simp [root]

theorem ne_nil_of_file {files : Files} {location : List String} {bytes : List UInt8}
    (present : files.lookup location = some (.file bytes)) : location ≠ [] := by
  rintro rfl
  cases present

theorem put_agreeAt {files : Files} {location : List String} {bytes : List UInt8}
    (present : files.lookup location = some (.file bytes)) {path : Path}
    (elsewhere : files.locate path ≠ .ok location) (content : List UInt8) :
    files.AgreeAt (files.put location (.file content)) path where
  here := rfl
  nesting := rfl
  kinds := by
    intro place
    rw [kind?, kind?, lookup_put files (ne_nil_of_file present)]
    by_cases same : place = location
    · simp [same, present, Entry.isDirectory]
    · simp [same]
  content := by
    intro place located
    rw [lookup_put files (ne_nil_of_file present), if_neg]
    rintro rfl
    exact elsewhere located

/-- One file is made or replaced, and nothing else changes. -/
structure Rewrites (files after : Files) (location : List String) (content : List UInt8) :
    Prop where
  here : after.here = files.here
  notDirectory : files.lookup location ≠ some .directory
  unlocked : files.lookup location ≠ some .locked
  content : after.lookup location = some (.file content)
  elsewhere : ∀ place, place ≠ location → after.lookup place = files.lookup place

theorem write_rewrites {files after : Files} {path : Path} {text : String}
    (written : files.write path text = .ok after) :
    ∃ location, files.locate path = .ok location ∧
      files.Rewrites after location text.toUTF8.toList := by
  rw [write] at written
  cases located : files.locate path with
  | error failure =>
    rw [located] at written
    cases written
  | ok location =>
    rw [located] at written
    have free : files.lookup location ≠ some .directory := by
      intro directory
      simp [directory, bind, Except.bind] at written
    have unlocked : files.lookup location ≠ some .locked := by
      intro locked
      simp [locked, bind, Except.bind] at written
    have placed : files.put location (.file text.toUTF8.toList) = after := by
      simpa only [bind, Except.bind, Except.ok.injEq] using written
    have below : location ≠ [] := by
      rintro rfl
      exact free rfl
    have looks := lookup_put files below (.file text.toUTF8.toList)
    rw [placed] at looks
    refine ⟨location, rfl, by rw [← placed]; rfl, free, unlocked, by simp [looks], ?_⟩
    intro place other
    simp [looks, other]

section

variable {files : Files} {path : Path} {failure : Failure}

theorem follow_failure {location parts : List String}
    (failed : files.follow path location parts = .error failure) : failure.isSystem = true := by
  induction parts generalizing location with
  | nil => cases failed
  | cons part rest ih =>
    rw [follow, step] at failed
    cases present : files.lookup location with
    | none =>
      rw [present] at failed
      cases failed
      rfl
    | some entry =>
      rw [present] at failed
      cases entry with
      | file | locked =>
        cases failed
        rfl
      | directory => exact ih failed

theorem locate_failure (failed : files.locate path = .error failure) :
    (failure.isSystem || failure.isValue) = true := by
  rw [locate] at failed
  split at failed
  · cases failed
    rfl
  · rw [follow_failure failed, Bool.true_or]

theorem inspect_failure (failed : files.inspect path = .error failure) :
    (failure.isSystem || failure.isValue) = true := by
  rw [inspect] at failed
  cases located : files.locate path with
  | error cause =>
    rw [located] at failed
    cases failed
    exact locate_failure located
  | ok location =>
    rw [located] at failed
    cases present : files.lookup location with
    | some entry => simp [present, bind, Except.bind] at failed
    | none =>
      simp only [present, bind, Except.bind, Except.error.injEq] at failed
      rw [← failed]
      rfl

theorem entry_failure {entry : Entry} (failed : entry.bytes path = .error failure) :
    failure.isSystem = true := by
  cases entry <;> cases failed <;> rfl

theorem decode_failure {content : List UInt8} (refused : decode content = .error failure) :
    ∃ error, failure = .undecodable error := by
  rw [decode] at refused
  split at refused <;> cases refused
  exact ⟨_, rfl⟩

theorem text_failure (failed : files.text path = .error failure) :
    (failure.isSystem || failure.isValue) = true := by
  rw [text, bytes] at failed
  cases found : files.inspect path with
  | error cause =>
    rw [found] at failed
    cases failed
    exact inspect_failure found
  | ok entry =>
    rw [found] at failed
    cases held : entry.bytes path with
    | error cause =>
      simp only [bind, Except.bind, held, Except.error.injEq] at failed
      rw [← failed, entry_failure held, Bool.true_or]
    | ok content =>
      simp only [bind, Except.bind, held] at failed
      obtain ⟨error, rfl⟩ := decode_failure failed
      rfl

end

end Files

end ControlFlow
