import ControlFlow.Proofs.Files.Tree
import ControlFlow.Proofs.Scan
import Mathlib.Data.List.Lex
import Mathlib.Data.String.Basic

set_option autoImplicit false

namespace ControlFlow.Scan

/-! The order of paths -/

theorem inSequence_iff (first second : List String) :
    inSequence first second = true ↔ ¬second < first := by
  induction first generalizing second with
  | nil => simp [inSequence]
  | cons a rest ih =>
    cases second with
    | nil => simp [inSequence]
    | cons b others =>
      rw [inSequence, List.cons_lt_cons_iff]
      by_cases same : a = b
      · simp [same, ih]
      · have apart : b ≠ a := Ne.symm same
        simp [same, apart, lt_iff_le_and_ne]

theorem inOrder_sorted {paths : List (List String)} (distinct : paths.Nodup) :
    (inOrder paths).Pairwise (· < ·) := by
  have perm : (inOrder paths).Perm paths := List.mergeSort_perm paths inSequence
  have sorted : (inOrder paths).Pairwise fun first second => inSequence first second = true := by
    apply List.pairwise_mergeSort
    · intro a b c
      simp only [inSequence_iff, not_lt]
      exact le_trans
    · intro a b
      rw [Bool.or_eq_true, inSequence_iff, inSequence_iff, not_lt, not_lt]
      exact le_total a b
  have apart : (inOrder paths).Pairwise (· ≠ ·) := perm.nodup_iff.mpr distinct
  refine (sorted.and apart).imp fun {first second} before => ?_
  exact lt_of_le_of_ne (not_lt.mp ((inSequence_iff first second).mp before.1)) before.2

theorem mem_inOrder (paths : List (List String)) (parts : List String) :
    parts ∈ inOrder paths ↔ parts ∈ paths :=
  (List.mergeSort_perm paths inSequence).mem_iff

/-! The probe -/

def MayBeProgram (read : Except Failure Json) : Prop :=
  (∃ failure, read = .error failure) ∨
    ∃ fields, read = .ok (.obj fields) ∧ Json.lookup fields "type" = some (.str "Program")

theorem isProgramTree_iff (value : Json) :
    isProgramTree value = true ↔
      ∃ fields, value = .obj fields ∧ Json.lookup fields "type" = some (.str "Program") := by
  cases value with
  | obj fields =>
    rw [isProgramTree, Json.get]
    cases type : Json.lookup fields "type" with
    | none => simp [type]
    | some value => cases value <;> simp [type]
  | null | bool | int | float | str | arr => simp [isProgramTree]

theorem probe_iff (read : Except Failure Json) : probe read = true ↔ MayBeProgram read := by
  cases read with
  | error failure => simp [probe, MayBeProgram]
  | ok value => simp [probe, MayBeProgram, isProgramTree_iff]

/-! What the probe turns down -/

theorem load_of_foreign {value : Json} (foreign : isProgramTree value = false) :
    ∃ failure, Program.load value = .error failure ∧ failure.category = "InvalidInputError" := by
  cases value with
  | null => exact ⟨.missingRoot, rfl, rfl⟩
  | obj fields =>
    refine ⟨.rootNotProgram, ?_, rfl⟩
    rw [isProgramTree] at foreign
    rw [Program.load]
    split
    · next type => simp [type] at foreign
    · rfl
  | bool | int | float | str | arr => exact ⟨.rootNotProgram, rfl, rfl⟩

theorem load_of_turned_down {files : Files} {path : Path}
    (suffix : path.suffix = Document.treeSuffix) (turnedDown : probe (files.json path) = false) :
    ∃ failure, (Document.load files path).result = .error failure ∧
      failure.category = "InvalidInputError" := by
  cases read : files.json path with
  | error failure =>
    rw [read] at turnedDown
    cases turnedDown
  | ok value =>
    rw [read] at turnedDown
    obtain ⟨failure, refused, invalid⟩ := load_of_foreign turnedDown
    refine ⟨failure, ?_, invalid⟩
    rw [Files.json] at read
    cases found : files.text path with
    | error cause =>
      rw [found] at read
      cases read
    | ok text =>
      rw [found] at read
      change Document.readJson files.nesting text = .ok value at read
      rw [Document.load, found, Attempt.bind_result_of_ok (Attempt.ofExcept_result _),
        Document.ofText, if_pos suffix, Attempt.ofExcept_result, Document.ofTree, read]
      simp only [bind, Except.bind, refused]

theorem analyze_of_unloadable {files : Files} {path : Path} {failure : Failure}
    (refused : (Document.load files path).result = .error failure) (timestamp : Int) :
    (analyze files timestamp path).result = .error failure := by
  rw [analyze, Attempt.bind_result, refused]
  rfl

/-! Candidates -/

/-- A regular file below a root that the settings ask for and that does not hold settings. -/
structure Candidate (files : Files) (root : Path) (settings : Settings) (parts : List String)
    (entry : Entry) : Prop where
  held : ∃ location, files.locate root = .ok location ∧ files.Holds location parts entry
  suffix : (root.below parts).suffix ∈ settings.extensions
  included : ∀ directory ∈ parts.dropLast, directory ∉ settings.excluded
  other : (root.below parts).name ≠ ".flowgraph.json"

theorem Candidate.holds {files : Files} {root : Path} {settings : Settings} {parts : List String}
    {entry : Entry} (candidate : Candidate files root settings parts entry)
    {location : List String} (located : files.locate root = .ok location) :
    files.Holds location parts entry := by
  obtain ⟨place, same, holds⟩ := candidate.held
  obtain rfl : location = place := Except.ok.inj (located.symm.trans same)
  exact holds

def jsonOf (nesting : Nat) (path : Path) (entry : Entry) : Except Failure Json := do
  let content ← entry.bytes path
  let text ← Files.decode content
  Document.readJson nesting text

theorem isWanted_iff (settings : Settings) (root : Path) (parts : List String) :
    isWanted settings root parts = true ↔
      (root.below parts).suffix ∈ settings.extensions ∧
        ∀ directory ∈ parts.dropLast, directory ∉ settings.excluded := by
  simp [isWanted]

theorem below_sorted {root : Path} {first second : List String} (before : first < second) :
    (root.below first).parts < (root.below second).parts :=
  List.append_left_lt before

section

variable {files : Files} {root : Path} {location : List String}

theorem located_of_isDirectory (directory : files.isDirectory root = true) :
    ∃ location, files.locate root = .ok location ∧
      files.lookup location = some .directory := by
  rw [Files.isDirectory, Files.inspect] at directory
  cases located : files.locate root with
  | error failure => simp [located, bind, Except.bind] at directory
  | ok location =>
    cases present : files.lookup location with
    | none => simp [located, present, bind, Except.bind] at directory
    | some entry =>
      cases entry with
      | file | locked => simp [located, present, bind, Except.bind] at directory
      | directory => exact ⟨location, rfl, present⟩

theorem not_isFile_of_isDirectory (directory : files.isDirectory root = true) :
    files.isFile root = false := by
  rw [Files.isDirectory] at directory
  rw [Files.isFile]
  split at directory
  · next found => rw [found]
  · cases directory

theorem wanted_sorted (located : files.locate root = .ok location)
    (directory : files.lookup location = some .directory) (settings : Settings) :
    ((wanted files root settings).map Path.parts).Pairwise (· < ·) := by
  rw [wanted, descendants_of_directory located directory, List.pairwise_map, List.pairwise_map]
  have sorted := inOrder_sorted (Files.nodup_filesBelow files location)
  exact (sorted.filter _).imp below_sorted

theorem mem_wanted (tree : files.IsTree) (located : files.locate root = .ok location)
    (directory : files.lookup location = some .directory) (settings : Settings) (path : Path) :
    path ∈ wanted files root settings ↔
      ∃ parts, root.below parts = path ∧ (∃ entry, files.Holds location parts entry) ∧
        isWanted settings root parts = true := by
  simp only [wanted, descendants_of_directory located directory, List.mem_map, List.mem_filter,
    mem_inOrder, Files.mem_filesBelow_iff tree directory]
  constructor
  · rintro ⟨parts, ⟨held, chosen⟩, same⟩
    exact ⟨parts, same, held, chosen⟩
  · rintro ⟨parts, same, held, chosen⟩
    exact ⟨parts, ⟨held, chosen⟩, same⟩

end

def kept (files : Files) (root : Path) (settings : Settings) : List Path :=
  (wanted files root settings).filter fun path => !skips files path

section

variable {files : Files} {root : Path} {settings : Settings}

theorem discover_kept (directory : files.isDirectory root = true)
    (free : ¬Stopped files root settings) :
    (discover files root settings).result = .ok (kept files root settings) := by
  rw [discover_result free, not_isFile_of_isDirectory directory]
  rfl

theorem kept_sorted (directory : files.isDirectory root = true) :
    ((kept files root settings).map Path.parts).Pairwise (· < ·) := by
  obtain ⟨location, located, present⟩ := located_of_isDirectory directory
  have sorted := List.pairwise_map.mp (wanted_sorted located present settings)
  exact List.pairwise_map.mpr (sorted.filter _)

theorem candidate_of_mem_wanted (tree : files.IsTree) (directory : files.isDirectory root = true)
    {path : Path} (member : path ∈ wanted files root settings)
    (other : path.name ≠ Settings.fileName) :
    ∃ parts entry, path = root.below parts ∧ Candidate files root settings parts entry := by
  obtain ⟨location, located, present⟩ := located_of_isDirectory directory
  rw [mem_wanted tree located present] at member
  obtain ⟨parts, rfl, ⟨entry, holds⟩, chosen⟩ := member
  obtain ⟨suffix, included⟩ := (isWanted_iff settings root parts).mp chosen
  exact ⟨parts, entry, rfl, ⟨location, located, holds⟩, suffix, included, other⟩

section

variable {parts : List String} {entry : Entry}
  (candidate : Candidate files root settings parts entry)

include candidate

theorem mem_wanted_of_candidate (tree : files.IsTree)
    (directory : files.isDirectory root = true) :
    root.below parts ∈ wanted files root settings := by
  obtain ⟨location, located, present⟩ := located_of_isDirectory directory
  have chosen := (isWanted_iff settings root parts).mpr ⟨candidate.suffix, candidate.included⟩
  exact (mem_wanted tree located present settings _).mpr
    ⟨parts, rfl, ⟨entry, candidate.holds located⟩, chosen⟩

theorem json_of_candidate (tree : files.IsTree) (directory : files.isDirectory root = true) :
    files.json (root.below parts) = jsonOf files.nesting (root.below parts) entry := by
  obtain ⟨location, located, present⟩ := located_of_isDirectory directory
  have found := Files.inspect_below tree located present (candidate.holds located)
  rw [Files.json, Files.text, Files.bytes, found, jsonOf]
  simp only [bind, Except.bind]
  cases entry.bytes (root.below parts) <;> rfl

theorem mem_kept_iff (tree : files.IsTree) (directory : files.isDirectory root = true) :
    root.below parts ∈ kept files root settings ↔
      ((root.below parts).suffix = Document.treeSuffix →
        probe (jsonOf files.nesting (root.below parts) entry) = true) := by
  have listed := mem_wanted_of_candidate candidate tree directory
  have other : (root.below parts).name ≠ Settings.fileName := candidate.other
  rw [kept, List.mem_filter, skips, json_of_candidate candidate tree directory]
  by_cases json : (root.below parts).suffix = Document.treeSuffix <;> simp [listed, other, json]

end

theorem stopped_iff (tree : files.IsTree) (directory : files.isDirectory root = true) :
    Stopped files root settings ↔
      ∃ parts entry, Candidate files root settings parts entry ∧
        (root.below parts).suffix = ".json" ∧
        Files.IsTooDeep (jsonOf files.nesting (root.below parts) entry) := by
  constructor
  · rintro ⟨-, path, member, stops⟩
    obtain ⟨parts, entry, rfl, candidate⟩ :=
      candidate_of_mem_wanted tree directory member stops.other
    refine ⟨parts, entry, candidate, stops.suffix, ?_⟩
    rw [← json_of_candidate candidate tree directory]
    exact stops.deep
  · rintro ⟨parts, entry, candidate, suffix, deep⟩
    rw [← json_of_candidate candidate tree directory] at deep
    exact ⟨not_isFile_of_isDirectory directory, _,
      mem_wanted_of_candidate candidate tree directory, candidate.other, suffix, deep⟩

end

theorem discovery_exact (files : Files) (root : Path) (settings : Settings) (tree : files.IsTree)
    (directory : files.isDirectory root = true) :
    ((∃ parts entry, Candidate files root settings parts entry ∧
        (root.below parts).suffix = ".json" ∧
        Files.IsTooDeep (jsonOf files.nesting (root.below parts) entry)) →
      ∃ failure, (discover files root settings).result = .error failure ∧
        failure.category = "RecursionError") ∧
    ((∀ parts entry, Candidate files root settings parts entry →
        (root.below parts).suffix = ".json" →
        ¬Files.IsTooDeep (jsonOf files.nesting (root.below parts) entry)) →
      ∃ found, (discover files root settings).result = .ok found ∧
        (found.map Path.parts).Pairwise (· < ·) ∧
        (∀ path, path ∈ found ↔
          ∃ parts entry, path = root.below parts ∧
            Candidate files root settings parts entry ∧
            (path.suffix = ".json" → MayBeProgram (jsonOf files.nesting path entry))) ∧
        ∀ parts entry, Candidate files root settings parts entry → root.below parts ∉ found →
          (root.below parts).suffix = ".json" ∧
            ∃ failure, failure.category = "InvalidInputError" ∧
              (Document.load files (root.below parts)).result = .error failure ∧
              ∀ timestamp,
                (analyze files timestamp (root.below parts)).result = .error failure) := by
  rw [← stopped_iff tree directory]
  refine ⟨discover_stopped, fun shallow => ?_⟩
  have free : ¬Stopped files root settings := by
    rw [stopped_iff tree directory]
    rintro ⟨parts, entry, candidate, suffix, deep⟩
    exact shallow parts entry candidate suffix deep
  refine ⟨kept files root settings, discover_kept directory free, kept_sorted directory, ?_, ?_⟩
  · intro path
    constructor
    · intro member
      have listed := List.mem_filter.mp member
      have other : path.name ≠ Settings.fileName := by
        intro own
        simp [skips, own] at listed
      obtain ⟨parts, entry, rfl, candidate⟩ :=
        candidate_of_mem_wanted tree directory listed.1 other
      have passes := (mem_kept_iff candidate tree directory).mp member
      exact ⟨parts, entry, rfl, candidate, fun suffix => (probe_iff _).mp (passes suffix)⟩
    · rintro ⟨parts, entry, rfl, candidate, passes⟩
      refine (mem_kept_iff candidate tree directory).mpr fun suffix => ?_
      exact (probe_iff _).mpr (passes suffix)
  · intro parts entry candidate absent
    rw [mem_kept_iff candidate tree directory, Classical.not_imp, Bool.not_eq_true] at absent
    obtain ⟨suffix, turnedDown⟩ := absent
    rw [← json_of_candidate candidate tree directory] at turnedDown
    obtain ⟨failure, refused, invalid⟩ := load_of_turned_down suffix turnedDown
    exact ⟨suffix, failure, invalid, refused, analyze_of_unloadable refused⟩

def programBytes : List UInt8 := "\x7b\"type\": \"Program\"\x7d".toUTF8.toList

def emptyBytes : List UInt8 := "\x7b\x7d".toUTF8.toList

-- A tree of a program below a directory, a source file, an object that is no program, a text that
-- ends too soon, a file that may not be read, and a source file in a directory that is left out.
def mixedFiles : Files where
  here := []
  entries := [(["a"], .directory), (["a", "b.json"], .file programBytes), (["a.py"], .file []),
    (["c.json"], .file emptyBytes), (["d.json"], .file "[".toUTF8.toList), (["f.json"], .locked),
    (["venv"], .directory), (["venv", "e.py"], .file [])]
  distinct := by decide
  nesting := Json.usualRoom

theorem wanted_mixedFiles : wanted mixedFiles ⟨"", []⟩ .default =
    ((mixedFiles.filesBelow []).filter (isWanted .default ⟨"", []⟩)).map (Path.below ⟨"", []⟩) :=
  wanted_of_ordered (by decide +kernel) rfl (by decide +kernel)

theorem discovery_exact_mixed :
    mixedFiles.IsTree ∧ (discover mixedFiles ⟨"", []⟩ .default).result =
      .ok [⟨"", ["a", "b.json"]⟩, ⟨"", ["a.py"]⟩, ⟨"", ["d.json"]⟩, ⟨"", ["f.json"]⟩] ∧
      ∃ failure, failure.category = "InvalidInputError" ∧
        (Document.load mixedFiles ⟨"", ["c.json"]⟩).result = .error failure := by
  have tree : mixedFiles.IsTree := ⟨by decide +kernel, by decide +kernel, by decide +kernel⟩
  have directory : mixedFiles.isDirectory ⟨"", []⟩ = true := by decide +kernel
  have free : ¬Stopped mixedFiles ⟨"", []⟩ .default := by
    apply not_stopped
    rw [wanted_mixedFiles]
    decide +kernel
  have search : kept mixedFiles ⟨"", []⟩ .default =
      [⟨"", ["a", "b.json"]⟩, ⟨"", ["a.py"]⟩, ⟨"", ["d.json"]⟩, ⟨"", ["f.json"]⟩] := by
    rw [kept, wanted_mixedFiles]
    decide +kernel
  obtain ⟨found, known, -, -, dropped⟩ :=
    (discovery_exact mixedFiles ⟨"", []⟩ .default tree directory).2
      fun parts entry candidate suffix deep =>
        free ((stopped_iff tree directory).mpr ⟨parts, entry, candidate, suffix, deep⟩)
  have same := Except.ok.inj (known.symm.trans (discover_kept directory free))
  rw [search] at same
  subst same
  have candidate : Candidate mixedFiles ⟨"", []⟩ .default ["c.json"] (.file emptyBytes) :=
    ⟨⟨[], by decide +kernel, .file (by decide +kernel) (by decide)⟩, by decide +kernel,
      by decide +kernel, by decide +kernel⟩
  obtain ⟨-, failure, invalid, refused, -⟩ := dropped ["c.json"] _ candidate (by decide)
  exact ⟨tree, known, failure, invalid, refused⟩

theorem brackets_stop_discovery :
    bracketFiles.IsTree ∧ bracketFiles.isDirectory ⟨"", []⟩ = true ∧
      ∀ found, (discover bracketFiles ⟨"", []⟩ .default).result ≠ .ok found := by
  obtain ⟨failure, failed, -⟩ := discover_stopped bracketFiles_stopped
  refine ⟨⟨by decide +kernel, by decide +kernel, by decide +kernel⟩, by decide +kernel, ?_⟩
  intro found known
  cases failed.symm.trans known

end ControlFlow.Scan
