import ControlFlow.Proofs.Graph.Verify
import ControlFlow.Proofs.Settings.Loading

set_option autoImplicit false

namespace ControlFlow.Scan

theorem descendants_of_directory {files : Files} {root : Path} {location : List String}
    (located : files.locate root = .ok location)
    (directory : files.lookup location = some .directory) :
    descendants files root = inOrder (files.filesBelow location) := by
  simp only [descendants, located, directory, if_true]

theorem wanted_of_ordered {files : Files} {root : Path} {location : List String}
    {settings : Settings} (located : files.locate root = .ok location)
    (directory : files.lookup location = some .directory)
    (ordered : (files.filesBelow location).Pairwise fun first second => inSequence first second) :
    wanted files root settings =
      ((files.filesBelow location).filter (isWanted settings root)).map root.below := by
  rw [wanted, descendants_of_directory located directory, inOrder,
    List.mergeSort_of_pairwise ordered]

def causeOf {α : Type} : Except Failure α → Option Failure
  | .ok _ => none
  | .error failure => some failure

section

variable (files : Files) (timestamp : Int)

/-! The search -/

-- What a value or a failure to read one says about a file.
def probe : Except Failure Json → Bool
  | .ok value => isProgramTree value
  | .error _ => true

def skips (path : Path) : Bool :=
  path.name = Settings.fileName ||
    path.suffix = Document.treeSuffix && !probe (files.json path)

/-- A JSON file that the search probes, and whose containers stand too deep in each other. -/
structure Stops (path : Path) : Prop where
  other : path.name ≠ Settings.fileName
  suffix : path.suffix = Document.treeSuffix
  deep : files.NestsTooDeep path

def Stopped (root : Path) (settings : Settings) : Prop :=
  files.isFile root = false ∧ ∃ path ∈ wanted files root settings, Stops files path

theorem mayBeTree_eq (path : Path) :
    mayBeTree files path =
      match files.json path with
      | .ok value => .ok (isProgramTree value)
      | .error failure =>
          if failure.isSystem || failure.isValue then .ok true else .error failure := rfl

section

variable {files} {path : Path} {paths : List Path}

theorem isSkipped_of_stops (stops : Stops files path) :
    ∃ failure, isSkipped files path = .error failure ∧ failure.category = "RecursionError" := by
  obtain ⟨error, container, read, fault⟩ := stops.deep
  refine ⟨.malformedJson error, ?_, by simp only [Failure.category, fault]⟩
  rw [isSkipped, if_neg stops.other, if_pos stops.suffix, mayBeTree_eq, read]
  simp [Failure.isSystem, Failure.isValue, fault, Json.Fault.isTooDeep, Except.map]

theorem isSkipped_eq (free : ¬Stops files path) :
    isSkipped files path = .ok (skips files path) := by
  rw [isSkipped, skips]
  by_cases own : path.name = Settings.fileName
  · simp [own]
  · by_cases tree : path.suffix = Document.treeSuffix
    · have shallow : ¬files.NestsTooDeep path := fun deep => free ⟨own, tree, deep⟩
      rw [mayBeTree_eq]
      cases read : files.json path with
      | ok value => simp [own, tree, probe, Except.map]
      | error failure => simp [own, tree, probe, Files.passes_of_json read shallow, Except.map]
    · simp [own, tree]

theorem keep_result (free : ∀ path ∈ paths, ¬Stops files path) :
    (keep files paths).result = .ok (paths.filter fun path => !skips files path) := by
  induction paths with
  | nil => rfl
  | cons path rest ih =>
    rw [List.forall_mem_cons] at free
    rw [keep, isSkipped_eq free.1, Attempt.bind_result_of_ok (Attempt.ofExcept_result _)]
    cases skipped : skips files path with
    | true =>
      rw [List.filter_cons_of_neg (by simp [skipped])]
      exact (Attempt.bind_result_of_ok (Attempt.note_result _)).trans (ih free.2)
    | false =>
      rw [List.filter_cons_of_pos (by simp [skipped])]
      exact Attempt.bind_result_of_ok (ih free.2)

-- The first file that stops the search is the one that counts, wherever others stand.
theorem keep_stopped (stopped : ∃ path ∈ paths, Stops files path) :
    ∃ failure, (keep files paths).result = .error failure ∧
      failure.category = "RecursionError" := by
  induction paths with
  | nil => simp at stopped
  | cons path rest ih =>
    by_cases stops : Stops files path
    · obtain ⟨failure, refused, category⟩ := isSkipped_of_stops stops
      refine ⟨failure, ?_, category⟩
      rw [keep, refused]
      rfl
    · rw [List.exists_mem_cons_iff] at stopped
      obtain ⟨failure, failed, category⟩ := ih (stopped.resolve_left stops)
      refine ⟨failure, ?_, category⟩
      rw [keep, isSkipped_eq stops, Attempt.bind_result_of_ok (Attempt.ofExcept_result _)]
      cases skips files path with
      | true => exact (Attempt.bind_result_of_ok (Attempt.note_result _)).trans failed
      | false =>
        simp only [Bool.false_eq_true, if_false, Attempt.bind_result, failed]
        rfl

end

section

variable {files} {root : Path} {settings : Settings}

theorem discover_result (free : ¬Stopped files root settings) :
    (discover files root settings).result = .ok
      (if files.isFile root then [root]
      else (wanted files root settings).filter fun path => !skips files path) := by
  rw [discover]
  cases file : files.isFile root with
  | true => rfl
  | false =>
    simp only [Bool.false_eq_true, if_false]
    exact keep_result fun path member stops => free ⟨file, path, member, stops⟩

-- Nesting takes brackets.
theorem not_stopped (few : ∀ path ∈ wanted files root settings,
    ∀ text ∈ (files.text path).toOption, text.countP Json.isOpening ≤ files.nesting) :
    ¬Stopped files root settings := by
  rintro ⟨-, path, member, stops⟩
  obtain ⟨text, known, deep⟩ := Files.brackets_of_nestsTooDeep stops.deep
  have bounded := few path member text (by rw [known]; rfl)
  exact absurd deep (Nat.not_lt.mpr bounded)

theorem discover_stopped (stopped : Stopped files root settings) :
    ∃ failure, (discover files root settings).result = .error failure ∧
      failure.category = "RecursionError" := by
  rw [discover, stopped.1]
  exact keep_stopped stopped.2

end

/-! File after file -/

def success? (path : Path) : Option FileReport :=
  (analyze files timestamp path).result.toOption

def failure? (path : Path) : Option (Path × Failure) :=
  (causeOf (analyze files timestamp path).result).map (path, ·)

theorem analyzeEach_result (paths : List Path) (tally : Tally) :
    (analyzeEach files timestamp paths tally).result =
      .ok ⟨tally.files ++ paths.filterMap (success? files timestamp),
        tally.failed ++ paths.filterMap (failure? files timestamp)⟩ := by
  induction paths generalizing tally with
  | nil => simp [analyzeEach]
  | cons path rest ih =>
    rw [analyzeEach, Attempt.bind_result_of_ok (Attempt.outcome_result _)]
    cases made : (analyze files timestamp path).result with
    | ok report =>
      have succeeds : success? files timestamp path = some report := by
        rw [success?, made, Except.toOption]
      have holds : failure? files timestamp path = none := by
        rw [failure?, made, causeOf, Option.map_none]
      simp [ih, succeeds, holds]
    | error failure =>
      have breaks : success? files timestamp path = none := by
        rw [success?, made, Except.toOption]
      have fails : failure? files timestamp path = some (path, failure) := by
        rw [failure?, made, causeOf, Option.map_some]
      rw [Attempt.bind_result_of_ok (Attempt.note_result _)]
      simp [ih, breaks, fails]

-- Every file succeeds or fails, and not both.
theorem length_successes_failures (paths : List Path) :
    paths.length = (paths.filterMap (success? files timestamp)).length +
      (paths.filterMap (failure? files timestamp)).length := by
  induction paths with
  | nil => rfl
  | cons path rest ih =>
    rw [List.filterMap_cons, List.filterMap_cons, List.length_cons, success?, failure?]
    cases (analyze files timestamp path).result with
    | ok report =>
      simp only [Except.toOption, causeOf, Option.map_none, List.length_cons]
      omega
    | error failure =>
      simp only [Except.toOption, causeOf, Option.map_some, List.length_cons]
      omega

theorem run_result (root : Path) (settings : Settings) {found : List Path}
    (known : (discover files root settings).result = .ok found) :
    let chosen := firstOf settings.maxFiles found
    (run files root settings timestamp).result = .ok
      { attempted := chosen.length
        succeeded := (chosen.filterMap (success? files timestamp)).length
        failed := chosen.filterMap (failure? files timestamp)
        files := chosen.filterMap (success? files timestamp) } := by
  intro chosen
  rw [run, Attempt.bind_result_of_ok known, Attempt.bind_result_of_ok (Attempt.note_result _),
    Attempt.bind_result_of_ok (analyzeEach_result files timestamp chosen ⟨[], []⟩),
    Attempt.bind_result_of_ok (Attempt.note_result _)]
  rfl

theorem firstOf_positive {α : Type} {limit : Int} (positive : 1 ≤ limit) (items : List α) :
    firstOf limit items = items.take (min limit.toNat items.length) := by
  rw [firstOf, if_neg (by omega), List.take_eq_take_min]

/-! Other files -/

theorem analyze_congr {files other : Files} {path : Path} (agree : files.AgreeAt other path)
    (timestamp : Int) : analyze files timestamp path = analyze other timestamp path := by
  rw [analyze, analyze, Document.load, Document.load, Files.text_congr agree, agree.nesting]

end

theorem scan_isolates_failures (files : Files) (root : Path) (settings : Settings)
    (timestamp : Int) (positive : 1 ≤ settings.maxFiles) :
    (Stopped files root settings →
      ∃ failure, (discover files root settings).result = .error failure ∧
        (run files root settings timestamp).result = .error failure ∧
        failure.category = "RecursionError") ∧
    (¬Stopped files root settings →
      ∃ found report, (discover files root settings).result = .ok found ∧
        (run files root settings timestamp).result = .ok report ∧
        let chosen := found.take (min settings.maxFiles.toNat found.length)
        report.attempted = chosen.length ∧
        report.succeeded = report.files.length ∧
        report.attempted = report.succeeded + report.failed.length ∧
        report.files = chosen.filterMap (success? files timestamp) ∧
        report.failed = chosen.filterMap (failure? files timestamp) ∧
        ∀ path ∈ chosen, ∀ other : Files, files.AgreeAt other path →
          success? other timestamp path = success? files timestamp path ∧
            failure? other timestamp path = failure? files timestamp path) := by
  constructor
  · intro stopped
    obtain ⟨failure, failed, category⟩ := discover_stopped stopped
    refine ⟨failure, failed, ?_, category⟩
    rw [run, Attempt.bind_result, failed]
    rfl
  · intro free
    have known := discover_result free
    refine ⟨_, _, known, run_result files timestamp root settings known, ?_⟩
    rw [firstOf_positive positive]
    refine ⟨rfl, rfl, length_successes_failures files timestamp _, rfl, rfl, ?_⟩
    intro path _ other agree
    rw [success?, success?, failure?, failure?, analyze_congr agree]
    exact ⟨rfl, rfl⟩

-- One tree that is complete, and one that ends after its first character.
def brokenPair : Files :=
  oneFunctionFiles.put ["b.json"] (.file "[".toByteArray.data.toList)

def pairPaths : List Path := [⟨"", ["a.json"]⟩, ⟨"", ["b.json"]⟩]

theorem wanted_brokenPair : wanted brokenPair ⟨"", []⟩ .default = pairPaths := by
  have here : brokenPair.locate ⟨"", []⟩ = .ok [] := by decide +kernel
  rw [wanted_of_ordered here rfl (by decide +kernel)]
  decide +kernel

theorem scan_isolates_failures_broken_pair :
    ¬Stopped brokenPair ⟨"", []⟩ .default ∧
    ∃ report, (run brokenPair ⟨"", []⟩ .default 0).result = .ok report ∧
      report.attempted = 2 ∧ report.succeeded = 1 ∧
      report.failed.map (fun entry => (entry.1.text, entry.2.category)) =
        [("b.json", "JSONDecodeError")] ∧
      ∀ content, success? (brokenPair.put ["b.json"] (.file content)) 0 ⟨"", ["a.json"]⟩ =
        success? brokenPair 0 ⟨"", ["a.json"]⟩ := by
  have free : ¬Stopped brokenPair ⟨"", []⟩ .default := by
    apply not_stopped
    rw [wanted_brokenPair]
    decide +kernel
  have search : (discover brokenPair ⟨"", []⟩ .default).result = .ok pairPaths := by
    have folder : brokenPair.isFile ⟨"", []⟩ = false := by decide +kernel
    rw [discover_result free, folder, wanted_brokenPair]
    decide +kernel
  obtain ⟨found, report, known, ran, attempted, succeeded, -, passed, failed, apart⟩ :=
    (scan_isolates_failures brokenPair ⟨"", []⟩ .default 0 (by decide)).2 free
  obtain rfl : pairPaths = found := Except.ok.inj (search.symm.trans known)
  refine ⟨free, report, ran, attempted, ?_, ?_, ?_⟩
  · rewrite [succeeded, passed]
    decide +kernel
  · rewrite [failed]
    decide +kernel
  · intro content
    have agree : brokenPair.AgreeAt (brokenPair.put ["b.json"] (.file content))
        ⟨"", ["a.json"]⟩ := Files.put_agreeAt rfl (by decide) content
    exact (apart ⟨"", ["a.json"]⟩ (by decide) _ agree).1

def bracketFiles : Files :=
  (Files.empty []).put ["a.json"] (.file (List.replicate (Json.usualRoom + 1) 0x5b))

theorem bracketFiles_stopped : Stopped bracketFiles ⟨"", []⟩ .default := by
  have read : bracketFiles.text ⟨"", ["a.json"]⟩ =
      .ok (List.replicate (bracketFiles.nesting + 1) '[' ++ []) := by
    refine Files.text_of_encoding rfl ?_ (by simp)
    simp [List.flatMap_replicate, String.utf8EncodeChar, bracketFiles, Files.put, Files.empty]
  have below : bracketFiles.filesBelow [] = [["a.json"]] := rfl
  have here : bracketFiles.locate ⟨"", []⟩ = .ok [] := by decide +kernel
  refine ⟨by decide +kernel, ⟨"", ["a.json"]⟩, ?_, by decide, by decide +kernel,
    Files.nestsTooDeep_of_brackets [] read⟩
  rw [wanted_of_ordered here rfl (by rw [below]; decide), below]
  decide +kernel

theorem brackets_stop_scan :
    ∃ failure, (run bracketFiles ⟨"", []⟩ .default 0).result = .error failure ∧
      failure.category = "RecursionError" := by
  obtain ⟨failure, failed, category⟩ := discover_stopped bracketFiles_stopped
  refine ⟨failure, ?_, category⟩
  rw [run, Attempt.bind_result, failed]
  rfl

end ControlFlow.Scan
