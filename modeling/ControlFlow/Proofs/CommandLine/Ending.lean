import ControlFlow.CommandLine.Run
import ControlFlow.Proofs.Graph.Verify
import ControlFlow.Proofs.Settings.Loading
import ControlFlow.Proofs.Wire.Malformed

set_option autoImplicit false

namespace ControlFlow.CommandLine

/-! Failures that are handled -/

def escapingCategories : List String :=
  ["AttributeError", "TypeError", "OverflowError", "RecursionError"]

theorem isHandled_eq_false_iff (failure : Failure) :
    isHandled failure = false ↔ failure.category ∈ escapingCategories := by
  cases failure with
  | malformedJson error =>
    cases fault : error.fault <;>
      simp [isHandled, Failure.category, escapingCategories, fault, Json.Fault.isTooDeep]
  | _ => simp [isHandled, Failure.category, escapingCategories]

def Handled {α : Type} (result : Except Failure α) : Prop :=
  ∀ failure, result = .error failure → isHandled failure = true

section

variable {α β : Type}

theorem handled_ok (value : α) : Handled (.ok value) := by
  intro failure failed
  cases failed

theorem handled_error {failure : Failure} (handled : isHandled failure = true) :
    Handled (.error failure : Except Failure α) := by
  intro other failed
  cases failed
  exact handled

theorem Handled.bind {first : Except Failure α} {next : α → Except Failure β}
    (early : Handled first) (late : ∀ value, first = .ok value → Handled (next value)) :
    Handled (first >>= next) := by
  cases first with
  | error failure => exact handled_error (early failure rfl)
  | ok value => exact late value rfl

theorem Handled.map {first : Except Failure α} {wrap : α → β} (early : Handled first) :
    Handled (first.map wrap) := by
  cases first with
  | error failure => exact handled_error (early failure rfl)
  | ok value => exact handled_ok _

theorem Handled.mapM {step : α → Except Failure β} (each : ∀ item, Handled (step item))
    (items : List α) : Handled (items.mapM step) := by
  induction items with
  | nil => exact handled_ok []
  | cons item rest ih =>
    rw [List.mapM_cons]
    exact (each item).bind fun _ _ => ih.bind fun _ _ => handled_ok _

-- What comes after the first part cannot bring a failure that is not handled.
theorem Handled.bind_eq_error_iff {first : Except Failure α} {next : α → Except Failure β}
    (late : ∀ value, Handled (next value)) {failure : Failure}
    (unhandled : isHandled failure = false) :
    first >>= next = .error failure ↔ first = .error failure := by
  cases first with
  | error other => constructor <;> rintro ⟨⟩ <;> rfl
  | ok value =>
    constructor
    · intro failed
      have handled := late value failure failed
      simp [unhandled] at handled
    · intro impossible
      cases impossible

end

/-! Files -/

section

variable (files : Files) (path : Path)

theorem isHandled_of_reading {failure : Failure}
    (cause : (failure.isSystem || failure.isValue) = true) : isHandled failure = true := by
  cases failure <;> first | rfl | exact cause

theorem locate_handled : Handled (files.locate path) :=
  fun _ failed => isHandled_of_reading (Files.locate_failure failed)

theorem write_handled (text : String) : Handled (files.write path text) := by
  refine (locate_handled files path).bind fun location _ => ?_
  split
  · exact handled_error rfl
  · exact handled_error rfl
  · exact handled_ok _

end

/-! Graphs -/

theorem shown_handled (value : Json) : Handled value.text := by
  rw [Json.text]
  split
  · exact handled_ok _
  · exact handled_error rfl

theorem written_handled (value : Json) : Handled value.written := by
  rw [Json.written]
  split
  · exact handled_ok _
  · exact handled_error rfl

theorem graph_handled (program : Program) (metadata : Metadata) (function : Option String)
    (timestamp : Int) : Handled (program.graph metadata (selectionOf function) timestamp) := by
  cases function with
  | none =>
    simp only [selectionOf, Program.graph]
    split
    · exact handled_error rfl
    · exact handled_ok _
  | some name =>
    rw [selectionOf]
    split
    · exact handled_ok _
    · simp only [Program.graph]
      split
      · exact handled_error rfl
      · exact handled_ok _

-- Without functions there is one group without members.
theorem verify_ofFunctions (functions : List FunctionDecl) (stamp : Stamp) :
    ∃ problems, (Graph.ofFunctions functions stamp).verify = .ok problems := by
  cases functions with
  | nil => exact ⟨_, rfl⟩
  | cons function rest => exact ⟨_, (ofFunctions_passes (function :: rest) stamp (by simp)).1⟩

theorem verify_handled {program : Program} {metadata : Metadata} {selection : Selection}
    {timestamp : Int} {graph : Graph}
    (built : program.graph metadata selection timestamp = .ok graph) : Handled graph.verify := by
  rcases graph_cases built with ⟨functions, stamp, rfl⟩ | ⟨name, body, stamp, rfl⟩
  · obtain ⟨problems, verified⟩ := verify_ofFunctions functions stamp
    rw [verified]
    exact handled_ok problems
  · rw [(ofFunction_passes name body stamp).1]
    exact handled_ok []

theorem draw_handled (graph : Graph) (name : String) : Handled (Dot.draw graph (.str name)) := by
  have found : ∀ id, Handled (graph.node id) := by
    intro id
    rw [Graph.node]
    split
    · exact handled_ok _
    · exact handled_error rfl
  have boxes : ∀ containers index, Handled (Dot.clusters graph index containers) := by
    intro containers
    induction containers with
    | nil => exact fun _ => handled_ok []
    | cons function rest ih =>
      intro index
      have members : Handled (Dot.clusterLines graph index function) :=
        (Handled.mapM found _).bind fun _ _ => handled_ok _
      exact members.bind fun _ _ => (ih (index + 1)).bind fun _ _ => handled_ok _
  exact (handled_ok _).bind fun _ _ =>
    ((boxes _ 0).bind fun _ _ => handled_ok _).bind fun _ _ => handled_ok _

/-! What a command makes -/

def Command.file? : Command → Option String
  | .graph file .. => some file
  | .summary file _ => some file
  | .scan .. => none

theorem metadata_loads (document : Document) (path : Path) :
    Metadata.load (document.metadata path) =
      document.language.text.map fun language => ⟨language, path.text⟩ := by
  cases shown : document.language.text <;>
    simp [Metadata.load, Document.metadata, Json.lookup, Json.get, shown, Except.map, bind,
      Except.bind]

theorem document_graph_result (document : Document) (path : Path) (selection : Selection)
    (timestamp : Int) :
    (document.graph path selection timestamp).result = document.language.text.bind fun language =>
      document.program.graph ⟨language, path.text⟩ selection timestamp := by
  have built : Graph.ofProgram (.ok document.program) (document.metadata path) selection timestamp =
      document.language.text.bind fun language =>
        document.program.graph ⟨language, path.text⟩ selection timestamp := by
    rw [Graph.ofProgram, metadata_loads]
    cases document.language.text <;> rfl
  simp only [Document.graph, Attempt.bind_result, Attempt.ofExcept_result, Attempt.note_result,
    Attempt.pure_result, built]
  cases document.language.text.bind fun language =>
    document.program.graph ⟨language, path.text⟩ selection timestamp <;> rfl

section

variable {files : Files} {timestamp : Int} {failure : Failure}

theorem makeGraph_escapes (path : Path) (function : Option String) (format : Format) (check : Bool)
    (unhandled : isHandled failure = false) :
    (makeGraph files timestamp path function format check).result = .error failure ↔
      (Document.load files path).result = .error failure := by
  rw [makeGraph, Attempt.bind_result]
  refine Handled.bind_eq_error_iff (fun document => ?_) unhandled
  rw [Attempt.bind_result, document_graph_result]
  have made : Handled (document.language.text.bind fun language =>
      document.program.graph ⟨language, path.text⟩ (selectionOf function) timestamp) :=
    (shown_handled _).bind fun _ _ => graph_handled _ _ _ _
  refine made.bind fun graph built => ?_
  obtain ⟨language, built⟩ : ∃ language, document.program.graph ⟨language, path.text⟩
      (selectionOf function) timestamp = .ok graph := by
    cases shown : document.language.text with
    | error cause => simp [shown, Except.bind] at built
    | ok language => exact ⟨language, by simpa [shown, Except.bind] using built⟩
  rw [Attempt.bind_result]
  refine (handled_ok ()).bind fun _ _ => ?_
  have checked : Handled (checkNotes graph).result := by
    rw [checkNotes, Attempt.bind_result]
    exact (verify_handled built).bind fun _ _ => handled_ok _
  have drawn : Handled (Attempt.ofExcept (Dot.draw graph (.str (drawingName function path))) >>=
      fun drawing => (pure ⟨drawing, []⟩ : Attempt Product)).result := by
    rw [Attempt.bind_result, Attempt.ofExcept_result]
    exact (draw_handled graph _).bind fun _ _ => handled_ok _
  have written : Handled (Attempt.ofExcept graph.toJson.written >>=
      fun text => (pure ⟨text, []⟩ : Attempt Product)).result := by
    rw [Attempt.bind_result, Attempt.ofExcept_result]
    exact (written_handled _).bind fun _ _ => handled_ok _
  cases check with
  | false =>
    simp only [Bool.false_eq_true, if_false]
    cases format with
    | dot => exact drawn
    | json => exact written
  | true =>
    simp only [if_true]
    rw [Attempt.bind_result]
    refine checked.bind fun _ _ => ?_
    cases format with
    | dot => exact drawn
    | json => exact written

theorem makeSummary_escapes (path : Path) (explain : Bool) (unhandled : isHandled failure = false) :
    (makeSummary files timestamp path explain).result = .error failure ↔
      (Document.load files path).result = .error failure := by
  rw [makeSummary, Attempt.bind_result]
  refine Handled.bind_eq_error_iff (fun document => ?_) unhandled
  have loaded : Handled
      (Summary.ofProgram (.ok document.program) (document.metadata path) timestamp) := by
    rw [Summary.ofProgram, metadata_loads]
    exact (shown_handled document.language).map.bind fun _ _ => handled_ok _
  have made : Handled (document.summary path timestamp).result := by
    rw [Document.summary, Attempt.bind_result, Attempt.ofExcept_result]
    exact loaded.bind fun _ _ => handled_ok _
  rw [Attempt.bind_result]
  refine made.bind fun summary _ => ?_
  rw [Attempt.bind_result, Attempt.bind_result, Attempt.ofExcept_result]
  exact (handled_ok ()).bind fun _ _ => (written_handled _).bind fun _ _ => handled_ok _

theorem make_escapes {command : Command} {file : String} (about : command.file? = some file)
    (settings : Settings) (unhandled : isHandled failure = false) :
    (command.make files timestamp settings).result = .error failure ↔
      (Document.load files (Path.ofText file)).result = .error failure := by
  cases command with
  | graph name function format check =>
    cases about
    exact makeGraph_escapes _ _ _ _ unhandled
  | summary name explain =>
    cases about
    exact makeSummary_escapes _ _ unhandled
  | scan path maxFiles => cases about

end

/-! Program trees in files -/

theorem badRoot_handled {tree : Json} (bad : tree.IsBadRoot) : Handled (Program.load tree) := by
  intro failure failed
  obtain ⟨known, refused, category⟩ := badRoot_load bad
  obtain rfl : known = failure := by simpa [failed] using refused.symm
  by_contra unhandled
  have escaping := (isHandled_eq_false_iff known).mp (by simpa using unhandled)
  simp [category, escapingCategories] at escaping

theorem load_escapes {files : Files} {path : Path} {failure : Failure}
    (dump : path.suffix = Document.treeSuffix) (unhandled : isHandled failure = false) :
    (Document.load files path).result = .error failure ↔
      (∃ tree items, files.json path = .ok tree ∧ tree.IsProgram items ∧
        FirstFault items failure) ∨
      files.NestsTooDeep path ∧ files.json path = .error failure := by
  have result : (Document.load files path).result = files.json path >>= fun tree =>
      (Program.load tree).map fun program => ⟨program, Document.languageOf tree⟩ := by
    rw [Document.load, Attempt.bind_result, Attempt.ofExcept_result, Files.json, bind_assoc]
    refine congrArg (files.text path >>= ·) (funext fun text => ?_)
    rw [Document.ofText, if_pos dump, Attempt.ofExcept_result, Document.ofTree]
    refine congrArg (Document.readJson files.nesting text >>= ·) (funext fun tree => ?_)
    cases Program.load tree <;> rfl
  rw [result]
  constructor
  · intro failed
    cases read : files.json path with
    | error other =>
      obtain rfl : other = failure := by simpa [read, bind, Except.bind] using failed
      refine .inr ⟨?_, rfl⟩
      by_contra shallow
      simp [isHandled_of_reading (Files.passes_of_json read shallow)] at unhandled
    | ok tree =>
      have legible := Files.json_legible read
      have refused : Program.load tree = .error failure := by
        cases loaded : Program.load tree <;> simp_all [bind, Except.bind, Except.map]
      rcases badRoot_or_program tree with bad | ⟨items, holds⟩
      · simp [badRoot_handled bad failure refused] at unhandled
      · exact .inl ⟨tree, items, rfl, holds, (load_eq_error_iff holds legible _).mp refused⟩
  · rintro (⟨tree, items, read, holds, first⟩ | ⟨-, read⟩)
    · have refused := (load_eq_error_iff holds (Files.json_legible read) failure).mpr first
      simp only [read, bind, Except.bind, refused, Except.map]
    · rw [read]
      rfl

/-! Endings -/

/-- The result was printed, or written to the file that was asked for. -/
structure Outcome.Delivers (files : Files) (output : Option String) (product : Product)
    (outcome : Outcome) : Prop where
  ending : outcome.ending = .exit 0
  placed :
    match given? output with
    | none => outcome.printed = product.text ++ "\n" ∧ outcome.files = files
    | some path =>
        outcome.printed = "" ∧
          files.write (Path.ofText path) (product.text ++ "\n") = .ok outcome.files

/-- An error line stands last, and nothing was printed or written. -/
structure Outcome.Reports (files : Files) (outcome : Outcome) : Prop where
  ending : outcome.ending = .exit 1
  printed : outcome.printed = ""
  line : ∃ message, outcome.reported.getLast? = some (errorLine message)
  untouched : outcome.files = files

section

variable (files : Files) (reported : List String)

theorem failed_reports {failure : Failure} (handled : isHandled failure = true) :
    (failed files reported failure).Reports files := by
  rw [failed, if_pos handled]
  exact ⟨rfl, rfl, ⟨failure.message, by simp⟩, rfl⟩

theorem failed_escapes (cause failure : Failure) :
    (failed files reported cause).ending = .escaped failure ↔
      isHandled cause = false ∧ cause = failure := by
  cases handled : isHandled cause <;> simp [failed, handled]

theorem emit_ends (output : Option String) (product : Product) :
    (emit files output reported product).Delivers files output product ∨
      (emit files output reported product).Reports files := by
  cases wanted : given? output with
  | none =>
    simp only [emit, wanted]
    exact .inl ⟨rfl, by simp [wanted]⟩
  | some path =>
    simp only [emit, wanted]
    cases written : files.write (Path.ofText path) (product.text ++ "\n") with
    | ok after => exact .inl ⟨rfl, by simp [wanted, written]⟩
    | error failure =>
      exact .inr (failed_reports files reported (write_handled files _ _ failure written))

end

theorem refusal_of_isFile {files : Files} {command : Command} {file : String}
    (about : command.file? = some file) (present : files.isFile (Path.ofText file) = true) :
    command.refusal? files = none := by
  have there : files.contains (Path.ofText file) = true := by
    rw [Files.isFile] at present
    rw [Files.contains]
    cases found : files.inspect (Path.ofText file) with
    | error failure => simp [found] at present
    | ok entry => rfl
  cases command with
  | graph | summary =>
    cases about
    simp [Command.refusal?, Command.refusal?.fileRefusal?, Command.refusal?.missing?, there,
      present]
  | scan path maxFiles => cases about

-- A settings file that is not there only leads to a warning.
theorem unconfigured_run {files : Files} {request : Request} {file : String} (timestamp : Int)
    (about : request.command.file? = some file)
    (unconfigured : ∀ path, request.settingsPath? files = some path → files.contains path = false) :
    ∃ warnings, request.run files timestamp = request.perform files timestamp .default warnings := by
  have kept : request.command.adjust .default = .default := by
    cases command : request.command with
    | graph | summary => rfl
    | scan path maxFiles =>
      rw [command] at about
      cases about
  rw [Request.run]
  cases found : request.settingsPath? files with
  | none => exact ⟨[], by simp [Settings.load, kept]⟩
  | some path =>
    simp only [Settings.load, unconfigured path found, Bool.false_eq_true, if_false, kept]
    exact ⟨_, rfl⟩

section

variable {files : Files} {timestamp : Int} {request : Request} {settings : Settings}
  (warnings : List String)

theorem perform_ok {product : Product} (accepted : request.command.refusal? files = none)
    (made : (request.command.make files timestamp settings).result = .ok product) :
    (request.perform files timestamp settings warnings).Delivers files request.output product ∨
      (request.perform files timestamp settings warnings).Reports files := by
  simp only [Request.perform, accepted, made]
  exact emit_ends files _ request.output product

theorem perform_error {failure : Failure} (accepted : request.command.refusal? files = none)
    (made : (request.command.make files timestamp settings).result = .error failure) :
    ∃ reported, request.perform files timestamp settings warnings =
      failed files reported failure := by
  simp only [Request.perform, accepted, made]
  exact ⟨_, rfl⟩

theorem perform_escapes (accepted : request.command.refusal? files = none) (failure : Failure) :
    (request.perform files timestamp settings warnings).ending = .escaped failure ↔
      isHandled failure = false ∧
        (request.command.make files timestamp settings).result = .error failure := by
  cases made : (request.command.make files timestamp settings).result with
  | ok product =>
    have ended : ∃ code,
        (request.perform files timestamp settings warnings).ending = .exit code := by
      rcases perform_ok warnings accepted made with delivered | reports
      · exact ⟨0, delivered.ending⟩
      · exact ⟨1, reports.ending⟩
    obtain ⟨code, ended⟩ := ended
    simp [ended]
  | error other =>
    obtain ⟨reported, same⟩ := perform_error warnings accepted made
    rw [same, failed_escapes]
    constructor
    · rintro ⟨unhandled, rfl⟩
      exact ⟨unhandled, rfl⟩
    · rintro ⟨unhandled, escaped⟩
      cases escaped
      exact ⟨unhandled, rfl⟩

end

theorem tree_run_ends (files : Files) (timestamp : Int) (line : List String) (request : Request)
    (file : String) (parsed : Request.parse line = .ok request)
    (about : request.command.file? = some file)
    (present : files.isFile (Path.ofText file) = true)
    (dump : (Path.ofText file).suffix = Document.treeSuffix)
    (unconfigured : ∀ path, request.settingsPath? files = some path → files.contains path = false) :
    (∀ failure, (run files timestamp line).ending = .escaped failure ↔
      failure.category ∈ escapingCategories ∧
        ((∃ tree items, files.json (Path.ofText file) = .ok tree ∧ tree.IsProgram items ∧
          FirstFault items failure) ∨
        files.NestsTooDeep (Path.ofText file) ∧
          files.json (Path.ofText file) = .error failure)) ∧
    ((∃ failure, (run files timestamp line).ending = .escaped failure) ∨
      (run files timestamp line).Reports files ∨
      ∃ product, (request.command.make files timestamp .default).result = .ok product ∧
        (run files timestamp line).Delivers files request.output product) := by
  have accepted := refusal_of_isFile about present
  obtain ⟨warnings, performed⟩ := unconfigured_run timestamp about unconfigured
  have same : run files timestamp line =
      request.perform files timestamp .default warnings := by
    simp only [run, parsed, performed]
  have escapes : ∀ failure, (run files timestamp line).ending = .escaped failure ↔
      isHandled failure = false ∧
        (request.command.make files timestamp .default).result = .error failure := by
    rw [same]
    exact perform_escapes warnings accepted
  refine ⟨?_, ?_⟩
  · intro failure
    rw [escapes, ← isHandled_eq_false_iff]
    refine and_congr_right fun unhandled => ?_
    rw [make_escapes about .default unhandled, load_escapes dump unhandled]
  · cases made : (request.command.make files timestamp .default).result with
    | ok product =>
      rw [same]
      rcases perform_ok warnings accepted made with delivered | reports
      · exact .inr (.inr ⟨product, rfl, delivered⟩)
      · exact .inr (.inl reports)
    | error failure =>
      cases handled : isHandled failure with
      | true =>
        obtain ⟨reported, ended⟩ := perform_error warnings accepted made
        rw [same, ended]
        exact .inr (.inl (failed_reports files reported handled))
      | false => exact .inl ⟨failure, (escapes failure).mpr ⟨handled, made⟩⟩

def misplacedText : String :=
  "\x7b\"type\":\"Program\",\"body\":[\x7b\"location\":\x7b\"start\":\"x\"\x7d\x7d]\x7d"

def misplacedFiles : Files :=
  (Files.empty []).put ["t.json"] (.file misplacedText.toByteArray.data.toList)

theorem misplaced_present : misplacedFiles.isFile (Path.ofText "t.json") = true := by
  decide +kernel

theorem misplaced_ending :
    (run misplacedFiles 0 ["micro", "t.json"]).ending = .escaped (.noMember "str" "get") := by
  decide +kernel

theorem misplaced_tree_escapes :
    misplacedFiles.isFile (Path.ofText "t.json") = true ∧
      ∀ code, (run misplacedFiles 0 ["micro", "t.json"]).ending ≠ .exit code := by
  refine ⟨misplaced_present, ?_⟩
  intro code
  simp [misplaced_ending]

theorem tree_run_ends_misplaced :
    ∃ tree items, misplacedFiles.json (Path.ofText "t.json") = .ok tree ∧ tree.IsProgram items ∧
      FirstFault items (.noMember "str" "get") := by
  have parsed : Request.parse ["micro", "t.json"] =
      .ok ⟨false, false, none, none, .graph "t.json" none none false⟩ := by rfl
  have unset : Request.settingsPath? misplacedFiles
      ⟨false, false, none, none, .graph "t.json" none none false⟩ = none := by decide +kernel
  have ends := tree_run_ends misplacedFiles 0 ["micro", "t.json"] _ "t.json" parsed rfl
    misplaced_present (by decide +kernel) (by simp [unset])
  rcases ((ends.1 _).mp misplaced_ending).2 with faulty | ⟨⟨error, container, deep, -⟩, read⟩
  · exact faulty
  · cases deep.symm.trans read

end ControlFlow.CommandLine
