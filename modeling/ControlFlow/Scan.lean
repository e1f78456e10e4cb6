import ControlFlow.Graph.Build
import ControlFlow.Graph.Verify
import ControlFlow.Settings
import ControlFlow.Summary

set_option autoImplicit false

namespace ControlFlow

def mainOrigin : String := "flowgraph"

namespace Document

def graph (document : Document) (path : Path) (selection : Selection) (timestamp : Int) :
    Attempt Graph := do
  let graph ← .ofExcept
    (Graph.ofProgram (.ok document.program) (document.metadata path) selection timestamp)
  .note (graph.diagnostics.map (Note.warning "cfg_builder"))
  pure graph

def summaryNote (summary : Summary) : Note :=
  .debug "macro_summarizer"
    (summary.stamp.file ++ ": " ++ toString summary.functions.length ++ " functions, " ++
      toString summary.calls.length ++ " calls")

def summary (document : Document) (path : Path) (timestamp : Int) : Attempt Summary := do
  let summary ← .ofExcept
    (Summary.ofProgram (.ok document.program) (document.metadata path) timestamp)
  .note [summaryNote summary]
  pure summary

end Document

namespace Scan

-- Whether the first of two paths comes first or is the second: they are compared part by part.
def inSequence : List String → List String → Bool
  | [], _ => true
  | _ :: _, [] => false
  | a :: first, b :: second => if a = b then inSequence first second else decide (a < b)

def inOrder (paths : List (List String)) : List (List String) :=
  paths.mergeSort inSequence

def descendants (files : Files) (root : Path) : List (List String) :=
  match files.locate root with
  | .ok location =>
      if files.lookup location = some .directory then inOrder (files.filesBelow location) else []
  | .error _ => []

def isWanted (settings : Settings) (root : Path) (parts : List String) : Bool :=
  settings.extensions.contains (root.below parts).suffix &&
    !parts.dropLast.any settings.excluded.contains

def isProgramTree : Json → Bool
  | .obj fields =>
      match Json.get fields "type" with
      | .str type => type = "Program"
      | _ => false
  | _ => false

-- Whether a JSON file is worth an analysis. One that cannot be read is, and fails later; only other
-- failures stop the search.
def mayBeTree (files : Files) (path : Path) : Except Failure Bool :=
  match files.text path >>= Document.readJson files.nesting with
  | .ok value => .ok (isProgramTree value)
  | .error failure => if failure.isSystem || failure.isValue then .ok true else .error failure

def isSkipped (files : Files) (path : Path) : Except Failure Bool :=
  if path.name = Settings.fileName then .ok true
  else if path.suffix = Document.treeSuffix then (mayBeTree files path).map (!·)
  else .ok false

def skippedNote (path : Path) : Note :=
  .debug mainOrigin ("Skipping " ++ path.text ++ ": not a JSON AST dump")

def keep (files : Files) : List Path → Attempt (List Path)
  | [] => pure []
  | path :: rest => do
      if ← .ofExcept (isSkipped files path) then
        .note [skippedNote path]
        keep files rest
      else
        let others ← keep files rest
        pure (path :: others)

def wanted (files : Files) (root : Path) (settings : Settings) : List Path :=
  ((descendants files root).filter (isWanted settings root)).map root.below

def discover (files : Files) (root : Path) (settings : Settings) : Attempt (List Path) :=
  if files.isFile root then pure [root] else keep files (wanted files root settings)

structure FileReport where
  file : String
  language : Json
  nodes : Nat
  edges : Nat
  diagnostics : List String
  problems : List String
  summary : Summary

def FileReport.toJson (report : FileReport) : Json :=
  .obj [("file", .str report.file), ("language", report.language),
    ("nodes", .int report.nodes), ("edges", .int report.edges),
    ("diagnostics", texts report.diagnostics), ("graphProblems", texts report.problems),
    ("summary", report.summary.toJson)]

def problems (graph : Graph) : Except Failure (List String) :=
  if graph.nodes.isEmpty then .ok [] else graph.verify

def analyze (files : Files) (timestamp : Int) (path : Path) : Attempt FileReport := do
  let document ← Document.load files path
  let graph ← document.graph path .every timestamp
  let summary ← document.summary path timestamp
  let problems ← .ofExcept (problems graph)
  pure ⟨path.text, document.language, graph.nodes.length, graph.edges.length, graph.diagnostics,
    problems, summary⟩

structure Report where
  attempted : Nat
  succeeded : Nat
  failed : List (Path × Failure)
  files : List FileReport

def failureJson (entry : Path × Failure) : Json :=
  .obj [("file", .str entry.1.text),
    ("error", .str (entry.2.category ++ ": " ++ entry.2.message))]

def Report.toJson (report : Report) : Json :=
  .obj [("attempted", .int report.attempted), ("succeeded", .int report.succeeded),
    ("failed", .arr (report.failed.map failureJson)),
    ("files", .arr (report.files.map FileReport.toJson))]

-- The first entries of a list; a negative number leaves that many out at the end.
def firstOf {α : Type} (limit : Int) (xs : List α) : List α :=
  xs.take (if limit < 0 then xs.length + limit else limit).toNat

def analyzedLine (report : Report) : String :=
  "Analyzed " ++ toString report.succeeded ++ " of " ++ toString report.attempted ++ " files"

structure Tally where
  files : List FileReport
  failed : List (Path × Failure)

def failedNote (path : Path) (failure : Failure) : Note :=
  .warning mainOrigin ("Failed to process " ++ path.text ++ ": " ++ failure.message)

-- Analyzes one file after the other. A file that fails is noted, and the next one is taken up.
def analyzeEach (files : Files) (timestamp : Int) : List Path → Tally → Attempt Tally
  | [], tally => pure tally
  | path :: rest, tally => do
      match ← (analyze files timestamp path).outcome with
      | .ok report => analyzeEach files timestamp rest { tally with files := tally.files ++ [report] }
      | .error failure =>
          .note [failedNote path failure]
          analyzeEach files timestamp rest
            { tally with failed := tally.failed ++ [(path, failure)] }

def limitNotes (found : Nat) (limit : Int) : List Note :=
  if (found : Int) > limit then
    [.warning mainOrigin
      ("Found " ++ toString found ++ " files, analyzing the first " ++ toString limit)]
  else []

def run (files : Files) (root : Path) (settings : Settings) (timestamp : Int) : Attempt Report := do
  let found ← discover files root settings
  .note (limitNotes found.length settings.maxFiles)
  let chosen := firstOf settings.maxFiles found
  let tally ← analyzeEach files timestamp chosen ⟨[], []⟩
  let report := ⟨chosen.length, tally.files.length, tally.failed, tally.files⟩
  .note [.info mainOrigin (analyzedLine report)]
  pure report

end Scan

end ControlFlow
