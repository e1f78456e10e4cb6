import ControlFlow.CommandLine.Request
import ControlFlow.Graph.Dot
import ControlFlow.Json.Text
import ControlFlow.Scan
import ControlFlow.Summary.Explain

set_option autoImplicit false

namespace ControlFlow.CommandLine

inductive Ending where
  | exit (code : Nat)
  | escaped (failure : Failure)
  deriving DecidableEq, Repr

structure Outcome where
  ending : Ending
  printed : String
  reported : List String
  files : Files

def isHandled : Failure → Bool
  | .notIterable _ | .notInteger _ | .notText _ | .noMember _ _ | .infiniteInteger => false
  | .malformedJson error => !error.fault.isTooDeep
  | _ => true

structure Product where
  text : String
  closing : List String
  deriving DecidableEq, Repr

def isSpecificName (function : Option String) : Bool :=
  match function with
  | some name => !(name.isEmpty || name = "*")
  | none => false

def drawingName (function : Option String) (path : Path) : String :=
  if isSpecificName function then function.getD "" else path.stem

def selectionOf : Option String → Selection
  | none => .first
  | some name => if name = "*" then .every else .named name

def checkNotes (graph : Graph) : Attempt Unit := do
  let problems ← .ofExcept graph.verify
  .note (problems.map fun problem => .warning mainOrigin ("graph check: " ++ problem))

def makeGraph (files : Files) (timestamp : Int) (path : Path) (function : Option String)
    (format : Format) (check : Bool) : Attempt Product := do
  let document ← Document.load files path
  let graph ← document.graph path (selectionOf function) timestamp
  .note [.info mainOrigin
    ("IR generated: " ++ toString graph.nodes.length ++ " nodes, " ++
      toString graph.edges.length ++ " edges")]
  if check then checkNotes graph else pure ()
  match format with
  | .dot => do
      let drawing ← .ofExcept (Dot.draw graph (.str (drawingName function path)))
      pure ⟨drawing, []⟩
  | .json => do
      let text ← .ofExcept graph.toJson.written
      pure ⟨text, []⟩

def explained (summary : Summary) : Json :=
  match summary.toJson with
  | .obj fields =>
      .obj (fields ++ [("explanations",
        .obj (summary.explain.map fun entry => (entry.1, .str entry.2)))])
  | value => value

def makeSummary (files : Files) (timestamp : Int) (path : Path) (explain : Bool) :
    Attempt Product := do
  let document ← Document.load files path
  let summary ← document.summary path timestamp
  .note [.info mainOrigin
    ("Macro view generated: " ++ toString summary.functions.length ++ " functions")]
  let text ← .ofExcept (if explain then explained summary else summary.toJson).written
  pure ⟨text, []⟩

def makeReport (files : Files) (timestamp : Int) (path : Path) (settings : Settings) :
    Attempt Product := do
  let report ← Scan.run files path settings timestamp
  let text ← .ofExcept report.toJson.written
  pure ⟨text, [Scan.analyzedLine report]⟩

def Command.make (files : Files) (timestamp : Int) (settings : Settings) :
    Command → Attempt Product
  | .graph file function format check =>
      makeGraph files timestamp (Path.ofText file) function (format.getD settings.format) check
  | .summary file explain => makeSummary files timestamp (Path.ofText file) explain
  | .scan path _ => makeReport files timestamp (Path.ofText path) settings

def Command.refusal? (files : Files) : Command → Option String
  | .graph file .. => fileRefusal? file
  | .summary file _ => fileRefusal? file
  | .scan path _ => missing? path
where
  missing? (path : String) : Option String :=
    if files.contains (Path.ofText path) then none else some ("Path not found: " ++ path)
  fileRefusal? (file : String) : Option String :=
    missing? file <|>
      if files.isFile (Path.ofText file) then none
      else some ("Expected a file, got directory: " ++ file)

-- A number of files on the command line wins over the settings, unless it is zero.
def Command.adjust (settings : Settings) : Command → Settings
  | .scan _ (some limit) => if limit = 0 then settings else { settings with maxFiles := limit }
  | _ => settings

-- An empty text counts as not given.
def given? : Option String → Option String
  | some "" => none
  | value => value

def Request.settingsPath? (files : Files) (request : Request) : Option Path :=
  match given? request.config with
  | some path => some (Path.ofText path)
  | none =>
      let target := request.command.target
      if files.contains target then Settings.find? files target else none

def Request.threshold (request : Request) (settings : Settings) : Level :=
  if request.verbose then .info else if request.quiet then .error else settings.level

def errorLine (message : String) : String :=
  "Error: " ++ message

def failed (files : Files) (reported : List String) (failure : Failure) : Outcome :=
  if isHandled failure then ⟨.exit 1, "", reported ++ [errorLine failure.message], files⟩
  else ⟨.escaped failure, "", reported, files⟩

def emit (files : Files) (output : Option String) (reported : List String) (product : Product) :
    Outcome :=
  match given? output with
  | none => ⟨.exit 0, product.text ++ "\n", reported ++ product.closing, files⟩
  | some path =>
      match files.write (Path.ofText path) (product.text ++ "\n") with
      | .ok files => ⟨.exit 0, "", reported ++ product.closing, files⟩
      | .error failure => failed files reported failure

def Request.perform (files : Files) (timestamp : Int) (request : Request) (settings : Settings)
    (warnings : List String) : Outcome :=
  let write := logLines (request.threshold settings)
  let reported := write (warnings.map (Note.warning mainOrigin))
  match request.command.refusal? files with
  | some refusal => ⟨.exit 1, "", reported ++ [errorLine refusal], files⟩
  | none =>
      let attempt := request.command.make files timestamp settings
      let reported := reported ++ write attempt.notes
      match attempt.result with
      | .ok product => emit files request.output reported product
      | .error failure => failed files reported failure

def Request.run (files : Files) (timestamp : Int) (request : Request) : Outcome :=
  match Settings.load files (request.settingsPath? files) with
  | .error failure => ⟨.escaped failure, "", [], files⟩
  | .ok (settings, warnings) =>
      request.perform files timestamp (request.command.adjust settings) warnings

def helpText : String :=
  "usage: flowgraph [-h] [-v] [-q] [--config CONFIG] [-o OUTPUT] micro|macro|scan ..."

def run (files : Files) (timestamp : Int) (line : List String) : Outcome :=
  match Request.parse line with
  | .ok request => request.run files timestamp
  | .error .help => ⟨.exit 0, helpText ++ "\n", [], files⟩
  | .error (.fault program fault) =>
      ⟨.exit 2, "", [program ++ ": error: " ++ fault.message], files⟩

end ControlFlow.CommandLine
