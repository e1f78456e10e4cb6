import ControlFlow.Files
import ControlFlow.Log
import ControlFlow.Source.Stmt.Lower
import ControlFlow.Statement.Wire

set_option autoImplicit false

namespace ControlFlow

structure Document where
  program : Program
  language : Json

namespace Document

def treeSuffix : String := ".json"

def sourceSuffix : String := ".py"

def sourceLanguage : String := "Python"

def frontEnd? (path : Path) : Option String :=
  if path.suffix = sourceSuffix then some sourceLanguage else none

def supportedSuffixes : List String :=
  [treeSuffix, sourceSuffix]

def readJson (nesting : Nat) (text : List Char) : Except Failure Json :=
  match Json.read nesting text with
  | .ok value => .ok value
  | .error error => .error (.malformedJson error)

def languageOf : Json → Json
  | .obj fields => (Json.lookup fields "language").getD (.str "unknown")
  | _ => .str "unknown"

def ofTree (nesting : Nat) (text : List Char) : Except Failure Document := do
  let tree ← readJson nesting text
  .ok ⟨← Program.load tree, languageOf tree⟩

def handlersNote (line : Int) : Note :=
  .debug "ast_parser"
    ("line " ++ toString line ++ ": except handlers are not part of the flow graph")

def ofSource (text : List Char) (file : String) : Attempt Document :=
  let reading := Source.read text (some file)
  ⟨reading.program.map (⟨·, .str sourceLanguage⟩), reading.leftOut.map handlersNote⟩

def ofText (nesting : Nat) (path : Path) (text : List Char) : Attempt Document :=
  if path.suffix = treeSuffix then .ofExcept (ofTree nesting text)
  else if (frontEnd? path).isSome then ofSource text path.text
  else .ofExcept (.error (.noFrontEnd path.suffix path.text))

def load (files : Files) (path : Path) : Attempt Document := do
  let text ← .ofExcept (files.text path)
  ofText files.nesting path text

def metadata (document : Document) (path : Path) : Json :=
  .obj [("language", document.language), ("file", .str path.text)]

end Document

end ControlFlow
