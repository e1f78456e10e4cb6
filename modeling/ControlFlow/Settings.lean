import ControlFlow.Document
import ControlFlow.Text.Blank

set_option autoImplicit false

namespace ControlFlow

inductive Format where
  | json
  | dot
  deriving DecidableEq, Repr

def Format.name : Format → String
  | .json => "json"
  | .dot => "dot"

def Format.ofText? (text : String) : Option Format :=
  [.json, .dot].find? (fun format => Format.name format = text)

structure Settings where
  maxFiles : Int
  extensions : List String
  excluded : List String
  level : Level
  format : Format
  extra : List (String × Json)

namespace Settings

def default : Settings where
  maxFiles := 200
  extensions := [".py", ".json"]
  excluded := [".git", ".venv", "venv", "__pycache__", "node_modules", "build", "dist"]
  level := .warning
  format := .json
  extra := []

inductive Verdict (α : Type) where
  | absent
  | accepted (value : α)
  | rejected
  deriving DecidableEq, Repr

def Verdict.getD {α : Type} (verdict : Verdict α) (default : α) : α :=
  match verdict with
  | .accepted value => value
  | _ => default

def Verdict.ofOption {α : Type} : Option α → Verdict α
  | some value => .accepted value
  | none => .rejected

def judgeGiven {α : Type} (accept : Json → Option α) (value : Json) : Verdict α :=
  match value with
  | .null => .absent
  | value => .ofOption (accept value)

def judgePresent {α : Type} (accept : Json → Option α) : Option Json → Verdict α
  | none => .absent
  | some value => .ofOption (accept value)

def positive? : Json → Option Int
  | .int n => if 0 < n then some n else none
  | _ => none

def word? (text : String) : Option String :=
  match Text.strip text.toList with
  | [] => none
  | stripped => some (String.ofList stripped)

-- A text, or the texts of a list; blanks around them are dropped, and texts that are all blank.
def words? : Json → Option (List String)
  | .str text => (word? text).map ([·])
  | .arr items =>
      some (items.filterMap fun item =>
        match item with
        | .str text => word? text
        | _ => none)
  | _ => none

def level? : Json → Option Level
  | .str text => Level.ofText? text
  | _ => none

def format? : Json → Option Format
  | .str text => Format.ofText? text
  | _ => none

def judgeMaxFiles (fields : List (String × Json)) : Verdict Int :=
  judgeGiven positive? (Json.get fields "max_files")

def judgeExtensions (fields : List (String × Json)) : Verdict (List String) :=
  judgePresent words? (Json.lookup fields "extensions")

def judgeExcluded (fields : List (String × Json)) : Verdict (List String) :=
  judgePresent words? (Json.lookup fields "exclude_dirs")

def judgeLevel (fields : List (String × Json)) : Verdict Level :=
  judgeGiven level? (Json.get fields "log_level")

def judgeFormat (fields : List (String × Json)) : Verdict Format :=
  judgeGiven format? (Json.get fields "output_format")

def knownKeys : List String :=
  ["max_files", "extensions", "exclude_dirs", "log_level", "output_format"]

def ofFields (fields : List (String × Json)) : Settings where
  maxFiles := (judgeMaxFiles fields).getD default.maxFiles
  extensions := (judgeExtensions fields).getD default.extensions
  excluded := (judgeExcluded fields).getD default.excluded
  level := (judgeLevel fields).getD default.level
  format := (judgeFormat fields).getD default.format
  extra := fields.filter (fun field => !knownKeys.contains field.1)

def complain {α : Type} (verdict : Verdict α) (path : Path) (text : String) : List String :=
  match verdict with
  | .rejected => [path.text ++ ": " ++ text]
  | _ => []

def warnings (path : Path) (fields : List (String × Json)) : List String :=
  complain (judgeMaxFiles fields) path "max_files must be a positive integer" ++
  complain (judgeExtensions fields) path "extensions must be a string or a list of strings" ++
  complain (judgeExcluded fields) path "exclude_dirs must be a string or a list of strings" ++
  complain (judgeLevel fields) path
    ("unknown log_level " ++ (Json.get fields "log_level").quoted) ++
  complain (judgeFormat fields) path "output_format must be 'json' or 'dot'"

-- Settings from a file's text, with warnings. A text that breaks the grammar is a warning, one that
-- is too much for the reader a failure.
def ofText (nesting : Nat) (path : Path) (text : List Char) :
    Except Failure (Settings × List String) :=
  match Json.read nesting text with
  | .error error =>
      if error.fault.isSyntactic then
        .ok (default, ["Failed to parse " ++ path.text ++ ": " ++ error.message])
      else .error (.malformedJson error)
  | .ok (.obj fields) => .ok (ofFields fields, warnings path fields)
  | .ok _ => .ok (default, ["Invalid " ++ path.text ++ ": expected a JSON object"])

def load (files : Files) : Option Path → Except Failure (Settings × List String)
  | none => .ok (default, [])
  | some path =>
      if files.contains path then
        match files.bytes path with
        | .error failure =>
            .ok (default, ["Failed to parse " ++ path.text ++ ": " ++ failure.message])
        | .ok bytes => do
            let text ← Files.decode bytes
            ofText files.nesting path text
      else .ok (default, ["Config file not found: " ++ path.text ++ ", using defaults"])

def fileName : String := ".flowgraph.json"

def find? (files : Files) (start : Path) : Option Path :=
  let base := if files.isDirectory start then start else start.parent
  let candidate := base.below [fileName]
  if files.contains candidate then some candidate else none

end Settings

end ControlFlow
