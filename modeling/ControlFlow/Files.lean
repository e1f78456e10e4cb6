import ControlFlow.Association
import ControlFlow.Failure
import ControlFlow.Path
import ControlFlow.Text.Line

set_option autoImplicit false

namespace ControlFlow

inductive Entry where
  | file (bytes : List UInt8)
  -- A file that may be neither read nor written.
  | locked
  | directory
  deriving DecidableEq, Repr

def Entry.bytes (path : Path) : Entry → Except Failure (List UInt8)
  | .file bytes => .ok bytes
  | .locked => .error (.accessDenied path.text)
  | .directory => .error (.isDirectory path.text)

structure Files where
  here : List String
  entries : List (List String × Entry)
  distinct : (entries.map Prod.fst).Nodup
  -- How deep containers may stand in each other in the JSON that is read.
  nesting : Nat

namespace Files

def empty (here : List String) : Files :=
  ⟨here, [], List.nodup_nil, Json.usualRoom⟩

-- The root is always a directory.
def lookup (files : Files) (location : List String) : Option Entry :=
  if location = [] then some .directory
  else (files.entries.find? (fun entry => entry.1 = location)).map Prod.snd

def put (files : Files) (location : List String) (entry : Entry) : Files where
  here := files.here
  entries := upsert location entry files.entries
  distinct := nodup_keys_upsert location entry files.entries files.distinct
  nesting := files.nesting

def plant (files : Files) (above : List String) (parts : List String) (entry : Entry) : Files :=
  match parts with
  | [] => files
  | [name] => files.put (above ++ [name]) entry
  | name :: rest => (files.put (above ++ [name]) .directory).plant (above ++ [name]) rest entry

def step (files : Files) (path : Path) (location : List String) (part : String) :
    Except Failure (List String) :=
  match files.lookup location with
  | some .directory => .ok (if part = ".." then location.dropLast else location ++ [part])
  | some (.file _) | some .locked => .error (.notDirectory path.text)
  | none => .error (.fileNotFound path.text)

def follow (files : Files) (path : Path) : List String → List String → Except Failure (List String)
  | location, [] => .ok location
  | location, part :: parts => do
      let next ← files.step path location part
      files.follow path next parts

def origin (files : Files) (path : Path) : List String :=
  if path.root.isEmpty then files.here else []

-- Where a path leads. Its last step may lead to a location where there is nothing yet.
def locate (files : Files) (path : Path) : Except Failure (List String) :=
  if path.text.toList.contains (Char.ofNat 0) then .error .nullInPath
  else files.follow path (files.origin path) path.parts

def inspect (files : Files) (path : Path) : Except Failure Entry := do
  let location ← files.locate path
  match files.lookup location with
  | some entry => .ok entry
  | none => .error (.fileNotFound path.text)

def contains (files : Files) (path : Path) : Bool :=
  (files.inspect path).toBool

def isFile (files : Files) (path : Path) : Bool :=
  match files.inspect path with
  | .ok (.file _) | .ok .locked => true
  | _ => false

def isDirectory (files : Files) (path : Path) : Bool :=
  match files.inspect path with
  | .ok .directory => true
  | _ => false

def bytes (files : Files) (path : Path) : Except Failure (List UInt8) := do
  let entry ← files.inspect path
  entry.bytes path

def decode (bytes : List UInt8) : Except Failure (List Char) :=
  match Text.decodeUtf8 (bytes.map UInt8.toNat) with
  | .ok text => .ok (Text.unifyLineEnds text)
  | .error error => .error (.undecodable error)

def text (files : Files) (path : Path) : Except Failure (List Char) := do
  decode (← files.bytes path)

def write (files : Files) (path : Path) (text : String) : Except Failure Files := do
  let location ← files.locate path
  match files.lookup location with
  | some .directory => .error (.isDirectory path.text)
  | some .locked => .error (.accessDenied path.text)
  | _ => .ok (files.put location (.file text.toUTF8.toList))

-- The locations of the regular files below a directory, from there on.
def filesBelow (files : Files) (location : List String) : List (List String) :=
  files.entries.filterMap fun entry =>
    match entry with
    | (_, .directory) => none
    | (place, _) =>
        if location.isPrefixOf place then some (place.drop location.length) else none

end Files

end ControlFlow
