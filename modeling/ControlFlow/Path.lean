
set_option autoImplicit false

namespace ControlFlow

structure Path where
  root : String
  parts : List String
  deriving DecidableEq, Repr

namespace Path

def splitSlashes : List Char → List (List Char)
  | [] => [[]]
  | '/' :: rest => [] :: splitSlashes rest
  | c :: rest =>
      match splitSlashes rest with
      | [] => [[c]]
      | run :: runs => (c :: run) :: runs

-- Exactly two slashes at the beginning are a root of their own; any other number is one slash.
def rootOf (text : List Char) : String :=
  match (text.takeWhile (· = '/')).length with
  | 0 => ""
  | 2 => "//"
  | _ => "/"

def isStep (part : String) : Bool :=
  !(part.isEmpty || part = ".")

def ofText (text : String) : Path :=
  ⟨rootOf text.toList, ((splitSlashes text.toList).map String.ofList).filter isStep⟩

def text (path : Path) : String :=
  if path.root.isEmpty && path.parts.isEmpty then "."
  else path.root ++ "/".intercalate path.parts

def name (path : Path) : String :=
  path.parts.getLastD ""

def parent (path : Path) : Path :=
  { path with parts := path.parts.dropLast }

def below (path : Path) (parts : List String) : Path :=
  { path with parts := path.parts ++ parts }

-- A name cut before its last dot, unless that dot is its first or last character.
def splitName (name : String) : String × String :=
  let chars := name.toList
  let tail := (chars.reverse.takeWhile (· ≠ '.')).reverse
  if tail ≠ [] ∧ tail.length + 1 < chars.length then
    (String.ofList (chars.take (chars.length - tail.length - 1)), String.ofList ('.' :: tail))
  else (name, "")

def stem (path : Path) : String :=
  (splitName path.name).1

def suffix (path : Path) : String :=
  (splitName path.name).2

end Path

end ControlFlow
