import ControlFlow.Json.Value

set_option autoImplicit false

namespace ControlFlow.Json

def escapeChar (c : Char) : String :=
  match c with
  | '"' => "\\\""
  | '\\' => "\\\\"
  | '\n' => "\\n"
  | '\r' => "\\r"
  | '\t' => "\\t"
  | '\x08' => "\\b"
  | '\x0c' => "\\f"
  | c => if c.toNat < 0x20 then "\\u" ++ Text.hexDigits 4 c.toNat else String.singleton c

def writeString (text : String) : String :=
  "\"" ++ String.join (text.toList.map escapeChar) ++ "\""

def writeFloat : Double → String
  | .nan => "NaN"
  | .infinite negative => if negative then "-Infinity" else "Infinity"
  | x => x.text

def newline (depth : Nat) : String :=
  "\n" ++ String.ofList (List.replicate (2 * depth) ' ')

def block (opening closing : String) (depth : Nat) (members : List String) : String :=
  if members.isEmpty then opening ++ closing
  else
    opening ++ newline (depth + 1) ++ ("," ++ newline (depth + 1)).intercalate members ++
      newline depth ++ closing

mutual

def writeAt : Nat → Json → String
  | _, .null => "null"
  | _, .bool b => if b then "true" else "false"
  | _, .int n => toString n
  | _, .float x => writeFloat x
  | _, .str s => writeString s
  | depth, .arr items => block "[" "]" depth (writeItems (depth + 1) items)
  | depth, .obj fields => block "\x7b" "\x7d" depth (writeFields (depth + 1) fields)

def writeItems : Nat → List Json → List String
  | _, [] => []
  | depth, item :: rest => writeAt depth item :: writeItems depth rest

def writeFields : Nat → List (String × Json) → List String
  | _, [] => []
  | depth, (key, value) :: rest =>
      (writeString key ++ ": " ++ writeAt depth value) :: writeFields depth rest

end

def write (value : Json) : String :=
  writeAt 0 value

mutual

def compact : Json → String
  | .null => "null"
  | .bool b => if b then "true" else "false"
  | .int n => toString n
  | .float x => writeFloat x
  | .str s => writeString s
  | .arr items => "[" ++ ", ".intercalate (compactItems items) ++ "]"
  | .obj fields => "\x7b" ++ ", ".intercalate (compactFields fields) ++ "\x7d"

def compactItems : List Json → List String
  | [] => []
  | item :: rest => compact item :: compactItems rest

def compactFields : List (String × Json) → List String
  | [] => []
  | (key, value) :: rest => (writeString key ++ ": " ++ compact value) :: compactFields rest

end

end ControlFlow.Json
