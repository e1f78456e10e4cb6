import ControlFlow.Number.Shortest
import ControlFlow.Text.Quoted

set_option autoImplicit false

namespace ControlFlow

inductive Json where
  | null
  | bool (value : Bool)
  | int (value : Int)
  | float (value : Double)
  | str (value : String)
  | arr (items : List Json)
  | obj (fields : List (String × Json))
  deriving Inhabited

namespace Json

inductive Kind where
  | null
  | bool
  | int
  | float
  | str
  | arr
  | obj
  deriving DecidableEq, Repr

def Kind.name : Kind → String
  | .null => "NoneType"
  | .bool => "bool"
  | .int => "int"
  | .float => "float"
  | .str => "str"
  | .arr => "list"
  | .obj => "dict"

def kind : Json → Kind
  | .null => .null
  | .bool _ => .bool
  | .int _ => .int
  | .float _ => .float
  | .str _ => .str
  | .arr _ => .arr
  | .obj _ => .obj

def truthy : Json → Bool
  | .null => false
  | .bool b => b
  | .int n => n != 0
  | .float x => !x.isZero
  | .str s => !s.isEmpty
  | .arr items => !items.isEmpty
  | .obj fields => !fields.isEmpty

def lookup (fields : List (String × Json)) (key : String) : Option Json :=
  (fields.find? (fun field => field.1 == key)).map Prod.snd

def get (fields : List (String × Json)) (key : String) : Json :=
  (lookup fields key).getD .null

-- Sets a key: a known key keeps its place and takes the new value.
def put (fields : List (String × Json)) (key : String) (value : Json) : List (String × Json) :=
  if fields.any (fun field => field.1 == key) then
    fields.map (fun field => if field.1 == key then (key, value) else field)
  else fields ++ [(key, value)]

mutual

def quoted : Json → String
  | .null => "None"
  | .bool b => if b then "True" else "False"
  | .int n => toString n
  | .float x => x.text
  | .str s => Text.quote s
  | .arr items => "[" ++ ", ".intercalate (quotedItems items) ++ "]"
  | .obj fields => "\x7b" ++ ", ".intercalate (quotedFields fields) ++ "\x7d"

def quotedItems : List Json → List String
  | [] => []
  | item :: rest => quoted item :: quotedItems rest

def quotedFields : List (String × Json) → List String
  | [] => []
  | (key, value) :: rest => (Text.quote key ++ ": " ++ quoted value) :: quotedFields rest

end

def shown : Json → String
  | .str s => s
  | value => value.quoted

end Json

end ControlFlow
