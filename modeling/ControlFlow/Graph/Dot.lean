import ControlFlow.Graph
import ControlFlow.Text.Line

set_option autoImplicit false

namespace ControlFlow.Dot

def labelLimit : Int := 50

def escapeChar (c : Char) : List Char :=
  if c = '\\' then ['\\', '\\'] else if c = '"' then ['\\', '"'] else [c]

def escape (limit : Int) (text : List Char) : List Char :=
  (Text.ellipsize limit (Text.firstLine text)).flatMap escapeChar

-- The label of any value: a false one is empty, and only texts have a first line.
def escapeValue (limit : Int) : Json → Except Failure String
  | .str text => .ok (String.ofList (escape limit text.toList))
  | value =>
      if value.truthy then .error (.noMember value.kind.name "splitlines")
      else .ok (String.ofList (escape limit []))

def quoted (text : String) : String :=
  "\"" ++ String.ofList (escape labelLimit text.toList) ++ "\""

def terminal : String := "shape=ellipse, style=filled, fillcolor=lightgray"

def loop : String := "shape=parallelogram, style=filled, fillcolor=lightyellow"

def style (type : String) : String :=
  match type with
  | "start" | "end" => terminal
  | "if" => "shape=diamond, style=filled, fillcolor=lightblue"
  | "for" | "while" => loop
  | "return" => "shape=ellipse, style=filled, fillcolor=lightgreen"
  | _ => "shape=box"

def nodeLine (indent : String) (node : Node) : String :=
  indent ++ node.id ++ " [label=" ++ quoted node.label ++ ", " ++ style node.type ++ "];"

def edgeLine (edge : Edge) : String :=
  let attributes :=
    match edge.label.filter (fun label => !label.isEmpty) with
    | some label => " [label=" ++ quoted label ++ "]"
    | none => ""
  "  " ++ edge.source ++ " -> " ++ edge.target ++ attributes ++ ";"

def bodyIds (node : Node) : List String :=
  match node.form with
  | .function _ _ ids _ _ => ids
  | _ => []

def clusterLines (graph : Graph) (index : Nat) (function : Node) :
    Except Failure (List String) := do
  let members ← (bodyIds function).mapM graph.node
  .ok (["  subgraph cluster_" ++ toString index ++ " \x7b",
      "    label=" ++ quoted function.label ++ ";"] ++
    members.map (nodeLine "    ") ++ ["  \x7d"])

def clusters (graph : Graph) : Nat → List Node → Except Failure (List String)
  | _, [] => .ok []
  | index, function :: rest => do
      let first ← clusterLines graph index function
      let more ← clusters graph (index + 1) rest
      .ok (first ++ more)

def header (name : String) : List String :=
  ["digraph \"" ++ name ++ "\" \x7b", "  node [shape=box];"]

def lines (graph : Graph) (name : String) : Except Failure (List String) := do
  let containers := graph.nodes.filter Node.isFunction
  let clustered := containers.flatMap bodyIds
  let boxes ← clusters graph 0 containers
  let loose := graph.nodes.filter (fun n => !n.isFunction && !clustered.contains n.id)
  .ok (header name ++ boxes ++ loose.map (nodeLine "  ") ++ graph.edges.map edgeLine ++ ["\x7d"])

def draw (graph : Graph) (name : Json) : Except Failure String := do
  let name ← escapeValue labelLimit name
  let lines ← lines graph name
  .ok ("\n".intercalate lines)

end ControlFlow.Dot
