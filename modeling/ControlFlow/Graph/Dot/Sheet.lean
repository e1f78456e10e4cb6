import ControlFlow.Graph.Dot

set_option autoImplicit false

namespace ControlFlow.Dot

abbrev Drafting := EStateM Failure (List String)

def put (line : String) : Drafting Unit :=
  modify (· ++ [line])

def putAll : List String → Drafting Unit
  | [] => return
  | line :: rest => do
      put line
      putAll rest

def putMembers (graph : Graph) : List String → Drafting Unit
  | [] => return
  | id :: rest => do
      let node ← liftExcept (graph.node id)
      put (nodeLine "    " node)
      putMembers graph rest

def putClusters (graph : Graph) : Nat → List Node → Drafting Unit
  | _, [] => return
  | index, function :: rest => do
      put ("  subgraph cluster_" ++ toString index ++ " \x7b")
      put ("    label=" ++ quoted function.label ++ ";")
      putMembers graph (bodyIds function)
      put "  \x7d"
      putClusters graph (index + 1) rest

def putGraph (graph : Graph) : Drafting String := do
  let containers := graph.nodes.filter Node.isFunction
  let clustered := containers.flatMap bodyIds
  putClusters graph 0 containers
  putAll ((graph.nodes.filter (fun n => !n.isFunction && !clustered.contains n.id)).map
    (nodeLine "  "))
  putAll (graph.edges.map edgeLine)
  put "\x7d"
  return "\n".intercalate (← get)

-- Draws a graph under any name. The opening lines are down before the graph is needed.
def draft (graph : Option Graph) (name : Json) : Drafting String := do
  let name ← liftExcept (escapeValue labelLimit name)
  set (header name)
  match graph with
  | none => throw (.noMember Json.Kind.null.name "nodes")
  | some graph => putGraph graph

end ControlFlow.Dot
