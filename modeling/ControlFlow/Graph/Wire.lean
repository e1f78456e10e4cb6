import ControlFlow.Graph

set_option autoImplicit false

namespace ControlFlow

def texts (items : List String) : Json :=
  .arr (items.map Json.str)

def optionalField (key : String) : Option String → List (String × Json)
  | none => []
  | some text => [(key, .str text)]

def Node.toJson (node : Node) : Json :=
  let head : List (String × Json) := [("id", .str node.id), ("type", .str node.type)]
  match node.form with
  | .start label | .finish label => .obj (head ++ [("label", .str label)])
  | .function name parameters bodyIds returnType location =>
      .obj (head ++ [("name", .str name), ("parameters", texts parameters)] ++
        optionalField "returnType" returnType ++
        [("bodyNodeIds", texts bodyIds), ("location", location.toJson)])
  | .control condition branches location =>
      .obj (head ++ optionalField "condition" condition ++
        [("branches", .obj (branches.map (fun branch => (branch.1, texts branch.2)))),
         ("location", location.toJson)])
  | .process label details location =>
      .obj (head ++ [("label", .str label)] ++ optionalField "details" details ++
        [("location", location.toJson)])

def Edge.toJson (edge : Edge) : Json :=
  .obj ([("id", .str edge.id), ("source", .str edge.source), ("target", .str edge.target)] ++
    optionalField "label" edge.label ++ [("type", .str edge.type)])

def version : String := "1.0.0"

def Graph.toJson (graph : Graph) : Json :=
  .obj ([("version", .str version), ("metadata", graph.stamp.toJson),
      ("nodes", .arr (graph.nodes.map Node.toJson)),
      ("edges", .arr (graph.edges.map Edge.toJson))] ++
    (if graph.diagnostics.isEmpty then [] else [("diagnostics", texts graph.diagnostics)]))

end ControlFlow
