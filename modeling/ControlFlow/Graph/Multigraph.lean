import ControlFlow.Graph
import ControlFlow.Reach

set_option autoImplicit false

namespace ControlFlow

-- An entry of the view; an id known only from edges has no attributes.
structure Vertex where
  id : String
  attributes : Option (String × String)

structure Link where
  source : String
  target : String
  key : String
  label : Option String
  type : String

structure Multigraph where
  vertices : List Vertex
  links : List Link

namespace Graph

def lastNode? (graph : Graph) (id : String) : Option Node :=
  graph.nodes.reverse.find? (fun n => n.id == id)

def vertices (graph : Graph) : List Vertex :=
  let named := graph.nodes.map (fun n => n.id)
  let ends := graph.edges.flatMap (fun e => [e.source, e.target])
  (distinct (named ++ ends)).map fun id =>
    ⟨id, (graph.lastNode? id).map (fun n => (n.type, n.label))⟩

-- The edges between two ids, one for each key, with what the last edge of that key says.
def linksBetween (edges : List Edge) (source target : String) : List Link :=
  let same := edges.filter (fun e => e.source == source && e.target == target)
  (distinct (same.map (fun e => e.id))).filterMap fun key =>
    (same.reverse.find? (fun e => e.id == key)).map fun e => ⟨source, target, key, e.label, e.type⟩

def linksFrom (edges : List Edge) (source : String) : List Link :=
  let leaving := edges.filter (fun e => e.source == source)
  (distinct (leaving.map (fun e => e.target))).flatMap (linksBetween leaving source)

def multigraph (graph : Graph) : Multigraph :=
  let vertices := graph.vertices
  ⟨vertices, vertices.flatMap (fun v => linksFrom graph.edges v.id)⟩

end Graph

def Multigraph.toJson (view : Multigraph) : Json :=
  let vertex (v : Vertex) : Json :=
    .arr [.str v.id,
      match v.attributes with
      | none => .obj []
      | some (type, label) => .obj [("type", .str type), ("label", .str label)]]
  let link (l : Link) : Json :=
    .arr [.str l.source, .str l.target, .str l.key,
      .obj [("label", match l.label with | none => .null | some text => .str text),
        ("type", .str l.type)]]
  .obj [("nodes", .arr (view.vertices.map vertex)), ("edges", .arr (view.links.map link))]

end ControlFlow
