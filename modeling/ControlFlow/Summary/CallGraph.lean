import ControlFlow.Association
import ControlFlow.Reach
import ControlFlow.Summary

set_option autoImplicit false

namespace ControlFlow

inductive Callable where
  | defined (complexity : Int)
  | external
  | caller
  deriving DecidableEq, Repr

structure CallEdge where
  caller : String
  callee : String
  count : Nat
  deriving DecidableEq, Repr

def CallEdge.ends (edge : CallEdge) : String × String :=
  (edge.caller, edge.callee)

def Call.ends (call : Call) : String × String :=
  (call.caller, call.callee)

structure CallGraph where
  names : List (String × Callable)
  edges : List CallEdge
  deriving DecidableEq, Repr

def mention (callable : Callable) (names : List (String × Callable)) (name : String) :
    List (String × Callable) :=
  if names.any (fun entry => entry.1 == name) then names else names ++ [(name, callable)]

def mentionCall (names : List (String × Callable)) (call : Call) : List (String × Callable) :=
  mention .caller (mention .external names call.callee) call.caller

def countCall (edges : List CallEdge) (call : Call) : List CallEdge :=
  match edges with
  | [] => [⟨call.caller, call.callee, 1⟩]
  | edge :: rest =>
      if edge.ends = call.ends then { edge with count := edge.count + 1 } :: rest
      else edge :: countCall rest call

namespace CallGraph

-- Records a defined function; a name defined again keeps its place and takes the new measure.
def define (graph : CallGraph) (function : FunctionSummary) : CallGraph :=
  { graph with names := upsert function.name (.defined function.complexity) graph.names }

def record (graph : CallGraph) (call : Call) : CallGraph :=
  ⟨mentionCall graph.names call, countCall graph.edges call⟩

def pairs (graph : CallGraph) : List (String × String) :=
  graph.edges.map CallEdge.ends

def edgesByCaller (graph : CallGraph) : List CallEdge :=
  graph.names.flatMap fun entry => graph.edges.filter (fun edge => edge.caller == entry.1)

-- Whether the names of a component lie on a cycle: a single one needs an edge to itself.
def isCyclic (graph : CallGraph) : List String → Bool
  | [name] => graph.pairs.contains (name, name)
  | _ => true

end CallGraph

namespace Summary

def callPairs (summary : Summary) : List (String × String) :=
  summary.calls.map Call.ends

def callGraph (summary : Summary) : CallGraph :=
  summary.calls.foldl .record (summary.functions.foldl .define ⟨[], []⟩)

def recursiveNames (summary : Summary) : List String :=
  let graph := summary.callGraph
  let found := components graph.pairs (graph.names.map Prod.fst)
  sortTexts (distinct (found.filter graph.isCyclic).flatten)

end Summary

def Callable.toJson : Callable → Json
  | .defined complexity => .obj [("external", .bool false), ("complexity", .int complexity)]
  | .external => .obj [("external", .bool true)]
  | .caller => .obj []

def CallGraph.toJson (graph : CallGraph) : Json :=
  let name (entry : String × Callable) : Json := .arr [.str entry.1, entry.2.toJson]
  let edge (e : CallEdge) : Json :=
    .arr [.str e.caller, .str e.callee, .obj [("count", .int e.count)]]
  .obj [("nodes", .arr (graph.names.map name)),
    ("edges", .arr (graph.edgesByCaller.map edge))]

end ControlFlow
