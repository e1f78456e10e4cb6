import ControlFlow.Location
import ControlFlow.Metadata

set_option autoImplicit false

namespace ControlFlow

inductive Node.Form where
  | start (label : String)
  | finish (label : String)
  | function (name : String) (parameters bodyIds : List String) (returnType : Option String)
      (location : Location)
  | control (condition : Option String) (branches : List (String × List String))
      (location : Location)
  | process (label : String) (details : Option String) (location : Location)
  deriving DecidableEq, Repr

structure Node where
  id : String
  type : String
  form : Node.Form
  deriving DecidableEq, Repr

structure Edge where
  id : String
  source : String
  target : String
  label : Option String
  type : String
  deriving DecidableEq, Repr

structure Graph where
  stamp : Stamp
  nodes : List Node
  edges : List Edge
  entry : Option String
  diagnostics : List String
  deriving DecidableEq, Repr

def Node.label (node : Node) : String :=
  match node.form with
  | .start label | .finish label | .process label _ _ => label
  | .function name parameters _ _ _ => name ++ "(" ++ ", ".intercalate parameters ++ ")"
  | .control none _ _ => node.type
  | .control (some condition) _ _ =>
      if condition.isEmpty then node.type else node.type ++ " " ++ condition

def Node.isFunction (node : Node) : Bool :=
  match node.form with
  | .function .. => true
  | _ => false

namespace Graph

def node (graph : Graph) (id : String) : Except Failure Node :=
  match graph.nodes.find? (fun n => n.id == id) with
  | some n => .ok n
  | none => .error (.unknownKey id)

def nodesOfType (graph : Graph) (types : List String) : List Node :=
  graph.nodes.filter (fun n => types.contains n.type)

def edgesFrom (graph : Graph) (id : String) : List Edge :=
  graph.edges.filter (fun e => e.source == id)

def edgesTo (graph : Graph) (id : String) : List Edge :=
  graph.edges.filter (fun e => e.target == id)

end Graph

end ControlFlow
