import ControlFlow.Graph.Multigraph

set_option autoImplicit false

namespace ControlFlow

structure Group where
  name : String
  members : List String

def Node.Form.name : Node.Form → String
  | .start _ => "IRStartNode"
  | .finish _ => "IREndNode"
  | .function .. => "IRFunctionNode"
  | .control .. => "IRControlFlowNode"
  | .process .. => "IRProcessNode"

def Node.group (node : Node) : Except Failure Group :=
  match node.form with
  | .function name _ bodyIds _ _ => .ok ⟨name, distinct bodyIds⟩
  | form => .error (.noMember form.name "name")

namespace Graph

def groups (graph : Graph) : Except Failure (List Group) :=
  match graph.nodesOfType ["function"] with
  | [] => .ok [⟨"<graph>", distinct (graph.nodes.map (fun n => n.id))⟩]
  | containers => containers.mapM Node.group

def typeOf (graph : Graph) (id : String) : Except Failure String :=
  match graph.lastNode? id with
  | some n => .ok n.type
  | none =>
      if graph.edges.any (fun e => e.source == id || e.target == id) then
        .error (.unknownKey "type")
      else .error (.unknownKey id)

def pairs (graph : Graph) : List (String × String) :=
  graph.edges.map (fun e => (e.source, e.target))

def membersOfType (type : String) (typed : List (String × String)) : List String :=
  (typed.filter (fun entry => entry.2 == type)).map Prod.fst

def strayMembers (graph : Graph) (group : Group) (start stop : String) : List String :=
  let ahead := reachable graph.pairs start
  let behind := reachable (reversed graph.pairs) stop
  let outside (seen : List String) : List String :=
    sortTexts (group.members.filter (fun id => !seen.contains id))
  (outside ahead).map (fun id => group.name ++ ": " ++ id ++ " is unreachable from start") ++
    (outside behind).map (fun id => group.name ++ ": " ++ id ++ " never reaches end")

def verifyGroup (graph : Graph) (group : Group) : Except Failure (List String) := do
  let typed ← group.members.mapM fun id => do
    let type ← graph.typeOf id
    .ok (id, type)
  let starts := membersOfType "start" typed
  let ends := membersOfType "end" typed
  match starts, ends with
  | [start], [stop] => .ok (strayMembers graph group start stop)
  | _, _ =>
      .ok [group.name ++ ": expected one start and one end, found " ++ toString starts.length ++
        " and " ++ toString ends.length]

-- All violations, group by group.
def verify (graph : Graph) : Except Failure (List String) := do
  let groups ← graph.groups
  let problems ← groups.mapM graph.verifyGroup
  .ok problems.flatten

end Graph

end ControlFlow
