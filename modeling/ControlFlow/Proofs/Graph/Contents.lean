import ControlFlow.Proofs.Graph.Preorder
import ControlFlow.Proofs.Graph.Verify

set_option autoImplicit false

namespace ControlFlow

theorem node_eq_ok {graph : Graph} (unique : (graph.nodes.map Node.id).Nodup) {node : Node}
    (member : node ∈ graph.nodes) : graph.node node.id = .ok node := by
  rw [Graph.node, find?_of_unique unique member]

theorem ofFunctions_contents {functions : List FunctionDecl} (stamp : Stamp)
    {entry : FunctionDecl × Nat} (member : entry ∈ placed functions 0) :
    (idRange (entry.2 + 1) (nodeCounts entry.1.body + 2)).mapM
        (Graph.ofFunctions functions stamp).node =
      .ok (threadFunction entry.1.name entry.1.body (entry.2 + 1)).nodes := by
  have unique := ofFunctions_unique functions stamp
  have holds := ofFunctions_holds stamp member
  rw [← threadFunction_ids entry.1.name, List.mapM_map]
  have each := mapM_ok ((Graph.ofFunctions functions stamp).node ∘ Node.id) id
    (threadFunction entry.1.name entry.1.body (entry.2 + 1)).nodes
    (fun node inside => node_eq_ok unique (holds.nodes node inside))
  rwa [List.map_id] at each

theorem placed_functions (functions : List FunctionDecl) (index : Nat) :
    (placed functions index).map Prod.fst = functions := by
  induction functions generalizing index with
  | nil => rfl
  | cons function rest ih => rw [placed, List.map_cons, ih]

theorem map_nodesFrom {γ : Type} (ofNode : Node → γ) (ofStatement : Statement → γ)
    (same : ∀ statement index, ofNode (Statement.node statement index) = ofStatement statement)
    (first : Nat) (statements : List Statement) :
    (nodesFrom first statements).map ofNode = statements.map ofStatement := by
  induction statements generalizing first with
  | nil => rfl
  | cons statement rest ih => rw [nodesFrom_cons, List.map_cons, List.map_cons, same, ih]

-- What holds of the two ends and of the node of every statement holds throughout a function.
theorem forall_threadFunction {P : Node → Prop} (starts : ∀ name index, P (startNode name index))
    (ends : ∀ name index, P (endNode name index))
    (statements : ∀ statement index, P (Statement.node statement index)) (name : String)
    (body : List Statement) (index : Nat) :
    ∀ node ∈ (threadFunction name body index).nodes, P node := by
  have inner : ∀ node ∈ nodesFrom (index + 1) (blockPreorder body), P node := by
    intro node member
    obtain ⟨⟨statement, number⟩, -, rfl⟩ := List.mem_map.mp member
    exact statements statement number
  simp only [threadFunction_preorder, List.forall_mem_cons, List.forall_mem_append]
  exact ⟨starts name index, inner, ends name _, by simp⟩

theorem threadFunction_plain (name : String) (body : List Statement) (index : Nat) :
    ∀ node ∈ (threadFunction name body index).nodes, node.isFunction = false := by
  apply forall_threadFunction
  · exact fun _ _ => rfl
  · exact fun _ _ => rfl
  · intro statement index
    cases statement <;> rfl

section

variable (functions : List FunctionDecl) (stamp : Stamp)

theorem ofFunctions_nodes :
    (Graph.ofFunctions functions stamp).nodes = (placed functions 0).flatMap fun entry =>
      functionNode entry.1 entry.2 ::
        (threadFunction entry.1.name entry.1.body (entry.2 + 1)).nodes := by
  rw [Graph.ofFunctions, Graph.ofPiece, (containedFunctions_eq functions 0).1]
  simp only [containedFunction_nodes]

variable {functions stamp} in
theorem forall_ofFunctions {P : Node → Prop}
    (containers : ∀ function index, P (functionNode function index))
    (bodies : ∀ name body index, ∀ node ∈ (threadFunction name body index).nodes, P node) :
    ∀ node ∈ (Graph.ofFunctions functions stamp).nodes, P node := by
  intro node member
  rw [ofFunctions_nodes, List.mem_flatMap] at member
  obtain ⟨entry, -, inside⟩ := member
  rcases List.mem_cons.mp inside with rfl | inner
  · exact containers entry.1 entry.2
  · exact bodies _ _ _ node inner

theorem ofFunctions_functions :
    (Graph.ofFunctions functions stamp).nodes.filter Node.isFunction =
      (placed functions 0).map fun entry => functionNode entry.1 entry.2 := by
  have each (entry : FunctionDecl × Nat) :
      (functionNode entry.1 entry.2 ::
          (threadFunction entry.1.name entry.1.body (entry.2 + 1)).nodes).filter Node.isFunction =
        [functionNode entry.1 entry.2] := by
    rw [List.filter_cons_of_pos rfl, List.cons_eq_cons]
    simpa using threadFunction_plain entry.1.name entry.1.body (entry.2 + 1)
  rw [ofFunctions_nodes, List.filter_flatMap, List.map_eq_flatMap]
  simp only [each]

theorem ofFunctions_others :
    (Graph.ofFunctions functions stamp).nodes.filter (fun node => !node.isFunction) =
      (placed functions 0).flatMap fun entry =>
        (threadFunction entry.1.name entry.1.body (entry.2 + 1)).nodes := by
  have each (entry : FunctionDecl × Nat) :
      (functionNode entry.1 entry.2 ::
          (threadFunction entry.1.name entry.1.body (entry.2 + 1)).nodes).filter
          (fun node => !node.isFunction) =
        (threadFunction entry.1.name entry.1.body (entry.2 + 1)).nodes := by
    rw [List.filter_cons_of_neg (by simp [functionNode, Node.isFunction])]
    simpa using threadFunction_plain entry.1.name entry.1.body (entry.2 + 1)
  rw [ofFunctions_nodes, List.filter_flatMap]
  simp only [each]

end

end ControlFlow
