import ControlFlow.Graph.Build
import ControlFlow.Proofs.Graph.Flow
import ControlFlow.Proofs.Graph.Numbering

set_option autoImplicit false

namespace ControlFlow

def statementTypes : List String :=
  ["variable", "return", "expression", "if", "for", "while"]

theorem node_ids :
    (∀ (statement : Statement) (index : Nat) (frontier : List Exit),
      (thread statement index frontier).nodes.map Node.id = idRange index statement.nodeCount) ∧
    ∀ (block : List Statement) (index : Nat) (frontier : List Exit),
      (threadAll block index frontier).nodes.map Node.id = idRange index (nodeCounts block) := by
  apply flow_induction
  · intro statement flow index frontier
    obtain ⟨type, label, details, location, kinds, -, equation⟩ := thread_leaf flow
    rw [equation, nodeCount_leaf flow]
    rfl
  · intro statement yes no flow yesIds noIds index frontier
    obtain ⟨condition, location, equation⟩ := thread_branch flow
    simp [equation, branchPiece, yesIds, noIds, nodeCount_branch flow, idRange_add, Nat.add_assoc]
  · intro statement inward outward body flow bodyIds index frontier
    obtain ⟨type, condition, location, -, equation⟩ := thread_loop flow
    simp [equation, loopPiece, bodyIds, nodeCount_loop flow, idRange_add]
  · intro index frontier
    rfl
  · intro statement rest first others index frontier
    simp [threadAll_cons, Piece.append, first, others, nodeCounts, idRange_add]

theorem node_types :
    (∀ (statement : Statement) (index : Nat) (frontier : List Exit),
      ∀ node ∈ (thread statement index frontier).nodes, node.type ∈ statementTypes) ∧
    ∀ (block : List Statement) (index : Nat) (frontier : List Exit),
      ∀ node ∈ (threadAll block index frontier).nodes, node.type ∈ statementTypes := by
  apply flow_induction
  · intro statement flow index frontier node member
    obtain ⟨type, label, details, location, kinds, known, equation⟩ := thread_leaf flow
    rw [equation] at member
    obtain rfl := List.mem_singleton.mp member
    exact List.mem_append_left ["if", "for", "while"] known
  · intro statement yes no flow yesTypes noTypes index frontier node member
    obtain ⟨condition, location, equation⟩ := thread_branch flow
    simp only [equation, branchPiece, List.mem_cons, List.mem_append] at member
    rcases member with rfl | inYes | inNo
    · simp [statementTypes]
    · exact yesTypes _ _ node inYes
    · exact noTypes _ _ node inNo
  · intro statement inward outward body flow bodyTypes index frontier node member
    obtain ⟨type, condition, location, known, equation⟩ := thread_loop flow
    simp only [equation, loopPiece, List.mem_cons] at member
    rcases member with rfl | inside
    · split at known <;> simp [statementTypes, known]
    · exact bodyTypes _ _ node inside
  · intro index frontier node member
    simp [threadAll_nil, emptyPiece] at member
  · intro statement rest first others index frontier node member
    simp only [threadAll_cons, Piece.append, List.mem_append] at member
    rcases member with here | later
    · exact first _ _ node here
    · exact others _ _ node later

theorem nodesOfType_singleton (graph : Graph) (type : String) :
    graph.nodesOfType [type] = graph.nodes.filter (fun node => node.type == type) := by
  simp only [Graph.nodesOfType, List.contains_cons, List.contains_nil, Bool.or_false]

def startNode (name : String) (index : Nat) : Node :=
  ⟨nodeId index, "start", .start ("Start: " ++ name)⟩

def endNode (name : String) (index : Nat) : Node :=
  ⟨nodeId index, "end", .finish ("End: " ++ name)⟩

theorem threadFunction_nodes (name : String) (body : List Statement) (index : Nat) :
    (threadFunction name body index).nodes =
      startNode name index :: ((threadAll body (index + 1) [⟨index, none⟩]).nodes ++
        [endNode name (index + 1 + nodeCounts body)]) := by
  simp only [threadFunction, functionPiece, threadAll_nodes_length, startNode, endNode]

theorem threadFunction_nodes_length (name : String) (body : List Statement) (index : Nat) :
    (threadFunction name body index).nodes.length = nodeCounts body + 2 := by
  simp [threadFunction_nodes]

theorem threadFunction_ids (name : String) (body : List Statement) (index : Nat) :
    (threadFunction name body index).nodes.map Node.id = idRange index (nodeCounts body + 2) := by
  have split : nodeCounts body + 2 = 1 + nodeCounts body + 1 := by omega
  simp [threadFunction_nodes, node_ids.2, split, idRange_add, startNode, endNode, Nat.add_assoc]

theorem ofFunction_nodes_length (name : String) (body : List Statement) (stamp : Stamp) :
    (Graph.ofFunction name body stamp).nodes.length = nodeCounts body + 2 :=
  threadFunction_nodes_length name body 0

theorem ofFunction_ids (name : String) (body : List Statement) (stamp : Stamp) :
    (Graph.ofFunction name body stamp).nodes.map Node.id = idRange 0 (nodeCounts body + 2) :=
  threadFunction_ids name body 0

-- No statement has a type that is not its own, so the ends of a function can be told by their type.
theorem filter_threadAll_nodes (block : List Statement) (index : Nat) (frontier : List Exit)
    (type : String) (foreign : type ∉ statementTypes) :
    (threadAll block index frontier).nodes.filter (fun node => node.type == type) = [] := by
  rw [List.filter_eq_nil_iff]
  intro node member same
  rw [beq_iff_eq] at same
  exact foreign (same ▸ node_types.2 block index frontier node member)

theorem threadFunction_starts (name : String) (body : List Statement) (index : Nat) :
    (threadFunction name body index).nodes.filter (fun node => node.type == "start") =
      [startNode name index] := by
  rw [threadFunction_nodes, List.filter_cons_of_pos rfl, List.filter_append,
    filter_threadAll_nodes _ _ _ _ (by decide)]
  rfl

theorem threadFunction_ends (name : String) (body : List Statement) (index : Nat) :
    (threadFunction name body index).nodes.filter (fun node => node.type == "end") =
      [endNode name (index + 1 + nodeCounts body)] := by
  rw [threadFunction_nodes, List.filter_cons_of_neg (by simp [startNode]), List.filter_append,
    filter_threadAll_nodes _ _ _ _ (by decide)]
  rfl

theorem threadFunction_functions (name : String) (body : List Statement) (index : Nat) :
    (threadFunction name body index).nodes.filter (fun node => node.type == "function") = [] := by
  rw [threadFunction_nodes, List.filter_cons_of_neg (by simp [startNode]), List.filter_append,
    filter_threadAll_nodes _ _ _ _ (by decide)]
  rfl

def functionNode (function : FunctionDecl) (index : Nat) : Node :=
  ⟨nodeId index, "function",
    .function function.name (function.parameters.map Parameter.render)
      (idRange (index + 1) (nodeCounts function.body + 2)) function.returnType function.location⟩

theorem containedFunction_nodes (function : FunctionDecl) (index : Nat) :
    (containedFunction function index).nodes =
      functionNode function index ::
        (threadFunction function.name function.body (index + 1)).nodes := by
  simp only [containedFunction, threadFunction_nodes_length, functionNode]

theorem containedFunction_nodes_length (function : FunctionDecl) (index : Nat) :
    (containedFunction function index).nodes.length = nodeCounts function.body + 3 := by
  simp [containedFunction_nodes, threadFunction_nodes_length]

theorem containedFunction_ids (function : FunctionDecl) (index : Nat) :
    (containedFunction function index).nodes.map Node.id =
      idRange index (nodeCounts function.body + 3) := by
  have split : nodeCounts function.body + 3 = 1 + (nodeCounts function.body + 2) := by omega
  simp [containedFunction_nodes, threadFunction_ids, split, idRange_add, functionNode]

-- Every function with the number of the node that holds it.
def placed : List FunctionDecl → Nat → List (FunctionDecl × Nat)
  | [], _ => []
  | function :: rest, index =>
      (function, index) :: placed rest (index + (nodeCounts function.body + 3))

theorem containedFunctions_eq (functions : List FunctionDecl) (index : Nat) :
    (containedFunctions functions index).nodes =
        (placed functions index).flatMap (fun entry => (containedFunction entry.1 entry.2).nodes) ∧
      (containedFunctions functions index).arcs =
        (placed functions index).flatMap (fun entry => (containedFunction entry.1 entry.2).arcs) ∧
      (containedFunctions functions index).diagnostics =
        (placed functions index).flatMap
          (fun entry => (containedFunction entry.1 entry.2).diagnostics) := by
  induction functions generalizing index with
  | nil => exact ⟨rfl, rfl, rfl⟩
  | cons function rest ih =>
    simp [containedFunctions, Piece.append, placed, containedFunction_nodes_length, ih]

theorem containedFunctions_ids (functions : List FunctionDecl) (index : Nat) :
    ∃ count, (containedFunctions functions index).nodes.map Node.id = idRange index count := by
  induction functions generalizing index with
  | nil => exact ⟨0, rfl⟩
  | cons function rest ih =>
    obtain ⟨count, others⟩ := ih (index + (nodeCounts function.body + 3))
    refine ⟨nodeCounts function.body + 3 + count, ?_⟩
    rw [containedFunctions, Piece.append, List.map_append, containedFunction_ids,
      containedFunction_nodes_length, others, ← idRange_add]

theorem ofFunctions_containers (functions : List FunctionDecl) (stamp : Stamp) :
    (Graph.ofFunctions functions stamp).nodesOfType ["function"] =
      (placed functions 0).map (fun entry => functionNode entry.1 entry.2) := by
  have each (entry : FunctionDecl × Nat) :
      (containedFunction entry.1 entry.2).nodes.filter (fun node => node.type == "function") =
        [functionNode entry.1 entry.2] := by
    rw [containedFunction_nodes, List.filter_cons_of_pos (by simp [functionNode]),
      threadFunction_functions]
  rw [nodesOfType_singleton, Graph.ofFunctions, Graph.ofPiece,
    (containedFunctions_eq functions 0).1, List.filter_flatMap, List.map_eq_flatMap]
  simp only [each]

theorem graph_cases {program : Program} {metadata : Metadata} {selection : Selection}
    {timestamp : Int} {graph : Graph}
    (built : program.graph metadata selection timestamp = .ok graph) :
    (∃ functions stamp, graph = .ofFunctions functions stamp) ∨
      ∃ name body stamp, graph = .ofFunction name body stamp := by
  cases selection with
  | every =>
    cases built
    exact .inl ⟨_, _, rfl⟩
  | unnamed shown => cases shown <;> cases built
  | first =>
    simp only [Program.graph] at built
    split at built <;> cases built
    exact .inr ⟨_, _, _, rfl⟩
  | named name =>
    simp only [Program.graph] at built
    split at built <;> cases built
    exact .inr ⟨_, _, _, rfl⟩

-- What does not look at the number of an edge sees only the arcs.
theorem map_edgesOf {γ : Type} (arcs : List Arc) (ofEdge : Edge → γ) (ofArc : Arc → γ)
    (same : ∀ arc index, ofEdge (arc.toEdge index) = ofArc arc) :
    (edgesOf arcs).map ofEdge = arcs.map ofArc := by
  apply List.ext_getElem
  · simp [edgesOf]
  · intro position _ _
    simp [edgesOf, same]

theorem edgesOf_ids (arcs : List Arc) :
    (edgesOf arcs).map Edge.id = (List.range (edgesOf arcs).length).map edgeId := by
  apply List.ext_getElem
  · simp
  · intro position _ _
    simp [edgesOf, Arc.toEdge]

theorem edgesOf_ends (arcs : List Arc) :
    (edgesOf arcs).map (fun edge => (edge.source, edge.target)) =
      arcs.map (fun arc => (nodeId arc.source, nodeId arc.target)) :=
  map_edgesOf arcs _ _ (fun _ _ => rfl)

end ControlFlow
