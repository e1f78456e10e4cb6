import ControlFlow.Proofs.Graph.Layout
import ControlFlow.Proofs.Graph.Shift
import ControlFlow.Proofs.Graph.Successor

set_option autoImplicit false

namespace ControlFlow

def FunctionDecl.graph (function : FunctionDecl) (stamp : Stamp) : Graph :=
  .ofFunction function.name function.body stamp

-- What a function gives to the nodes of a larger graph: the node that holds it, then its own.
def FunctionDecl.copiedNodes (function : FunctionDecl) (stamp : Stamp) (index : Nat) : List Node :=
  ⟨nodeId index, "function",
    .function function.name (function.parameters.map Parameter.render)
      (idRange (index + 1) (function.graph stamp).nodes.length) function.returnType
      function.location⟩ ::
    (function.graph stamp).nodes.map (Node.shift (index + 1))

-- Each function takes up one node more than it has: the one that holds it.
def nodesBefore (functions : List FunctionDecl) (stamp : Stamp) (position : Nat) : Nat :=
  ((functions.take position).map fun function => (function.graph stamp).nodes.length + 1).sum

def edgesBefore (functions : List FunctionDecl) (stamp : Stamp) (position : Nat) : Nat :=
  ((functions.take position).map fun function => (function.graph stamp).edges.length).sum

def ownIds (functions : List FunctionDecl) (stamp : Stamp) (position : Nat)
    (function : FunctionDecl) : List String :=
  idRange (nodesBefore functions stamp position + 1) (function.graph stamp).nodes.length

/-- A graph put together from the graphs of functions, one after the other. -/
structure Graph.IsUnion (graph : Graph) (functions : List FunctionDecl) (stamp : Stamp) : Prop where
  stamped : graph.stamp = stamp
  entry : graph.entry = if functions.isEmpty then none else some (nodeId 1)
  nodes : graph.nodes = functions.zipIdx.flatMap fun entry =>
    entry.1.copiedNodes stamp (nodesBefore functions stamp entry.2)
  edges : graph.edges = functions.zipIdx.flatMap fun entry =>
    (entry.1.graph stamp).edges.map
      (Edge.shift (nodesBefore functions stamp entry.2 + 1) (edgesBefore functions stamp entry.2))
  diagnostics : graph.diagnostics = functions.zipIdx.flatMap fun entry =>
    (entry.1.graph stamp).diagnostics.map
      (addToNumber (nodesBefore functions stamp entry.2 + 1))
  -- Where the nodes of each function stand.
  places : ∀ position function, functions[position]? = some function →
    ∀ inner ≤ (function.graph stamp).nodes.length,
      graph.nodes[nodesBefore functions stamp position + inner]? =
        (function.copiedNodes stamp (nodesBefore functions stamp position))[inner]?
  -- Every edge stays among the own nodes of a function, and of no other one.
  owned : ∀ edge ∈ graph.edges, ∃ position function, functions[position]? = some function ∧
    edge.source ∈ ownIds functions stamp position function ∧
    edge.target ∈ ownIds functions stamp position function
  apart : ∀ edge ∈ graph.edges, ∀ position function other another,
    functions[position]? = some function → functions[other]? = some another →
    edge.source ∈ ownIds functions stamp position function →
    edge.target ∈ ownIds functions stamp other another → position = other
  untouched : ∀ edge ∈ graph.edges, ∀ node ∈ graph.nodesOfType ["function"],
    edge.source ≠ node.id ∧ edge.target ≠ node.id

section

variable (stamp : Stamp)

theorem graph_nodes_length (function : FunctionDecl) :
    (function.graph stamp).nodes.length = nodeCounts function.body + 2 :=
  threadFunction_nodes_length function.name function.body 0

theorem copiedNodes_length (function : FunctionDecl) (index : Nat) :
    (function.copiedNodes stamp index).length = (function.graph stamp).nodes.length + 1 := by
  simp [FunctionDecl.copiedNodes]

@[simp] theorem nodesBefore_zero (functions : List FunctionDecl) :
    nodesBefore functions stamp 0 = 0 := by
  simp [nodesBefore]

@[simp] theorem nodesBefore_succ (function : FunctionDecl) (rest : List FunctionDecl)
    (position : Nat) :
    nodesBefore (function :: rest) stamp (position + 1) =
      (function.graph stamp).nodes.length + 1 + nodesBefore rest stamp position := by
  simp [nodesBefore]

@[simp] theorem edgesBefore_zero (functions : List FunctionDecl) :
    edgesBefore functions stamp 0 = 0 := by
  simp [edgesBefore]

@[simp] theorem edgesBefore_succ (function : FunctionDecl) (rest : List FunctionDecl)
    (position : Nat) :
    edgesBefore (function :: rest) stamp (position + 1) =
      (function.graph stamp).edges.length + edgesBefore rest stamp position := by
  simp [edgesBefore]

/-! One function -/

theorem containedFunction_copies (function : FunctionDecl) (index : Nat) :
    (containedFunction function index).nodes = function.copiedNodes stamp index ∧
      (containedFunction function index).arcs =
        (threadFunction function.name function.body 0).arcs.map (Arc.shift (index + 1)) ∧
      (containedFunction function index).diagnostics =
        (function.graph stamp).diagnostics.map (addToNumber (index + 1)) := by
  have moved := threadFunction_shift (index + 1) function.name function.body 0
  rw [Nat.zero_add] at moved
  refine ⟨?_, ?_, ?_⟩
  · rw [containedFunction_nodes, moved, functionNode, FunctionDecl.copiedNodes, graph_nodes_length]
    rfl
  · simp only [containedFunction, moved]
    rfl
  · simp only [containedFunction, moved]
    rfl

/-! All functions -/

theorem placed_eq (functions : List FunctionDecl) (index : Nat) :
    placed functions index = functions.zipIdx.map fun entry =>
      (entry.1, index + nodesBefore functions stamp entry.2) := by
  induction functions generalizing index with
  | nil => rfl
  | cons function rest ih =>
    rw [placed, ih, List.zipIdx_cons, List.map_cons, Nat.zero_add, List.zipIdx_succ, List.map_map]
    simp [graph_nodes_length, Nat.add_assoc, Function.comp_def]

-- Edges are numbered through, so the edges of a function depend on how many come before.
theorem containedFunctions_edges (functions : List FunctionDecl) (index first : Nat) :
    (containedFunctions functions index).arcs.mapIdx
        (fun position arc => arc.toEdge (position + first)) =
      functions.zipIdx.flatMap fun entry =>
        (entry.1.graph stamp).edges.map
          (Edge.shift (index + nodesBefore functions stamp entry.2 + 1)
            (first + edgesBefore functions stamp entry.2)) := by
  induction functions generalizing index first with
  | nil => rfl
  | cons function rest ih =>
    obtain ⟨nodes, arcs, -⟩ := containedFunction_copies stamp function index
    have count : (containedFunction function index).arcs.length =
        (function.graph stamp).edges.length := by
      rw [arcs]
      simp [FunctionDecl.graph, Graph.ofFunction, Graph.ofPiece, edgesOf]
    have here := edgesOf_shift (index + 1) first (threadFunction function.name function.body 0).arcs
    have later := ih (index + ((function.graph stamp).nodes.length + 1))
      ((function.graph stamp).edges.length + first)
    rw [containedFunctions, Piece.append, List.mapIdx_append, count, nodes, copiedNodes_length,
      List.zipIdx_cons, List.flatMap_cons, Nat.zero_add, List.zipIdx_succ, List.flatMap_map, arcs,
      ← here]
    simp only [Nat.add_assoc _ (function.graph stamp).edges.length first, later, nodesBefore_zero,
      nodesBefore_succ, edgesBefore_zero, edgesBefore_succ, Nat.add_zero]
    simp only [Nat.add_assoc, Nat.add_left_comm first]
    rfl

theorem containedFunctions_places (functions : List FunctionDecl) (index position : Nat)
    (function : FunctionDecl) (known : functions[position]? = some function) (inner : Nat)
    (bound : inner ≤ (function.graph stamp).nodes.length) :
    (containedFunctions functions index).nodes[nodesBefore functions stamp position + inner]? =
      (function.copiedNodes stamp (index + nodesBefore functions stamp position))[inner]? := by
  induction functions generalizing index position with
  | nil => simp at known
  | cons head rest ih =>
    obtain ⟨nodes, -, -⟩ := containedFunction_copies stamp head index
    rw [containedFunctions, Piece.append, nodes]
    cases position with
    | zero =>
      obtain rfl : head = function := by simpa using known
      rw [nodesBefore_zero, Nat.zero_add, List.getElem?_append_left, Nat.add_zero]
      rw [copiedNodes_length]
      omega
    | succ position =>
      rw [nodesBefore_succ, List.getElem?_append_right, copiedNodes_length]
      · have later :=
          ih (index + ((head.graph stamp).nodes.length + 1)) position (by simpa using known)
        rw [Nat.add_assoc index] at later
        rw [← later]
        congr 1
        omega
      · rw [copiedNodes_length]
        omega

theorem nodesBefore_gap (functions : List FunctionDecl) (position other : Nat)
    (function : FunctionDecl) (known : functions[position]? = some function)
    (later : position < other) :
    nodesBefore functions stamp position + (function.graph stamp).nodes.length + 1 ≤
      nodesBefore functions stamp other := by
  induction functions generalizing position other with
  | nil => simp at known
  | cons head rest ih =>
    obtain ⟨other, rfl⟩ : ∃ before, other = before + 1 := ⟨other - 1, by omega⟩
    cases position with
    | zero =>
      obtain rfl : head = function := by simpa using known
      rw [nodesBefore_zero, nodesBefore_succ]
      omega
    | succ position =>
      have gap := ih position other (by simpa using known) (by omega)
      rw [nodesBefore_succ, nodesBefore_succ]
      omega

theorem ownIds_unique (functions : List FunctionDecl) {position other : Nat}
    {function another : FunctionDecl} (known : functions[position]? = some function)
    (known' : functions[other]? = some another) {id : String}
    (here : id ∈ ownIds functions stamp position function)
    (there : id ∈ ownIds functions stamp other another) : position = other := by
  obtain ⟨index, -, rfl⟩ := List.mem_map.mp here
  rw [ownIds, mem_idRange] at here there
  rcases Nat.lt_trichotomy position other with less | same | greater
  · have gap := nodesBefore_gap stamp functions position other function known less
    omega
  · exact same
  · have gap := nodesBefore_gap stamp functions other position another known' greater
    omega

-- The node that holds a function stands before the nodes of that function and of all later ones.
theorem container_notMem_ownIds (functions : List FunctionDecl) {position other : Nat}
    {function another : FunctionDecl} (known : functions[position]? = some function)
    (known' : functions[other]? = some another) :
    nodeId (nodesBefore functions stamp other) ∉ ownIds functions stamp position function := by
  rw [ownIds, mem_idRange]
  rcases Nat.lt_trichotomy position other with less | rfl | greater
  · have gap := nodesBefore_gap stamp functions position other function known less
    omega
  · omega
  · have gap := nodesBefore_gap stamp functions other position another known' greater
    omega

theorem graph_edge_ids (function : FunctionDecl) :
    ∀ edge ∈ (function.graph stamp).edges,
      edge.source ∈ idRange 0 (function.graph stamp).nodes.length ∧
        edge.target ∈ idRange 0 (function.graph stamp).nodes.length := by
  intro edge member
  have pair : (edge.source, edge.target) ∈ (function.graph stamp).edges.map
      (fun edge => (edge.source, edge.target)) := List.mem_map_of_mem member
  rw [FunctionDecl.graph, Graph.ofFunction, Graph.ofPiece, edgesOf_ends, List.mem_map] at pair
  obtain ⟨arc, inside, same⟩ := pair
  rw [Prod.mk.injEq] at same
  rw [mem_threadFunction_arcs] at inside
  have within := functionArcs_within function.body 0 arc inside
  rw [Arc.Within] at within
  rw [← same.1, ← same.2, mem_idRange, mem_idRange, graph_nodes_length]
  omega

/-! The graph of all functions -/

section

variable (functions : List FunctionDecl)

theorem ofFunctions_edges :
    (Graph.ofFunctions functions stamp).edges = functions.zipIdx.flatMap fun entry =>
      (entry.1.graph stamp).edges.map
        (Edge.shift (nodesBefore functions stamp entry.2 + 1)
          (edgesBefore functions stamp entry.2)) := by
  have edges := containedFunctions_edges stamp functions 0 0
  simp only [Nat.zero_add, Nat.add_zero] at edges
  rw [← edges]
  rfl

theorem ofFunctions_owned :
    ∀ edge ∈ (Graph.ofFunctions functions stamp).edges, ∃ position function,
      functions[position]? = some function ∧
        edge.source ∈ ownIds functions stamp position function ∧
        edge.target ∈ ownIds functions stamp position function := by
  intro edge member
  rw [ofFunctions_edges, List.mem_flatMap] at member
  obtain ⟨⟨function, position⟩, known, moved⟩ := member
  obtain ⟨original, inside, rfl⟩ := List.mem_map.mp moved
  have ends := graph_edge_ids stamp function original inside
  have ids := map_addToNumber_idRange (nodesBefore functions stamp position + 1) 0
    (function.graph stamp).nodes.length
  rw [Nat.zero_add] at ids
  refine ⟨position, function, List.mem_zipIdx_iff_getElem?.mp known, ?_⟩
  rw [ownIds, ← ids]
  exact ⟨List.mem_map_of_mem ends.1, List.mem_map_of_mem ends.2⟩

theorem ofFunctions_isUnion : (Graph.ofFunctions functions stamp).IsUnion functions stamp where
  stamped := rfl
  entry := rfl
  nodes := by
    rw [Graph.ofFunctions, Graph.ofPiece, (containedFunctions_eq functions 0).1, placed_eq stamp,
      List.flatMap_map]
    simp only [containedFunction_copies stamp, Nat.zero_add]
  edges := ofFunctions_edges stamp functions
  diagnostics := by
    rw [Graph.ofFunctions, Graph.ofPiece, (containedFunctions_eq functions 0).2.2, placed_eq stamp,
      List.flatMap_map]
    simp only [containedFunction_copies stamp, Nat.zero_add]
  places := by
    intro position function known inner bound
    have place := containedFunctions_places stamp functions 0 position function known inner bound
    rwa [Nat.zero_add] at place
  owned := ofFunctions_owned stamp functions
  apart := by
    intro edge member position function other another known known' source target
    obtain ⟨own, owner, present, ownSource, ownTarget⟩ :=
      ofFunctions_owned stamp functions edge member
    rw [ownIds_unique stamp functions known present source ownSource]
    exact ownIds_unique stamp functions present known' ownTarget target
  untouched := by
    intro edge member node container
    obtain ⟨own, owner, present, ownSource, ownTarget⟩ :=
      ofFunctions_owned stamp functions edge member
    rw [ofFunctions_containers, placed_eq stamp, List.map_map, List.mem_map] at container
    obtain ⟨⟨function, position⟩, known, rfl⟩ := container
    have outside := container_notMem_ownIds stamp functions present
      (List.mem_zipIdx_iff_getElem?.mp known)
    simp only [Function.comp_apply, functionNode, Nat.zero_add]
    exact ⟨fun same => outside (same ▸ ownSource), fun same => outside (same ▸ ownTarget)⟩

end

end

/-! Selections -/

def FirstNamed (functions : List FunctionDecl) (name : Json) (function : FunctionDecl) : Prop :=
  ∃ before after, functions = before ++ function :: after ∧ .str function.name = name ∧
    ∀ earlier ∈ before, .str earlier.name ≠ name

section

variable (program : Program) (metadata : Metadata) (timestamp : Int)

theorem selection_cases {name : Json} (chosen : name ≠ .null) (single : name ≠ .str "*") :
    (∃ text, name = .str text ∧ Selection.ofJson name = .named text) ∨
      (∀ text, Json.str text ≠ name) ∧ Selection.ofJson name = .unnamed name.text := by
  cases name with
  | null => exact absurd rfl chosen
  | str text =>
    have other : text ≠ "*" := fun same => single (same ▸ rfl)
    exact .inl ⟨text, rfl, by simp [Selection.ofJson]⟩
  | bool | int | float | arr | obj => exact .inr ⟨by simp, rfl⟩

theorem graph_named_found (name : String) (function : FunctionDecl)
    (first : FirstNamed program.functions (.str name) function) :
    program.graph metadata (.named name) timestamp =
      .ok (function.graph (metadata.stamp timestamp)) := by
  obtain ⟨before, after, split, same, earlier⟩ := first
  have found : program.findFunction name = some function := by
    rw [Program.findFunction, List.find?_eq_some_iff_append]
    refine ⟨by simpa using same, before, after, split, ?_⟩
    intro other member
    simpa using earlier other member
  simp only [Program.graph, found]
  rfl

theorem graph_named_failure (name : String) :
    (∃ failure, program.graph metadata (.named name) timestamp = .error failure ∧
      failure.category = "LookupError") ↔
    ∀ function ∈ program.functions, Json.str function.name ≠ .str name := by
  have missing : program.findFunction name = none ↔
      ∀ function ∈ program.functions, Json.str function.name ≠ .str name := by
    simp [Program.findFunction, List.find?_eq_none]
  rw [← missing]
  cases found : program.findFunction name with
  | none => simp [Program.graph, found, Failure.category]
  | some function => simp [Program.graph, found]

theorem graph_named_error (name : String) :
    (∃ failure, program.graph metadata (.named name) timestamp = .error failure) ↔
      ∃ failure, program.graph metadata (.named name) timestamp = .error failure ∧
        failure.category = "LookupError" := by
  cases found : program.findFunction name <;> simp [Program.graph, found, Failure.category]

theorem graph_of_name (name : Json) (chosen : name ≠ .null) (single : name ≠ .str "*") :
    (∀ function, FirstNamed program.functions name function →
      program.graph metadata (.ofJson name) timestamp =
        .ok (function.graph (metadata.stamp timestamp))) ∧
    ((∃ failure, program.graph metadata (.ofJson name) timestamp = .error failure) ↔
      ∀ function ∈ program.functions, Json.str function.name ≠ name) ∧
    (name.isLegible → ((∃ failure, program.graph metadata (.ofJson name) timestamp =
        .error failure ∧ failure.category = "LookupError") ↔
      ∀ function ∈ program.functions, Json.str function.name ≠ name)) := by
  rcases selection_cases chosen single with ⟨text, rfl, selected⟩ | ⟨foreign, selected⟩
  · have absent := graph_named_failure program metadata timestamp text
    rw [selected]
    exact ⟨graph_named_found program metadata timestamp text,
      (graph_named_error program metadata timestamp text).trans absent, fun _ => absent⟩
  · -- A value that is no text is nobody's name.
    rw [selected]
    refine ⟨?_, ?_, fun legible => ?_⟩
    · rintro function ⟨_, _, _, same, _⟩
      exact absurd same (foreign _)
    · cases name.text <;> simp [Program.graph, bind, Except.bind, foreign]
    · rw [Json.text, if_pos legible]
      simp [Program.graph, bind, Except.bind, Failure.category, foreign]

theorem program_graph_union :
    (∃ whole, program.graph metadata .every timestamp = .ok whole ∧
      whole.IsUnion program.functions (metadata.stamp timestamp)) ∧
    ∀ name : Json, name ≠ .null → name ≠ .str "*" →
      (∀ function, FirstNamed program.functions name function →
        program.graph metadata (.ofJson name) timestamp =
          .ok (function.graph (metadata.stamp timestamp))) ∧
      ((∃ failure, program.graph metadata (.ofJson name) timestamp = .error failure) ↔
        ∀ function ∈ program.functions, Json.str function.name ≠ name) ∧
      (name.isLegible → ((∃ failure, program.graph metadata (.ofJson name) timestamp =
          .error failure ∧ failure.category = "LookupError") ↔
        ∀ function ∈ program.functions, Json.str function.name ≠ name)) := by
  refine ⟨⟨_, rfl, ofFunctions_isUnion _ _⟩, ?_⟩
  intro name chosen single
  exact graph_of_name program metadata timestamp name chosen single

end

def sameNameProgram : Program :=
  ⟨[.function "f" [] [.expression "x" .unknown] none .unknown, .function "f" [] [] none .unknown],
    none⟩

theorem program_graph_union_same_name :
    sameNameProgram.graph ⟨"python", "a"⟩ (.ofJson (.str "f")) 0 =
      .ok (.ofFunction "f" [.expression "x" .unknown] (Metadata.stamp ⟨"python", "a"⟩ 0)) ∧
    ∃ failure, sameNameProgram.graph ⟨"python", "a"⟩ (.ofJson (.str "g")) 0 = .error failure ∧
      failure.category = "LookupError" := by
  have named := (program_graph_union sameNameProgram ⟨"python", "a"⟩ 0).2
  constructor
  · apply (named (.str "f") (by simp) (by simp)).1
      ⟨"f", [], [.expression "x" .unknown], none, .unknown⟩
    exact ⟨[], [⟨"f", [], [], none, .unknown⟩], rfl, rfl, by simp⟩
  · apply ((named (.str "g") (by simp) (by simp)).2.2 rfl).mpr
    simp [sameNameProgram, Program.functions, Statement.function?]

end ControlFlow
