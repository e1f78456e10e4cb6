import ControlFlow.Graph.Verify
import ControlFlow.Proofs.Graph.Connected
import ControlFlow.Proofs.Reach
import ControlFlow.Scan

set_option autoImplicit false

namespace ControlFlow

theorem mapM_ok {γ δ : Type} (step : γ → Except Failure δ) (value : γ → δ) (items : List γ)
    (each : ∀ item ∈ items, step item = .ok (value item)) :
    items.mapM step = .ok (items.map value) := by
  induction items with
  | nil => rfl
  | cons head rest ih =>
    rw [List.mapM_cons, each head (by simp), ih fun item member => each item (by simp [member])]
    rfl

/-- A group with one start and one end in which every member lies on a way from the one to the
other. -/
def Graph.GroupSound (graph : Graph) (group : Group) : Prop :=
  ∃ start stop : Node,
    graph.nodes.filter (fun node => group.members.contains node.id && node.type == "start") =
      [start] ∧
    graph.nodes.filter (fun node => group.members.contains node.id && node.type == "end") =
      [stop] ∧
    ∀ id ∈ group.members, Leads graph.pairs start.id id ∧ Leads graph.pairs id stop.id

structure Graph.Holds (graph : Graph) (piece : Piece) : Prop where
  nodes : ∀ node ∈ piece.nodes, node ∈ graph.nodes
  arcs : ∀ arc ∈ piece.arcs, (nodeId arc.source, nodeId arc.target) ∈ graph.pairs

section

variable {graph : Graph} {name : String} {body : List Statement} {index : Nat}

theorem eq_of_same_id (unique : (graph.nodes.map Node.id).Nodup) {left right : Node}
    (inLeft : left ∈ graph.nodes) (inRight : right ∈ graph.nodes) (same : left.id = right.id) :
    left = right :=
  List.inj_on_of_nodup_map unique inLeft inRight same

theorem find?_of_unique {nodes : List Node} (unique : (nodes.map Node.id).Nodup) {node : Node}
    (member : node ∈ nodes) : nodes.find? (fun other => other.id == node.id) = some node := by
  cases found : nodes.find? (fun other => other.id == node.id) with
  | none =>
    have missing := List.find?_eq_none.mp found node member
    simp at missing
  | some first =>
    have same : first.id = node.id := by simpa using List.find?_some found
    have equal := List.inj_on_of_nodup_map unique (List.mem_of_find?_eq_some found) member same
    rw [equal]

theorem typeOf_eq (unique : (graph.nodes.map Node.id).Nodup) {node : Node}
    (member : node ∈ graph.nodes) : graph.typeOf node.id = .ok node.type := by
  have backwards : (graph.nodes.reverse.map Node.id).Nodup := by
    rwa [List.map_reverse, List.nodup_reverse]
  have last : graph.lastNode? node.id = some node :=
    find?_of_unique backwards (List.mem_reverse.mpr member)
  simp only [Graph.typeOf, last]

theorem leads_of_holds (holds : graph.Holds (threadFunction name body index)) (id : String)
    (member : id ∈ idRange index (nodeCounts body + 2)) :
    Leads graph.pairs (nodeId index) id ∧
      Leads graph.pairs id (nodeId (index + 1 + nodeCounts body)) := by
  obtain ⟨node, inside, rfl⟩ := List.mem_map.mp member
  rw [List.mem_range'_1] at inside
  obtain ⟨before, after⟩ := function_connected body index node inside.1 inside.2
  have linked : ∀ source target, Joined (functionArcs body index) source target →
      (nodeId source, nodeId target) ∈ graph.pairs := by
    rintro _ _ ⟨arc, present, rfl, rfl⟩
    exact holds.arcs arc ((mem_threadFunction_arcs name body index arc).mpr present)
  exact ⟨before.lift nodeId linked, after.lift nodeId linked⟩

theorem membersOfType_nodes (type : String) (nodes : List Node) :
    Graph.membersOfType type (nodes.map fun node => (node.id, node.type)) =
      (nodes.filter fun node => node.type == type).map Node.id := by
  simp [Graph.membersOfType, List.filter_map, Function.comp_def]

theorem strayMembers_of_leads (group : Group) (start stop : String)
    (leads : ∀ id ∈ group.members, Leads graph.pairs start id ∧ Leads graph.pairs id stop) :
    graph.strayMembers group start stop = [] := by
  have ahead :
      group.members.filter (fun id => !(reachable graph.pairs start).contains id) = [] := by
    rw [List.filter_eq_nil_iff]
    intro id member
    simpa [mem_reachable] using (leads id member).1
  have behind : group.members.filter
      (fun id => !(reachable (reversed graph.pairs) stop).contains id) = [] := by
    rw [List.filter_eq_nil_iff]
    intro id member
    simpa [mem_reachable, leads_reversed] using (leads id member).2
  simp only [Graph.strayMembers, ahead, behind, sortTexts]
  simp

theorem verifyGroup_of_holds (unique : (graph.nodes.map Node.id).Nodup)
    (holds : graph.Holds (threadFunction name body index)) (label : String) :
    graph.verifyGroup ⟨label, idRange index (nodeCounts body + 2)⟩ = .ok [] := by
  have typed : (idRange index (nodeCounts body + 2)).mapM (fun id => do
        let type ← graph.typeOf id
        .ok (id, type)) =
      .ok ((threadFunction name body index).nodes.map fun node => (node.id, node.type)) := by
    rw [← threadFunction_ids name, List.mapM_map]
    apply mapM_ok
    intro node member
    rw [Function.comp_apply, typeOf_eq unique (holds.nodes node member)]
    rfl
  have starts := membersOfType_nodes "start" (threadFunction name body index).nodes
  have ends := membersOfType_nodes "end" (threadFunction name body index).nodes
  rw [threadFunction_starts] at starts
  rw [threadFunction_ends] at ends
  rw [Graph.verifyGroup, typed]
  simp only [bind, Except.bind, starts, ends, List.map_cons, List.map_nil]
  rw [strayMembers_of_leads]
  exact leads_of_holds holds

-- A node of the graph whose id is among those of the function is the function's node of that id.
theorem mem_function_of_id (unique : (graph.nodes.map Node.id).Nodup)
    (holds : graph.Holds (threadFunction name body index)) {node : Node}
    (member : node ∈ graph.nodes) (inside : node.id ∈ idRange index (nodeCounts body + 2)) :
    node ∈ (threadFunction name body index).nodes := by
  rw [← threadFunction_ids name] at inside
  obtain ⟨own, present, same⟩ := List.mem_map.mp inside
  rwa [← eq_of_same_id unique (holds.nodes own present) member same]

theorem filter_of_holds (unique : (graph.nodes.map Node.id).Nodup)
    (holds : graph.Holds (threadFunction name body index)) {type : String} {only : Node}
    (single :
      (threadFunction name body index).nodes.filter (fun node => node.type == type) = [only]) :
    graph.nodes.filter (fun node =>
      (idRange index (nodeCounts body + 2)).contains node.id && node.type == type) = [only] := by
  have distinct : graph.nodes.Nodup := List.Nodup.of_map Node.id unique
  -- Both sides hold each of their nodes once, so it is enough that they hold the same nodes.
  rw [← List.perm_singleton, List.perm_ext_iff_of_nodup (distinct.filter _) (by simp)]
  intro node
  rw [← single]
  simp only [List.mem_filter, Bool.and_eq_true, List.contains_iff_mem, beq_iff_eq]
  constructor
  · rintro ⟨member, inside, typed⟩
    exact ⟨mem_function_of_id unique holds member inside, typed⟩
  · rintro ⟨member, typed⟩
    refine ⟨holds.nodes node member, ?_, typed⟩
    rw [← threadFunction_ids name]
    exact List.mem_map_of_mem member

theorem groupSound_of_holds (unique : (graph.nodes.map Node.id).Nodup)
    (holds : graph.Holds (threadFunction name body index)) (label : String) :
    graph.GroupSound ⟨label, idRange index (nodeCounts body + 2)⟩ :=
  ⟨startNode name index, endNode name (index + 1 + nodeCounts body),
    filter_of_holds unique holds (threadFunction_starts name body index),
    filter_of_holds unique holds (threadFunction_ends name body index),
    leads_of_holds holds⟩

end

/-! Graphs of functions -/

def Graph.Passes (graph : Graph) (names : List String) : Prop :=
  graph.verify = .ok [] ∧
    ∃ groups, graph.groups = .ok groups ∧ groups.map Group.name = names ∧
      ∀ group ∈ groups, graph.GroupSound group

theorem passes_of_groups {graph : Graph} {groups : List Group} (known : graph.groups = .ok groups)
    (silent : ∀ group ∈ groups, graph.verifyGroup group = .ok [])
    (sound : ∀ group ∈ groups, graph.GroupSound group) :
    graph.Passes (groups.map Group.name) := by
  refine ⟨?_, groups, known, rfl, sound⟩
  have none := mapM_ok graph.verifyGroup (fun _ => []) groups silent
  rw [Graph.verify, known]
  simp only [bind, Except.bind, none]
  simp

theorem holds_ofPiece (stamp : Stamp) (entry : Option String) (whole part : Piece)
    (nodes : ∀ node ∈ part.nodes, node ∈ whole.nodes) (arcs : ∀ arc ∈ part.arcs, arc ∈ whole.arcs) :
    (Graph.ofPiece stamp entry whole).Holds part := by
  refine ⟨nodes, ?_⟩
  intro arc member
  rw [Graph.pairs, Graph.ofPiece, edgesOf_ends]
  exact List.mem_map_of_mem (arcs arc member)

theorem ofFunction_passes (name : String) (body : List Statement) (stamp : Stamp) :
    (Graph.ofFunction name body stamp).Passes ["<graph>"] := by
  have ids : (Graph.ofFunction name body stamp).nodes.map Node.id =
      idRange 0 (nodeCounts body + 2) := threadFunction_ids name body 0
  have unique : ((Graph.ofFunction name body stamp).nodes.map Node.id).Nodup :=
    ids ▸ idRange_nodup 0 _
  have holds : (Graph.ofFunction name body stamp).Holds (threadFunction name body 0) :=
    holds_ofPiece stamp _ _ _ (fun _ member => member) (fun _ member => member)
  have loose : (Graph.ofFunction name body stamp).nodesOfType ["function"] = [] := by
    rw [nodesOfType_singleton]
    exact threadFunction_functions name body 0
  have known : (Graph.ofFunction name body stamp).groups =
      .ok [⟨"<graph>", idRange 0 (nodeCounts body + 2)⟩] := by
    simp only [Graph.groups, loose]
    rw [distinct_eq_self _ unique, ids]
  apply passes_of_groups known
  · intro group member
    rw [List.mem_singleton.mp member]
    exact verifyGroup_of_holds unique holds _
  · intro group member
    rw [List.mem_singleton.mp member]
    exact groupSound_of_holds unique holds _

def functionGroup (entry : FunctionDecl × Nat) : Group :=
  ⟨entry.1.name, idRange (entry.2 + 1) (nodeCounts entry.1.body + 2)⟩

theorem functionNode_group (entry : FunctionDecl × Nat) :
    (functionNode entry.1 entry.2).group = .ok (functionGroup entry) := by
  simp only [functionNode, Node.group, functionGroup]
  rw [distinct_eq_self _ (idRange_nodup _ _)]

theorem functionGroup_names (functions : List FunctionDecl) (index : Nat) :
    ((placed functions index).map functionGroup).map Group.name =
      functions.map FunctionDecl.name := by
  induction functions generalizing index with
  | nil => rfl
  | cons function rest ih =>
    rw [placed, List.map_cons, List.map_cons, ih, List.map_cons]
    rfl

theorem ofFunctions_unique (functions : List FunctionDecl) (stamp : Stamp) :
    ((Graph.ofFunctions functions stamp).nodes.map Node.id).Nodup := by
  obtain ⟨count, ids⟩ := containedFunctions_ids functions 0
  rw [Graph.ofFunctions, Graph.ofPiece, ids]
  exact idRange_nodup 0 count

theorem ofFunctions_holds {functions : List FunctionDecl} (stamp : Stamp)
    {entry : FunctionDecl × Nat} (member : entry ∈ placed functions 0) :
    (Graph.ofFunctions functions stamp).Holds
      (threadFunction entry.1.name entry.1.body (entry.2 + 1)) := by
  obtain ⟨nodes, arcs, -⟩ := containedFunctions_eq functions 0
  apply holds_ofPiece
  · intro node inside
    rw [nodes, List.mem_flatMap]
    exact ⟨entry, member, by rw [containedFunction_nodes]; exact List.mem_cons_of_mem _ inside⟩
  · intro arc inside
    rw [arcs, List.mem_flatMap]
    exact ⟨entry, member, inside⟩

theorem ofFunctions_passes (functions : List FunctionDecl) (stamp : Stamp)
    (nonempty : functions ≠ []) :
    (Graph.ofFunctions functions stamp).Passes (functions.map FunctionDecl.name) := by
  have unique := ofFunctions_unique functions stamp
  have known : (Graph.ofFunctions functions stamp).groups =
      .ok ((placed functions 0).map functionGroup) := by
    have containers := ofFunctions_containers functions stamp
    have each := mapM_ok
      (Node.group ∘ fun entry : FunctionDecl × Nat => functionNode entry.1 entry.2) functionGroup
      (placed functions 0) (fun entry _ => functionNode_group entry)
    rw [← List.mapM_map, ← containers] at each
    rw [Graph.groups]
    split
    · rename_i none
      rw [none] at containers
      obtain ⟨function, rest, rfl⟩ := List.exists_cons_of_ne_nil nonempty
      simp [placed] at containers
    · exact each
  rw [← functionGroup_names functions 0]
  apply passes_of_groups known
  · intro group member
    obtain ⟨entry, inside, rfl⟩ := List.mem_map.mp member
    exact verifyGroup_of_holds unique (ofFunctions_holds stamp inside) _
  · intro group member
    obtain ⟨entry, inside, rfl⟩ := List.mem_map.mp member
    exact groupSound_of_holds unique (ofFunctions_holds stamp inside) _

/-! Graphs of programs and files -/

theorem problems_ofFunctions (functions : List FunctionDecl) (stamp : Stamp) :
    Scan.problems (.ofFunctions functions stamp) = .ok [] := by
  rw [Scan.problems]
  split
  · rfl
  · rename_i occupied
    apply (ofFunctions_passes functions stamp _).1
    rintro rfl
    exact occupied rfl

-- The graph of a document is that of all its functions.
theorem document_graph {document : Document} {path : Path} {timestamp : Int} {graph : Graph}
    (made : (document.graph path .every timestamp).result = .ok graph) :
    ∃ functions stamp, graph = .ofFunctions functions stamp := by
  rw [Document.graph, Attempt.bind_result_eq_ok] at made
  obtain ⟨built, fromProgram, noted⟩ := made
  rw [Attempt.bind_result_eq_ok] at noted
  obtain ⟨-, -, same⟩ := noted
  obtain rfl : built = graph := by simpa using same
  simp only [Attempt.ofExcept_result, Graph.ofProgram, bind, Except.bind] at fromProgram
  split at fromProgram
  · cases fromProgram
  · rename_i metadata _
    refine ⟨document.program.functions, metadata.stamp timestamp, ?_⟩
    simpa [Program.graph] using fromProgram.symm

theorem analyze_problems {files : Files} {timestamp : Int} {path : Path} {report : Scan.FileReport}
    (made : (Scan.analyze files timestamp path).result = .ok report) : report.problems = [] := by
  rw [Scan.analyze, Attempt.bind_result_eq_ok] at made
  obtain ⟨document, -, made⟩ := made
  rw [Attempt.bind_result_eq_ok] at made
  obtain ⟨graph, drawn, made⟩ := made
  rw [Attempt.bind_result_eq_ok] at made
  obtain ⟨summary, -, made⟩ := made
  rw [Attempt.bind_result_eq_ok] at made
  obtain ⟨problems, checked, made⟩ := made
  obtain ⟨functions, stamp, rfl⟩ := document_graph drawn
  have silent : problems = [] := by
    simpa [problems_ofFunctions] using checked.symm
  rw [Attempt.pure_result] at made
  cases made
  exact silent

theorem built_graphs_verify :
    (∀ (name : String) (body : List Statement) (stamp : Stamp),
      (Graph.ofFunction name body stamp).Passes ["<graph>"]) ∧
    (∀ (program : Program) (metadata : Metadata) (timestamp : Int), program.functions ≠ [] →
      ∃ graph, program.graph metadata .every timestamp = .ok graph ∧
        graph.Passes (program.functions.map FunctionDecl.name)) ∧
    (∀ (files : Files) (timestamp : Int) (path : Path) (report : Scan.FileReport),
      (Scan.analyze files timestamp path).result = .ok report → report.problems = []) := by
  refine ⟨ofFunction_passes, ?_, ?_⟩
  · intro program metadata timestamp nonempty
    exact ⟨_, rfl, ofFunctions_passes program.functions _ nonempty⟩
  · intro files timestamp path report made
    exact analyze_problems made

def oneFunctionText : String :=
  "\x7b\"type\":\"Program\",\"body\":[" ++
    "\x7b\"type\":\"FunctionDeclaration\",\"name\":\"f\"\x7d]\x7d"

def oneFunctionFiles : Files :=
  (Files.empty []).put ["a.json"] (.file oneFunctionText.toByteArray.data.toList)

theorem built_graphs_verify_one_function :
    (∃ graph, (Program.mk [.function "f" [] [] none .unknown] none).graph ⟨"python", "a"⟩ .every 0 =
      .ok graph ∧ graph.Passes ["f"]) ∧
    ∃ report, (Scan.analyze oneFunctionFiles 0 ⟨"", ["a.json"]⟩).result = .ok report ∧
      report.nodes = 3 ∧ report.problems = [] := by
  refine ⟨built_graphs_verify.2.1 _ _ _ (by simp [Program.functions, Statement.function?]), ?_⟩
  have counted : (Scan.analyze oneFunctionFiles 0 ⟨"", ["a.json"]⟩).result.toOption.map
      (fun report => report.nodes) = some 3 := by decide +kernel
  cases made : (Scan.analyze oneFunctionFiles 0 ⟨"", ["a.json"]⟩).result with
  | error failure => simp [made, Except.toOption] at counted
  | ok report =>
    refine ⟨report, rfl, ?_, built_graphs_verify.2.2 _ _ _ _ made⟩
    simpa [made, Except.toOption] using counted

end ControlFlow
