import ControlFlow.Proofs.Graph.Preorder
import ControlFlow.Proofs.Graph.Successor
import ControlFlow.Summary.Metrics

set_option autoImplicit false

namespace ControlFlow

theorem decisions_leaf {statement : Statement} (flow : statement.flow = .leaf) :
    statement.decisions = 0 := by
  cases statement <;> simp_all [Statement.flow, Statement.decisions]

theorem decisions_branch {statement : Statement} {yes no : List Statement}
    (flow : statement.flow = .branch yes no) :
    statement.decisions = 1 + decisions yes + decisions no := by
  cases statement <;> simp only [Statement.flow, Flow.branch.injEq, reduceCtorEq] at flow
  obtain ⟨rfl, rfl⟩ := flow
  rename_i side location
  cases side <;> simp [Statement.decisions, elseDecisions, decisions]

theorem decisions_loop {statement : Statement} {inward outward : Label} {body : List Statement}
    (flow : statement.flow = .loop inward outward body) :
    statement.decisions = 1 + decisions body := by
  cases statement <;> simp_all [Statement.flow, Statement.decisions]

def Statement.hollow (statement : Statement) : Bool :=
  match statement.flow with
  | .loop _ _ body => body.isEmpty
  | _ => false

def hollowCount (statements : List Statement) : Nat :=
  statements.countP Statement.hollow

theorem hollowCount_append (left right : List Statement) :
    hollowCount (left ++ right) = hollowCount left + hollowCount right :=
  List.countP_append

theorem hollowCount_cons (statement : Statement) (rest : List Statement) :
    hollowCount (statement :: rest) =
      hollowCount rest + if statement.hollow then 1 else 0 :=
  List.countP_cons

-- The number of arcs does not depend on where control goes afterwards.
theorem arcs_length :
    (∀ (statement : Statement) (index : Nat) (next : Continuation),
      (statement.arcs index next).length + hollowCount statement.preorder =
        statement.nodeCount + statement.decisions) ∧
    ∀ (block : List Statement) (index : Nat) (next : Continuation),
      (blockArcs block index next).length + hollowCount (blockPreorder block) =
        nodeCounts block + decisions block := by
  apply flow_induction
  · intro statement flow index next
    simp [arcs_leaf flow, preorder_leaf flow, nodeCount_leaf flow, decisions_leaf flow,
      hollowCount, Statement.hollow, flow]
  · intro statement yes no flow yesLength noLength index next
    have inYes := yesLength (index + 1) next
    have inNo := noLength (index + 1 + nodeCounts yes) next
    have solid : statement.hollow = false := by simp [Statement.hollow, flow]
    rw [arcs_branch flow, preorder_branch flow, nodeCount_branch flow, decisions_branch flow]
    simp only [hollowCount_cons, solid, hollowCount_append, List.length_append, List.length_cons,
      Bool.false_eq_true, if_false]
    omega
  · intro statement inward outward body flow bodyLength index next
    have hollow : statement.hollow = body.isEmpty := by simp [Statement.hollow, flow]
    rw [arcs_loop flow, preorder_loop flow, nodeCount_loop flow, decisions_loop flow,
      hollowCount_cons, hollow]
    by_cases empty : body = []
    · subst empty
      simp [loopArcs, blockPreorder, hollowCount, nodeCounts, decisions]
    · have inBody := bodyLength (index + 1) (.back index)
      rw [loopArcs_of_ne_nil _ _ _ empty, List.length_append, List.length_cons,
        List.length_singleton, if_neg (by simpa using empty)]
      omega
  · intro index next
    rfl
  · intro statement rest first others index next
    have here := first index (next.before rest (index + statement.nodeCount))
    have later := others (index + statement.nodeCount) next
    rw [blockArcs, blockPreorder, nodeCounts, decisions, List.length_append, hollowCount_append]
    omega

def Graph.emptyLoops (graph : Graph) : Nat :=
  (graph.nodesOfType ["for", "while"]).countP fun node => node.branches.lookup "body" = some []

theorem node_hollow (statement : Statement) (index : Nat) :
    (decide ((statement.node index).branches.lookup "body" = some []) &&
      ["for", "while"].contains (statement.node index).type) = statement.hollow := by
  cases flow : statement.flow with
  | leaf => simp [node_leaf flow, Statement.hollow, flow]
  | branch yes no => simp [node_branch flow, Statement.hollow, flow]
  | loop inward outward body =>
    obtain ⟨types, branches⟩ := node_loop flow index
    have typed : ["for", "while"].contains (statement.node index).type := by
      rcases types with ⟨type, -⟩ | ⟨type, -⟩ <;> simp [type]
    have empty : idRange (index + 1) (nodeCounts body) = [] ↔ body = [] := by
      simp [idRange, nodeCounts_eq_zero]
    rw [typed, Bool.and_true, branches, Bool.eq_iff_iff]
    simp [Statement.hollow, flow, empty]

theorem ofFunction_emptyLoops (name : String) (body : List Statement) (stamp : Stamp) :
    (Graph.ofFunction name body stamp).emptyLoops = hollowCount (blockPreorder body) := by
  have nodes : (Graph.ofFunction name body stamp).nodes = _ := threadFunction_preorder name body 0
  have inside : (nodesFrom 1 (blockPreorder body)).countP (fun node =>
      decide (node.branches.lookup "body" = some []) && ["for", "while"].contains node.type) =
        hollowCount (blockPreorder body) := by
    conv_rhs => rw [hollowCount, ← List.zipIdx_map_fst 1 (blockPreorder body)]
    simp only [nodesFrom, List.countP_map, Function.comp_def, node_hollow]
  rw [Graph.emptyLoops, Graph.nodesOfType, List.countP_filter, nodes, List.countP_cons,
    List.countP_append, inside]
  rfl

theorem ofFunction_edges_length (name : String) (body : List Statement) (stamp : Stamp) :
    (Graph.ofFunction name body stamp).edges.length = (functionArcs body 0).length := by
  have arcs := congrArg Multiset.card (threadFunction_arcs name body 0)
  rw [Multiset.coe_card, Multiset.coe_card] at arcs
  rw [← arcs]
  exact List.length_mapIdx

theorem ofFunction_edges_balance (name : String) (body : List Statement) (stamp : Stamp) :
    (Graph.ofFunction name body stamp).edges.length + hollowCount (blockPreorder body) =
      nodeCounts body + decisions body + 1 := by
  have arcs := arcs_length.2 body 1 ⟨1 + nodeCounts body, none⟩
  have entry : (functionArcs body 0).length =
      (blockArcs body 1 ⟨1 + nodeCounts body, none⟩).length + 1 := rfl
  rw [ofFunction_edges_length, entry]
  omega

theorem ofFunction_complexity (name : String) (body : List Statement) (stamp : Stamp) :
    ((Graph.ofFunction name body stamp).edges.length : Int) -
        (Graph.ofFunction name body stamp).nodes.length + 2 +
        (Graph.ofFunction name body stamp).emptyLoops = complexity body := by
  have arcs := arcs_length.2 body 1 ⟨1 + nodeCounts body, none⟩
  have entry : (functionArcs body 0).length =
      (blockArcs body 1 ⟨1 + nodeCounts body, none⟩).length + 1 := rfl
  rw [ofFunction_edges_length, ofFunction_nodes_length, ofFunction_emptyLoops, entry, complexity]
  omega

-- A loop without a body decides something and yet has no edge for it.
example :
    let body : List Statement := [.whileLoop "p" [] .unknown]
    let graph := Graph.ofFunction "f" body ⟨"python", "a", 0⟩
    graph.edges.length = 2 ∧ graph.nodes.length = 3 ∧ graph.emptyLoops = 1 ∧
      complexity body = 2 := by
  decide

end ControlFlow
