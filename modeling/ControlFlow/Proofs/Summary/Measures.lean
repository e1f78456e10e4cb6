import ControlFlow.Proofs.Graph.Complexity
import ControlFlow.Proofs.Graph.Contents
import ControlFlow.Summary

set_option autoImplicit false

namespace ControlFlow

theorem decisions_eq_countP :
    (∀ statement : Statement, statement.decisions =
      statement.preorder.countP fun inner => inner.isBranch || inner.isLoop) ∧
    ∀ block : List Statement, decisions block =
      (blockPreorder block).countP fun inner => inner.isBranch || inner.isLoop := by
  apply flow_induction
  · intro statement flow
    simp [decisions_leaf flow, preorder_leaf flow, Statement.isBranch, Statement.isLoop, flow]
  · intro statement yes no flow yesCount noCount
    have decides : statement.isBranch = true := by simp [Statement.isBranch, flow]
    rw [decisions_branch flow, preorder_branch flow, yesCount, noCount,
      List.countP_cons_of_pos (by simp [decides]), List.countP_append]
    omega
  · intro statement inward outward body flow bodyCount
    have decides : statement.isLoop = true := by simp [Statement.isLoop, flow]
    rw [decisions_loop flow, preorder_loop flow, bodyCount,
      List.countP_cons_of_pos (by simp [decides]), Nat.add_comm]
  · rfl
  · intro statement rest first others
    rw [decisions, blockPreorder, List.countP_append, first, others]

-- The search for loops looks into branches only: a loop has been found before its body is reached.
theorem hasLoops_eq_any :
    (∀ statement : Statement, statement.hasLoops = statement.preorder.any Statement.isLoop) ∧
    ∀ block : List Statement, hasLoops block = (blockPreorder block).any Statement.isLoop := by
  apply flow_induction
  · intro statement flow
    rw [preorder_leaf flow]
    cases statement <;> simp_all [Statement.flow, Statement.hasLoops, Statement.isLoop]
  · intro statement yes no flow yesLoops noLoops
    have other : statement.isLoop = false := by simp [Statement.isLoop, flow]
    rw [preorder_branch flow, List.any_cons, List.any_append, ← yesLoops, ← noLoops, other,
      Bool.false_or]
    cases statement <;> simp only [Statement.flow, Flow.branch.injEq, reduceCtorEq] at flow
    obtain ⟨rfl, rfl⟩ := flow
    rename_i side location
    cases side <;> simp [Statement.hasLoops, elseHasLoops, hasLoops]
  · intro statement inward outward body flow _
    have here : statement.isLoop = true := by simp [Statement.isLoop, flow]
    rw [preorder_loop flow, List.any_cons, here, Bool.true_or]
    cases statement <;> simp_all [Statement.flow, Statement.hasLoops]
  · rfl
  · intro statement rest first others
    rw [hasLoops, blockPreorder, List.any_append, first, others]

theorem hasConditionals_eq_any :
    (∀ statement : Statement,
      statement.hasConditionals = statement.preorder.any Statement.isBranch) ∧
    ∀ block : List Statement,
      hasConditionals block = (blockPreorder block).any Statement.isBranch := by
  apply flow_induction
  · intro statement flow
    rw [preorder_leaf flow]
    cases statement <;> simp_all [Statement.flow, Statement.hasConditionals, Statement.isBranch]
  · intro statement yes no flow _ _
    have here : statement.isBranch = true := by simp [Statement.isBranch, flow]
    rw [preorder_branch flow, List.any_cons, here, Bool.true_or]
    cases statement <;> simp_all [Statement.flow, Statement.hasConditionals]
  · intro statement inward outward body flow bodyConditionals
    have other : statement.isBranch = false := by simp [Statement.isBranch, flow]
    rw [preorder_loop flow, List.any_cons, ← bodyConditionals, other, Bool.false_or]
    cases statement <;> simp_all [Statement.flow, Statement.hasConditionals]
  · rfl
  · intro statement rest first others
    rw [hasConditionals, blockPreorder, List.any_append, first, others]

structure FunctionSummary.Measures (entry : FunctionSummary) (nodes : List Node) : Prop where
  complexity : entry.complexity = 1 + nodes.countP fun node => node.type ∈ ["if", "for", "while"]
  loops : entry.hasLoops ↔ ∃ node ∈ nodes, node.type ∈ ["for", "while"]
  conditionals : entry.hasConditionals ↔ ∃ node ∈ nodes, node.type = "if"
  plain : entry.complexity = 1 ↔ entry.hasLoops = false ∧ entry.hasConditionals = false

/-- The node of a graph that holds a function and an entry of a summary tell the same. -/
def Graph.Describes (graph : Graph) (container : Node) (entry : FunctionSummary) : Prop :=
  ∃ ids nodes,
    container.form = .function entry.name entry.parameters ids entry.returnType entry.location ∧
    ids.mapM graph.node = .ok nodes ∧ entry.Measures nodes

-- The start and the end of a function are of no type that a statement has.
theorem countP_function (name : String) (body : List Statement) (index : Nat)
    (types : List String) (ofStatement : Statement → Bool)
    (inner : ∀ type ∈ types, type ∈ statementTypes)
    (same : ∀ statement place,
      (Statement.node statement place).type ∈ types ↔ ofStatement statement) :
    (threadFunction name body index).nodes.countP (fun node => node.type ∈ types) =
      (blockPreorder body).countP ofStatement := by
  have opened : "start" ∉ types := fun member => absurd (inner _ member) (by decide)
  have closed : "end" ∉ types := fun member => absurd (inner _ member) (by decide)
  have statements := map_nodesFrom (fun node => decide (node.type ∈ types)) ofStatement
    (fun statement place => by rw [Bool.eq_iff_iff, decide_eq_true_iff, same])
    (index + 1) (blockPreorder body)
  have counted := congrArg (List.countP id) statements
  rw [List.countP_map, List.countP_map] at counted
  rw [threadFunction_preorder, List.countP_cons_of_neg (by simp [startNode, opened]),
    List.countP_append, List.countP_cons_of_neg (by simp [endNode, closed])]
  exact counted

theorem exists_function (name : String) (body : List Statement) (index : Nat)
    (types : List String) (ofStatement : Statement → Bool)
    (inner : ∀ type ∈ types, type ∈ statementTypes)
    (same : ∀ statement place,
      (Statement.node statement place).type ∈ types ↔ ofStatement statement) :
    (∃ node ∈ (threadFunction name body index).nodes, node.type ∈ types) ↔
      (blockPreorder body).any ofStatement := by
  have counted := countP_function name body index types ofStatement inner same
  rw [List.any_eq_true, ← List.countP_pos_iff, ← counted, List.countP_pos_iff]
  simp only [decide_eq_true_iff]

theorem measures_function (function : FunctionDecl) (position index : Nat) :
    (function.summarize position).Measures
      (threadFunction function.name function.body index).nodes := by
  have decided := decisions_eq_countP.2 function.body
  constructor
  case complexity =>
    have same (statement : Statement) (place : Nat) :
        (statement.node place).type ∈ ["if", "for", "while"] ↔
          (statement.isBranch || statement.isLoop) := by
      rw [List.mem_cons, node_type_branch, node_type_loop, Bool.or_eq_true]
    rw [countP_function _ _ _ _ _ (by decide) same, ← decided]
    simp [FunctionDecl.summarize, complexity]
  case loops =>
    rw [exists_function _ _ _ _ _ (by decide) node_type_loop, ← hasLoops_eq_any.2]
    rfl
  case conditionals =>
    have nodes := exists_function function.name function.body index ["if"] Statement.isBranch
      (by decide) (by simpa using node_type_branch)
    simp only [List.mem_singleton] at nodes
    rw [nodes, ← hasConditionals_eq_any.2]
    rfl
  case plain =>
    have none : decisions function.body = 0 ↔
        hasLoops function.body = false ∧ hasConditionals function.body = false := by
      rw [decided, hasLoops_eq_any.2, hasConditionals_eq_any.2, List.countP_eq_zero]
      simp only [Bool.or_eq_true, not_or, List.any_eq_false]
      constructor
      · intro leaves
        exact ⟨fun inner member => (leaves inner member).2,
          fun inner member => (leaves inner member).1⟩
      · rintro ⟨noLoops, noBranches⟩ inner member
        exact ⟨noBranches inner member, noLoops inner member⟩
    simp only [FunctionDecl.summarize, complexity]
    rw [← none]
    omega

theorem describes_of_placed {functions : List FunctionDecl} (stamp : Stamp)
    {entry : FunctionDecl × Nat} (member : entry ∈ placed functions 0) (position : Nat) :
    (Graph.ofFunctions functions stamp).Describes (functionNode entry.1 entry.2)
      (entry.1.summarize position) :=
  ⟨_, _, rfl, ofFunctions_contents stamp member, measures_function entry.1 position _⟩

theorem functions_described (functions : List FunctionDecl) (stamp : Stamp) :
    List.Forall₂ (Graph.ofFunctions functions stamp).Describes
      ((Graph.ofFunctions functions stamp).nodesOfType ["function"])
      (functions.mapIdx fun position function => function.summarize position) := by
  have names := placed_functions functions 0
  have count : (placed functions 0).length = functions.length := by
    rw [← List.length_map (f := Prod.fst), names]
  rw [ofFunctions_containers, List.forall₂_iff_get]
  refine ⟨by simp [count], ?_⟩
  intro position inPlaced inFunctions
  have inside : position < (placed functions 0).length := by simpa using inPlaced
  have known : position < functions.length := by rwa [← count]
  have here : functions[position] = (placed functions 0)[position].1 := by
    rw [← List.getElem_of_eq names (by simpa using inside), List.getElem_map]
  simp only [List.get_eq_getElem, List.getElem_map, List.getElem_mapIdx, here]
  exact describes_of_placed stamp (List.getElem_mem inside) position

theorem summary_agrees_with_graph (program : Program) (metadata : Metadata) (timestamp : Int)
    (stamp : Stamp) :
    ∃ graph, program.graph metadata .every timestamp = .ok graph ∧
      List.Forall₂ graph.Describes (graph.nodesOfType ["function"])
        (program.summarize stamp).functions ∧
      (program.summarize stamp).functions.map FunctionSummary.id =
        (List.range (program.summarize stamp).functions.length).map
          fun position => "func_" ++ toString position := by
  refine ⟨_, rfl, functions_described program.functions _, ?_⟩
  apply List.ext_getElem
  · simp
  · intro position _ _
    simp [Program.summarize, FunctionDecl.summarize]

end ControlFlow
