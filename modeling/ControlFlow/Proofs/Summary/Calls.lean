import ControlFlow.Proofs.Graph.Contents
import ControlFlow.Summary

set_option autoImplicit false

namespace ControlFlow

def Node.call? (node : Node) : Option (String × Location) :=
  match node.form with
  | .process label _ location =>
      if node.type = "expression" then
        (callee? label.toList).map fun name => (String.ofList name, location)
      else none
  | _ => none

-- Caller, callee and location of the calls that the node of a function holds.
def Graph.callsIn (graph : Graph) (container : Node) :
    Except Failure (List (String × String × Location)) :=
  match container.form with
  | .function name _ ids _ _ => do
      let nodes ← ids.mapM graph.node
      .ok ((nodes.filterMap Node.call?).map fun site => (name, site.1, site.2))
  | _ => .ok []

/-- The calls of all functions of a graph, one function after the other. -/
def Graph.readCalls (graph : Graph) : Except Failure (List (String × String × Location)) := do
  let sites ← (graph.nodesOfType ["function"]).mapM graph.callsIn
  .ok sites.flatten

-- The word in front is followed by a blank, not by a parenthesis.
theorem callee_functionLabel (name : String) (parameters : List Parameter) :
    callee? (functionLabel name parameters).toList = none := by
  have word : "unction".toList.all isCalleePart = true := by decide
  have split (rest : List Char) :
      "function ".toList ++ rest = 'f' :: ("unction".toList ++ ' ' :: rest) := rfl
  simp only [functionLabel, String.toList_append, List.append_assoc]
  rw [split, callee?, List.dropWhile_cons_of_neg (by decide)]
  simp only
  rw [List.dropWhile_append_of_pos (List.all_eq_true.mp word),
    List.dropWhile_cons_of_neg (by decide)]
  rfl

theorem callee_placeholder (kind : String) : callee? ("<" ++ kind ++ ">").toList = none := by
  have split (rest : List Char) : "<".toList ++ rest = '<' :: rest := rfl
  simp only [String.toList_append, List.append_assoc]
  rw [split, callee?, List.dropWhile_cons_of_neg (by decide)]
  rfl

theorem call_of_no_callee {label : String} (none : callee? label.toList = none) (id type : String)
    (details : Option String) (location : Location) :
    Node.call? ⟨id, type, .process label details location⟩ = Option.none := by
  simp [Node.call?, none]

def Statement.call? : Statement → Option (String × Location)
  | .expression text location =>
      (callee? text.toList).map fun name => (String.ofList name, location)
  | _ => none

theorem node_call (statement : Statement) (index : Nat) :
    (statement.node index).call? = statement.call? := by
  cases statement with
  | branch | forLoop | whileLoop | declaration | ret | expression => rfl
  | function name parameters body returnType location =>
    exact call_of_no_callee (callee_functionLabel name parameters) _ _ _ _
  | unknown tag raw location =>
    exact call_of_no_callee (callee_placeholder _) _ _ _ _

theorem callees_eq_filterMap :
    (∀ statement : Statement, statement.callees = statement.preorder.filterMap Statement.call?) ∧
    ∀ block : List Statement, callees block = (blockPreorder block).filterMap Statement.call? := by
  apply flow_induction
  · intro statement flow
    rw [preorder_leaf flow]
    cases statement with
    | branch | forLoop | whileLoop => simp [Statement.flow] at flow
    | function | declaration | ret | unknown => rfl
    | expression text location =>
      cases found : callee? text.toList <;> simp [Statement.callees, Statement.call?, found]
  · intro statement yes no flow yesCallees noCallees
    rw [preorder_branch flow]
    cases statement <;> simp only [Statement.flow, Flow.branch.injEq, reduceCtorEq] at flow
    obtain ⟨rfl, rfl⟩ := flow
    rename_i side location
    rw [List.filterMap_cons_none rfl, List.filterMap_append, ← yesCallees, ← noCallees]
    cases side <;> simp [Statement.callees, elseCallees, callees]
  · intro statement inward outward body flow bodyCallees
    rw [preorder_loop flow]
    cases statement <;> simp only [Statement.flow, Flow.loop.injEq, reduceCtorEq] at flow
    all_goals
      obtain ⟨-, -, rfl⟩ := flow
      rw [List.filterMap_cons_none rfl, ← bodyCallees, Statement.callees]
  · rfl
  · intro statement rest first others
    rw [callees, blockPreorder, List.filterMap_append, first, others]

theorem filterMap_function (name : String) (body : List Statement) (index : Nat) :
    (threadFunction name body index).nodes.filterMap Node.call? = callees body := by
  have statements := congrArg (List.filterMap id)
    (map_nodesFrom Node.call? Statement.call? node_call (index + 1) (blockPreorder body))
  rw [List.filterMap_map, List.filterMap_map] at statements
  rw [threadFunction_preorder, List.filterMap_cons_none rfl, List.filterMap_append,
    List.filterMap_cons_none rfl, List.filterMap_nil, List.append_nil, callees_eq_filterMap.2]
  exact statements

theorem callsIn_functionNode {functions : List FunctionDecl} (stamp : Stamp)
    {entry : FunctionDecl × Nat} (member : entry ∈ placed functions 0) :
    (Graph.ofFunctions functions stamp).callsIn (functionNode entry.1 entry.2) =
      .ok ((callees entry.1.body).map fun site => (entry.1.name, site.1, site.2)) := by
  simp only [Graph.callsIn, functionNode]
  rw [ofFunctions_contents stamp member]
  simp only [bind, Except.bind, filterMap_function]

theorem readCalls_ofFunctions (functions : List FunctionDecl) (stamp : Stamp) :
    (Graph.ofFunctions functions stamp).readCalls = .ok (callSites functions) := by
  have each := mapM_ok _ _ (placed functions 0)
    (fun _ member => callsIn_functionNode stamp member)
  have sites : callSites functions = ((placed functions 0).map fun entry =>
      (callees entry.1.body).map fun site => (entry.1.name, site.1, site.2)).flatten := by
    rw [callSites, ← List.flatMap_def]
    conv_lhs => rw [← placed_functions functions 0, List.flatMap_map]
  rw [Graph.readCalls, ofFunctions_containers, List.mapM_map]
  simp only [Function.comp_def, each, bind, Except.bind, sites]

theorem calls_read_off_graph (program : Program) (metadata : Metadata) (timestamp : Int)
    (stamp : Stamp) :
    (∃ graph sites, program.graph metadata .every timestamp = .ok graph ∧
      graph.readCalls = .ok sites ∧
      (program.summarize stamp).calls = sites.mapIdx fun index site =>
        ⟨"call_" ++ toString index, site.1, site.2.1, site.2.2⟩) ∧
    (∀ id type name parameters details location,
      Node.call? ⟨id, type, .process (functionLabel name parameters) details location⟩ = none) ∧
    ∀ id type kind details location,
      Node.call? ⟨id, type, .process ("<" ++ kind ++ ">") details location⟩ = none := by
  refine ⟨⟨_, _, rfl, readCalls_ofFunctions program.functions _, rfl⟩, ?_, ?_⟩
  · intro id type name parameters
    exact call_of_no_callee (callee_functionLabel name parameters) id type
  · intro id type kind
    exact call_of_no_callee (callee_placeholder kind) id type

end ControlFlow
