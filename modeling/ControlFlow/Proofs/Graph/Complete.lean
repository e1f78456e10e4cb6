import ControlFlow.Proofs.Graph.Complexity
import ControlFlow.Proofs.Graph.Diagnostics
import ControlFlow.Proofs.Graph.Region
import ControlFlow.Proofs.Graph.Union

set_option autoImplicit false

namespace ControlFlow

-- Complete statements, through all that they hold, bodies of nested functions included.
inductive Statement.Complete : Statement → Prop
  | function {name : String} {parameters : List Parameter} {body : List Statement}
      {returnType : Option String} {location : Location}
      (inner : ∀ statement ∈ body, Statement.Complete statement) :
      Statement.Complete (.function name parameters body returnType location)
  | branch {condition : String} {yes : List Statement} {no : Option (List Statement)}
      {location : Location} (occupied : yes ≠ []) (present : no ≠ some [])
      (inYes : ∀ statement ∈ yes, Statement.Complete statement)
      (inNo : ∀ statement ∈ no.getD [], Statement.Complete statement) :
      Statement.Complete (.branch condition yes no location)
  | forLoop {initializer condition incrementor : Option String} {body : List Statement}
      {location : Location} (occupied : body ≠ [])
      (inner : ∀ statement ∈ body, Statement.Complete statement) :
      Statement.Complete (.forLoop initializer condition incrementor body location)
  | whileLoop {condition : String} {body : List Statement} {location : Location}
      (occupied : body ≠ []) (inner : ∀ statement ∈ body, Statement.Complete statement) :
      Statement.Complete (.whileLoop condition body location)
  | declaration (name : String) (type initializer : Option String) (location : Location) :
      Statement.Complete (.declaration name type initializer location)
  | ret (value : Option String) (location : Location) : Statement.Complete (.ret value location)
  | expression (text : String) (location : Location) :
      Statement.Complete (.expression text location)

theorem Statement.Complete.sides {statement : Statement} {yes no : List Statement}
    (complete : statement.Complete) (flow : statement.flow = .branch yes no) :
    (∀ inner ∈ yes, inner.Complete) ∧ ∀ inner ∈ no, inner.Complete := by
  cases complete <;> simp only [Statement.flow, Flow.branch.injEq, reduceCtorEq] at flow
  obtain ⟨rfl, rfl⟩ := flow
  exact ⟨by assumption, by assumption⟩

theorem Statement.Complete.repeated {statement : Statement} {inward outward : Label}
    {body : List Statement} (complete : statement.Complete)
    (flow : statement.flow = .loop inward outward body) :
    body ≠ [] ∧ ∀ inner ∈ body, inner.Complete := by
  cases complete <;> simp only [Statement.flow, Flow.loop.injEq, reduceCtorEq] at flow
  all_goals
    obtain ⟨-, -, rfl⟩ := flow
    exact ⟨by assumption, by assumption⟩

theorem complete_preorder :
    (∀ statement : Statement, statement.Complete →
      ∀ inner ∈ statement.preorder, inner.Complete) ∧
    ∀ block : List Statement, (∀ statement ∈ block, statement.Complete) →
      ∀ inner ∈ blockPreorder block, inner.Complete := by
  apply flow_induction
  · intro statement flow complete inner member
    rw [preorder_leaf flow, List.mem_singleton] at member
    rwa [member]
  · intro statement yes no flow inYes inNo complete inner member
    rw [preorder_branch flow, List.mem_cons, List.mem_append] at member
    obtain ⟨yesComplete, noComplete⟩ := complete.sides flow
    rcases member with rfl | left | right
    · exact complete
    · exact inYes yesComplete inner left
    · exact inNo noComplete inner right
  · intro statement inward outward body flow inBody complete inner member
    rw [preorder_loop flow, List.mem_cons] at member
    rcases member with rfl | inside
    · exact complete
    · exact inBody (complete.repeated flow).2 inner inside
  · intro _ inner member
    simp [blockPreorder] at member
  · intro statement rest first others complete inner member
    rw [blockPreorder, List.mem_append] at member
    rcases member with here | later
    · exact first (complete statement (by simp)) inner here
    · exact others (fun other inside => complete other (by simp [inside])) inner later

/-- A function of which the graph and the measures tell the whole. -/
structure FunctionDecl.Faithful (function : FunctionDecl) (stamp : Stamp) : Prop where
  complete : ∀ statement ∈ function.body, statement.Complete
  silent : (function.graph stamp).diagnostics = []
  closed : ∀ node ∈ (function.graph stamp).nodesOfType ["for", "while"],
    ∃ edge ∈ (function.graph stamp).edges, edge.target = node.id ∧ edge.label = some "loop"
  measured : (complexity function.body : Int) =
    (function.graph stamp).edges.length - (function.graph stamp).nodes.length + 2

section

variable {body : List Statement} (complete : ∀ statement ∈ body, statement.Complete)

include complete

theorem diagnostics_of_complete (name : String) (stamp : Stamp) :
    (Graph.ofFunction name body stamp).diagnostics = [] := by
  rw [ofFunction_diagnostics, List.flatMap_eq_nil_iff]
  rintro ⟨statement, index⟩ place
  have known := complete_preorder.2 body complete statement (List.fst_mem_of_mem_zipIdx place)
  cases known <;> rfl

theorem loops_of_complete (name : String) (stamp : Stamp) :
    ∀ node ∈ (Graph.ofFunction name body stamp).nodesOfType ["for", "while"],
      ∃ edge ∈ (Graph.ofFunction name body stamp).edges,
        edge.target = node.id ∧ edge.label = some "loop" := by
  intro node member
  obtain ⟨entry, place, rfl, typed⟩ := place_of_node member (by decide)
  have known := complete_preorder.2 body complete entry.1 (List.fst_mem_of_mem_zipIdx place)
  obtain ⟨inward, outward, inner, flow⟩ := loop_of_isLoop ((node_type_loop _ _).mp typed)
  have branches := (node_loop flow entry.2).2
  have region : (Graph.ofFunction name body stamp).RegionOf (entry.1.node entry.2) :=
    regionOf_loop place flow
  obtain ⟨back, leaves⟩ := region.loops typed
    ("body", idRange (entry.2 + 1) (nodeCounts inner)) (by simp [branches])
  have occupied : idRange (entry.2 + 1) (nodeCounts inner) ≠ [] := by
    simp [idRange, nodeCounts_eq_zero, (known.repeated flow).1]
  obtain ⟨edge, present, inside, outside⟩ := leaves occupied
  exact ⟨edge, present, back edge present inside outside⟩

theorem hollowCount_of_complete : hollowCount (blockPreorder body) = 0 := by
  rw [hollowCount, List.countP_eq_zero]
  intro inner member
  have known := complete_preorder.2 body complete inner member
  cases flow : inner.flow with
  | leaf | branch => simp [Statement.hollow, flow]
  | loop inward outward held => simp [Statement.hollow, flow, (known.repeated flow).1]

end

theorem faithful_of_complete {function : FunctionDecl} (stamp : Stamp)
    (complete : ∀ statement ∈ function.body, statement.Complete) : function.Faithful stamp where
  complete := complete
  silent := diagnostics_of_complete complete function.name stamp
  closed := loops_of_complete complete function.name stamp
  measured := by
    have edges := ofFunction_edges_balance function.name function.body stamp
    rw [hollowCount_of_complete complete] at edges
    rw [graph_nodes_length, FunctionDecl.graph, ControlFlow.complexity]
    omega

end ControlFlow
