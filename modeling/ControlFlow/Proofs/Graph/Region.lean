import ControlFlow.Proofs.Graph.Place
import ControlFlow.Proofs.Graph.Trace

set_option autoImplicit false

namespace ControlFlow

/-! Arcs into and out of a statement -/

section

variable {all : List Arc} {statement : Statement} {index : Nat} {next : Continuation}

theorem Located.entered (located : Located all statement index next) {arc : Arc}
    (member : arc ∈ all)
    (outside : ¬ (index ≤ arc.source ∧ arc.source < index + statement.nodeCount))
    (inside : index ≤ arc.target ∧ arc.target < index + statement.nodeCount) :
    arc.target = index := by
  rcases located.mem member with apart | own
  · unfold Arc.Apart at apart
    omega
  · exact absurd (arcs_within.1 _ _ _ arc own).1 outside

theorem Located.left (located : Located all statement index next) {arc : Arc}
    (member : arc ∈ all)
    (inside : index ≤ arc.source ∧ arc.source < index + statement.nodeCount)
    (outside : ¬ (index ≤ arc.target ∧ arc.target < index + statement.nodeCount)) :
    arc.target = next.target := by
  rcases located.mem member with apart | own
  · unfold Arc.Apart at apart
    omega
  · exact (arcs_within.1 _ _ _ arc own).2.resolve_right outside

-- An arc from outside of `count` nodes from `first` on to one of them.
def Arc.Enters (arc : Arc) (first count : Nat) : Prop :=
  ¬ (first ≤ arc.source ∧ arc.source < first + count) ∧
    (first ≤ arc.target ∧ arc.target < first + count)

instance (arc : Arc) (first count : Nat) : Decidable (arc.Enters first count) :=
  inferInstanceAs (Decidable (_ ∧ _))

theorem filter_enters {entry : Arc} {others : List Arc} {first count : Nat}
    (parts : all.Perm (entry :: others)) (enters : entry.Enters first count)
    (only : ∀ arc ∈ others, ¬ arc.Enters first count) :
    all.filter (fun arc => arc.Enters first count) = [entry] := by
  have none : others.filter (fun arc => arc.Enters first count) = [] := by
    simpa [List.filter_eq_nil_iff] using only
  have filtered := parts.filter (fun arc => arc.Enters first count)
  rw [List.filter_cons_of_pos (by simpa using enters), none] at filtered
  exact List.perm_singleton.mp filtered

-- Arcs of another block, and arcs that come from inside, do not enter.
theorem Arc.Within.not_enters {arc : Arc} {first count exit blockFirst blockCount : Nat}
    (within : arc.Within blockFirst blockCount exit)
    (beside : blockFirst + blockCount ≤ first ∨ first + count ≤ blockFirst)
    (onward : exit < first ∨ first + count ≤ exit) : ¬ arc.Enters first count := by
  unfold Arc.Within at within
  unfold Arc.Enters
  omega

theorem Arc.Apart.not_enters {arc : Arc} {first count inner innerCount : Nat}
    (apart : arc.Apart first count) (after : first < inner)
    (before : inner + innerCount ≤ first + count) : ¬ arc.Enters inner innerCount := by
  unfold Arc.Apart at apart
  unfold Arc.Enters
  omega

-- A block among what a statement holds: one arc leads into it, and the others do not.
theorem Located.block_entered {block : List Statement} {first : Nat} {onward : Continuation}
    {label : Label} {rest : List Arc} (located : Located all statement index next)
    (parts : (statement.arcs index next).Perm
      (⟨index, first, some label⟩ :: (blockArcs block first onward ++ rest)))
    (after : index < first) (before : first + nodeCounts block ≤ index + statement.nodeCount)
    (occupied : block ≠ []) (beside : ∀ arc ∈ rest, ¬ arc.Enters first (nodeCounts block)) :
    all.filter (fun arc => arc.Enters first (nodeCounts block)) = [⟨index, first, some label⟩] := by
  obtain ⟨-, others, split, apart⟩ := located
  have positive : nodeCounts block ≠ 0 := fun zero => occupied (nodeCounts_eq_zero.mp zero)
  have whole := (split.trans (parts.append_left others)).trans List.perm_middle
  refine filter_enters whole ?_ ?_
  · simp only [Arc.Enters]
    omega
  · intro arc member
    rcases List.mem_append.mp member with outside | own
    · exact (apart arc outside).not_enters after before
    · rcases List.mem_append.mp own with inside | besides
      · exact fun enters => enters.1 (arcs_within.2 _ _ _ arc inside).1
      · exact beside arc besides

theorem Located.yes_entered {yes no : List Statement} (located : Located all statement index next)
    (flow : statement.flow = .branch yes no) (occupied : yes ≠ []) :
    all.filter (fun arc => arc.Enters (index + 1) (nodeCounts yes)) =
      [⟨index, index + 1, some .yes⟩] := by
  have onward := located.onward
  have count := nodeCount_branch flow
  have noFirst := next.before_target no (index + 1 + nodeCounts yes)
  have arcs := arcs_branch flow index next
  rw [Continuation.before_of_ne_nil _ _ occupied] at arcs
  refine located.block_entered (.of_eq arcs) (by omega) (by omega) occupied ?_
  intro arc member
  rcases List.mem_cons.mp member with rfl | inNo
  · simp only [Arc.Enters, Continuation.arc]
    omega
  · exact (arcs_within.2 _ _ _ arc inNo).not_enters (by omega) (by omega)

theorem Located.no_entered {yes no : List Statement} (located : Located all statement index next)
    (flow : statement.flow = .branch yes no) (occupied : no ≠ []) :
    all.filter (fun arc => arc.Enters (index + 1 + nodeCounts yes) (nodeCounts no)) =
      [⟨index, index + 1 + nodeCounts yes, some .no⟩] := by
  have onward := located.onward
  have count := nodeCount_branch flow
  have yesFirst := next.before_target yes (index + 1)
  have arcs := arcs_branch flow index next
  rw [Continuation.before_of_ne_nil next (index + 1 + nodeCounts yes) occupied] at arcs
  refine located.block_entered ((List.Perm.of_eq arcs).trans List.perm_append_comm) (by omega)
    (by omega) occupied ?_
  intro arc member
  rcases List.mem_cons.mp member with rfl | inYes
  · simp only [Arc.Enters, Continuation.arc]
    omega
  · exact (arcs_within.2 _ _ _ arc inYes).not_enters (by omega) (by omega)

theorem Located.body_entered {inward outward : Label} {body : List Statement}
    (located : Located all statement index next)
    (flow : statement.flow = .loop inward outward body) (occupied : body ≠ []) :
    all.filter (fun arc => arc.Enters (index + 1) (nodeCounts body)) =
      [⟨index, index + 1, some inward⟩] := by
  have onward := located.onward
  have count := nodeCount_loop flow
  have arcs := arcs_loop flow index next
  rw [loopArcs_of_ne_nil _ _ _ occupied] at arcs
  refine located.block_entered (.of_eq arcs) (by omega) (by omega) occupied ?_
  intro arc member
  rw [List.mem_singleton.mp member]
  simp only [Arc.Enters, Continuation.arc]
  omega

-- Out of the body of a loop control goes back to its header only.
theorem Located.body_left {inward outward : Label} {body : List Statement}
    (located : Located all statement index next)
    (flow : statement.flow = .loop inward outward body) {arc : Arc} (member : arc ∈ all)
    (inside : index + 1 ≤ arc.source ∧ arc.source < index + 1 + nodeCounts body)
    (outside : ¬ (index + 1 ≤ arc.target ∧ arc.target < index + 1 + nodeCounts body)) :
    arc.target = index ∧ arc.label = some .again := by
  have count := nodeCount_loop flow
  have own : arc ∈ statement.arcs index next := by
    rcases located.mem member with apart | own
    · unfold Arc.Apart at apart
      omega
    · exact own
  have occupied : body ≠ [] := by
    rintro rfl
    rw [nodeCounts] at inside
    omega
  rw [arcs_loop flow, loopArcs_of_ne_nil _ _ _ occupied, List.mem_append, List.mem_cons,
    List.mem_singleton] at own
  rcases own with (rfl | inBody) | rfl
  · simp only at inside
    omega
  · cases arcs_course.2 _ _ _ arc inBody with
    | past pending plain same =>
      rw [same]
      exact ⟨rfl, rfl⟩
    | forward plain up below => omega
    | back header inner outer held flow place label down below =>
      have within := places_inside.2 _ _ _ place
      have positive := nodeCount_pos header
      simp only at within
      omega
  · simp only [Continuation.arc] at inside
    omega

theorem Located.body_repeats {inward outward : Label} {body : List Statement}
    (located : Located all statement index next)
    (flow : statement.flow = .loop inward outward body) (occupied : body ≠ []) :
    ∃ arc ∈ all, (index + 1 ≤ arc.source ∧ arc.source < index + 1 + nodeCounts body) ∧
      arc.target = index := by
  obtain ⟨source, pending, member⟩ := arcs_past.2 body (index + 1) (.back index) occupied
  refine ⟨_, located.own ?_, (arcs_within.2 _ _ _ _ member).1, rfl⟩
  rw [arcs_loop flow, loopArcs_of_ne_nil _ _ _ occupied]
  exact List.mem_append_left _ (List.mem_cons_of_mem _ member)

end

/-! Regions of a graph -/

def controlTypes : List String := ["if", "for", "while"]

def Node.region (node : Node) : List String :=
  node.id :: node.branches.flatMap Prod.snd

-- The label under which a branch of a container is entered.
def entryLabel : String → String → Option String
  | "if", "then" => some "true"
  | "if", "else" => some "false"
  | "while", "body" => some "true"
  | "for", "body" => some "loop-continue"
  | _, _ => none

def Graph.edgesInto (graph : Graph) (ids : List String) : List Edge :=
  graph.edges.filter fun edge => edge.source ∉ ids ∧ edge.target ∈ ids

/-- A container that is the only way into its region, which has one way out. -/
structure Graph.RegionOf (graph : Graph) (node : Node) : Prop where
  named : node.branches.map Prod.fst = if node.type = "if" then ["then", "else"] else ["body"]
  entered : ∀ edge ∈ graph.edges, edge.source ∉ node.region → edge.target ∈ node.region →
    edge.target = node.id
  left : ∃ target ∉ node.region,
    (∃ edge ∈ graph.edges, edge.source ∈ node.region ∧ edge.target = target) ∧
    ∀ edge ∈ graph.edges, edge.source ∈ node.region → edge.target ∉ node.region →
      edge.target = target
  -- Each branch that is not empty is entered once, at its first node.
  branches : ∀ branch ∈ node.branches, ∀ first rest, branch.2 = first :: rest →
    ∃ edge, graph.edgesInto branch.2 = [edge] ∧ edge.source = node.id ∧ edge.target = first ∧
      edge.label = entryLabel node.type branch.1
  loops : node.type ∈ ["for", "while"] → ∀ branch ∈ node.branches,
    (∀ edge ∈ graph.edges, edge.source ∈ branch.2 → edge.target ∉ branch.2 →
      edge.target = node.id ∧ edge.label = some "loop") ∧
    (branch.2 ≠ [] → ∃ edge ∈ graph.edges, edge.source ∈ branch.2 ∧ edge.target ∉ branch.2)
  dominated : ∀ start ∈ graph.nodesOfType ["start"], ∀ id ∈ node.region,
    ∀ walk ∈ graph.walks start.id id, node.id ∈ walk

theorem region_node (statement : Statement) (index : Nat) :
    (statement.node index).region = idRange index statement.nodeCount := by
  cases flow : statement.flow with
  | leaf => simp [Node.region, node_leaf flow, nodeCount_leaf flow]
  | branch yes no =>
    simp [Node.region, node_branch flow, nodeCount_branch flow, idRange_add, Nat.add_assoc]
  | loop inward outward body =>
    simp [Node.region, node_loop flow, nodeCount_loop flow, idRange_add]

section

variable {name : String} {body : List Statement} {stamp : Stamp}

theorem edgesInto_single {first count : Nat} {entry : Arc}
    (single : (functionArcs body 0).filter (fun arc => arc.Enters first count) = [entry]) :
    ∃ edge, (Graph.ofFunction name body stamp).edgesInto (idRange first count) = [edge] ∧
      edge.source = nodeId entry.source ∧ edge.target = nodeId entry.target ∧
      edge.label = entry.label.map Label.text := by
  let enters : String × String × Option String → Bool := fun triple =>
    triple.1 ∉ idRange first count ∧ triple.2.1 ∈ idRange first count
  have same : enters ∘ Arc.triple = fun arc : Arc => decide (arc.Enters first count) := by
    funext arc
    apply decide_eq_decide.mpr
    simp only [Arc.triple, mem_idRange, Arc.Enters]
  have arcs : (threadFunction name body 0).arcs.filter (enters ∘ Arc.triple) = [entry] := by
    rw [same, ← List.perm_singleton, ← single]
    exact (Multiset.coe_eq_coe.mp (threadFunction_arcs name body 0)).filter _
  have triples := map_edgesOf (threadFunction name body 0).arcs
    (fun edge => (edge.source, edge.target, edge.label)) Arc.triple (fun _ _ => rfl)
  have found := congrArg (List.filter enters) triples
  rw [List.filter_map, List.filter_map, arcs, List.map_singleton,
    List.map_eq_singleton_iff] at found
  obtain ⟨edge, only, equal⟩ := found
  obtain ⟨source, target, label⟩ : edge.source = _ ∧ edge.target = _ ∧ edge.label = _ := by
    simpa [Arc.triple] using equal
  exact ⟨edge, only, source, target, label⟩

section

variable {statement : Statement} {index : Nat} {next : Continuation}
  (located : Located (functionArcs body 0) statement index next)

include located

theorem Located.region_entered :
    ∀ edge ∈ (Graph.ofFunction name body stamp).edges,
      edge.source ∉ (statement.node index).region → edge.target ∈ (statement.node index).region →
      edge.target = (statement.node index).id := by
  intro edge member outside inside
  obtain ⟨arc, present, source, target, -⟩ := arc_of_edge member
  rw [region_node, source, mem_idRange] at outside
  rw [region_node, target, mem_idRange] at inside
  rw [target, node_id, located.entered present outside inside]

theorem Located.region_left :
    ∃ target ∉ (statement.node index).region,
      (∃ edge ∈ (Graph.ofFunction name body stamp).edges,
        edge.source ∈ (statement.node index).region ∧ edge.target = target) ∧
      ∀ edge ∈ (Graph.ofFunction name body stamp).edges,
        edge.source ∈ (statement.node index).region →
        edge.target ∉ (statement.node index).region → edge.target = target := by
  rw [region_node]
  refine ⟨nodeId next.target, ?_, ?_, ?_⟩
  · have onward := located.onward
    rw [mem_idRange]
    omega
  · obtain ⟨source, pending, own⟩ := arcs_past.1 statement index next
    obtain ⟨edge, present, begins, ends, -⟩ := edge_of_arc name stamp (located.own own)
    refine ⟨edge, present, ?_, ends⟩
    rw [begins, mem_idRange]
    exact (arcs_within.1 _ _ _ _ own).1
  · intro edge member inside outside
    obtain ⟨arc, present, source, target, -⟩ := arc_of_edge member
    rw [source, mem_idRange] at inside
    rw [target, mem_idRange] at outside
    rw [target, located.left present inside outside]

theorem Located.region_dominated (first : 0 < index) :
    ∀ start ∈ (Graph.ofFunction name body stamp).nodesOfType ["start"],
      ∀ id ∈ (statement.node index).region,
        ∀ walk ∈ (Graph.ofFunction name body stamp).walks start.id id,
          (statement.node index).id ∈ walk := by
  intro start member id inside walk passes
  have starts : start ∈ [startNode name 0] := by
    rw [nodesOfType_singleton] at member
    rwa [← threadFunction_starts name body 0]
  rw [List.mem_singleton.mp starts] at passes
  have outside : nodeId 0 ∉ (statement.node index).region := by
    rw [region_node, mem_idRange]
    omega
  refine gate_mem_walk (· ∈ (statement.node index).region) ?_ outside inside passes
  rintro source target ⟨edge, present, rfl, rfl⟩
  exact located.region_entered edge present

end

theorem idRange_eq_cons {first count : Nat} {head : String} {rest : List String}
    (split : idRange first count = head :: rest) : head = nodeId first ∧ count ≠ 0 := by
  cases count with
  | zero => simp [idRange] at split
  | succ count =>
    rw [Nat.add_comm, idRange_add, idRange_one, List.singleton_append, List.cons.injEq] at split
    exact ⟨split.1.symm, by omega⟩

theorem block_ne_nil {block : List Statement} (occupied : nodeCounts block ≠ 0) : block ≠ [] :=
  fun empty => occupied (nodeCounts_eq_zero.mpr empty)

theorem branch_entered {index first count : Nat} {label : Label} {head : String}
    {rest : List String} (split : idRange first count = head :: rest)
    (single : (functionArcs body 0).filter (fun arc => arc.Enters first count) =
      [⟨index, first, some label⟩]) :
    ∃ edge, (Graph.ofFunction name body stamp).edgesInto (idRange first count) = [edge] ∧
      edge.source = nodeId index ∧ edge.target = head ∧ edge.label = some label.text := by
  obtain ⟨edge, only, source, target, labelled⟩ := edgesInto_single single
  exact ⟨edge, only, source, target.trans (idRange_eq_cons split).1.symm, labelled⟩

theorem regionOf_branch {entry : Statement × Nat} {yes no : List Statement}
    (member : entry ∈ blockPlaces body 1) (flow : entry.1.flow = .branch yes no) :
    (Graph.ofFunction name body stamp).RegionOf (entry.1.node entry.2) := by
  obtain ⟨next, located⟩ := functionArcs_located body 0 member
  have positive := (places_inside.2 _ _ entry member).1
  obtain ⟨type, branches⟩ := node_branch flow entry.2
  constructor
  case named => simp [type, branches]
  case entered => exact located.region_entered
  case left => exact located.region_left
  case dominated => exact located.region_dominated positive
  case branches =>
    intro branch named first rest split
    rw [branches, List.mem_pair] at named
    rw [node_id, type]
    rcases named with rfl | rfl
    · have occupied := block_ne_nil (idRange_eq_cons split).2
      exact branch_entered split (located.yes_entered flow occupied)
    · have occupied := block_ne_nil (idRange_eq_cons split).2
      exact branch_entered split (located.no_entered flow occupied)
  case loops =>
    intro loop
    simp [type] at loop

theorem regionOf_loop {entry : Statement × Nat} {inward outward : Label} {inner : List Statement}
    (member : entry ∈ blockPlaces body 1) (flow : entry.1.flow = .loop inward outward inner) :
    (Graph.ofFunction name body stamp).RegionOf (entry.1.node entry.2) := by
  obtain ⟨next, located⟩ := functionArcs_located body 0 member
  have positive := (places_inside.2 _ _ entry member).1
  obtain ⟨types, branches⟩ := node_loop flow entry.2
  constructor
  case named => rcases types with ⟨type, -⟩ | ⟨type, -⟩ <;> simp [type, branches]
  case entered => exact located.region_entered
  case left => exact located.region_left
  case dominated => exact located.region_dominated positive
  case branches =>
    intro branch named first rest split
    rw [branches, List.mem_singleton] at named
    subst named
    have occupied := block_ne_nil (idRange_eq_cons split).2
    have label : entryLabel (entry.1.node entry.2).type "body" = some inward.text := by
      rcases types with ⟨type, rfl⟩ | ⟨type, rfl⟩ <;> rw [type] <;> rfl
    rw [node_id, label]
    exact branch_entered split (located.body_entered flow occupied)
  case loops =>
    intro _ branch named
    rw [branches, List.mem_singleton] at named
    subst named
    refine ⟨?_, ?_⟩
    · intro edge present inside outside
      obtain ⟨arc, listed, source, target, label⟩ := arc_of_edge present
      rw [source, mem_idRange] at inside
      rw [target, mem_idRange] at outside
      obtain ⟨back, again⟩ := located.body_left flow listed inside outside
      rw [target, node_id, label, back, again]
      exact ⟨rfl, rfl⟩
    · intro occupied
      have nonempty : inner ≠ [] := by
        rintro rfl
        exact occupied rfl
      obtain ⟨arc, listed, inside, back⟩ := located.body_repeats flow nonempty
      obtain ⟨edge, present, source, target, -⟩ := edge_of_arc name stamp listed
      refine ⟨edge, present, ?_, ?_⟩
      · rwa [source, mem_idRange]
      · rw [target, mem_idRange, back]
        omega

theorem regions_nested {left right : Statement × Nat} (leftMember : left ∈ blockPlaces body 1)
    (rightMember : right ∈ blockPlaces body 1) :
    (left.1.node left.2).region ⊆ (right.1.node right.2).region ∨
      (right.1.node right.2).region ⊆ (left.1.node left.2).region ∨
      (left.1.node left.2).region.Disjoint (right.1.node right.2).region := by
  simp only [region_node]
  by_cases rightHeld : left.2 ≤ right.2 ∧ right.2 < left.2 + left.1.nodeCount
  · have held := places_nested leftMember rightMember rightHeld.1 rightHeld.2
    have inside := places_inside.1 _ _ right held
    exact .inr (.inl (idRange_subset inside.1 inside.2))
  · by_cases leftHeld : right.2 ≤ left.2 ∧ left.2 < right.2 + right.1.nodeCount
    · have held := places_nested rightMember leftMember leftHeld.1 leftHeld.2
      have inside := places_inside.1 _ _ left held
      exact .inl (idRange_subset inside.1 inside.2)
    · -- Neither begins among the nodes of the other.
      exact .inr (.inr (idRange_disjoint (by omega)))

end

theorem ofFunction_regions (name : String) (body : List Statement) (stamp : Stamp) :
    (∀ node ∈ (Graph.ofFunction name body stamp).nodesOfType controlTypes,
      (Graph.ofFunction name body stamp).RegionOf node) ∧
    ∀ left ∈ (Graph.ofFunction name body stamp).nodesOfType controlTypes,
      ∀ right ∈ (Graph.ofFunction name body stamp).nodesOfType controlTypes, left ≠ right →
        left.region ⊆ right.region ∨ right.region ⊆ left.region ∨
          left.region.Disjoint right.region := by
  constructor
  · intro node member
    obtain ⟨entry, place, rfl, typed⟩ := place_of_node member (by decide)
    cases flow : entry.1.flow with
    | leaf =>
      have leafType := (node_leaf flow entry.2).1
      simp only [controlTypes, List.mem_cons, List.not_mem_nil, or_false] at typed leafType
      rcases leafType with type | type | type <;> rw [type] at typed <;> simp at typed
    | branch yes no => exact regionOf_branch place flow
    | loop inward outward inner => exact regionOf_loop place flow
  · intro left leftMember right rightMember _
    obtain ⟨leftEntry, leftPlace, rfl, -⟩ := place_of_node leftMember (by decide)
    obtain ⟨rightEntry, rightPlace, rfl, -⟩ := place_of_node rightMember (by decide)
    exact regions_nested leftPlace rightPlace

def innerBranch : Statement := .branch "q" [.ret none .unknown] none .unknown

def outerLoop : Statement := .whileLoop "p" [innerBranch] .unknown

def branchInLoop : Graph := .ofFunction "f" [outerLoop] ⟨"python", "a", 0⟩

theorem ofFunction_regions_branch_in_loop :
    (outerLoop.node 1).region = idRange 1 3 ∧ (innerBranch.node 2).region = idRange 2 2 ∧
    branchInLoop.RegionOf (outerLoop.node 1) ∧ branchInLoop.RegionOf (innerBranch.node 2) ∧
    ((outerLoop.node 1).region ⊆ (innerBranch.node 2).region ∨
      (innerBranch.node 2).region ⊆ (outerLoop.node 1).region ∨
      (outerLoop.node 1).region.Disjoint (innerBranch.node 2).region) := by
  obtain ⟨regions, nested⟩ := ofFunction_regions "f" [outerLoop] ⟨"python", "a", 0⟩
  have outer : outerLoop.node 1 ∈ branchInLoop.nodesOfType controlTypes := by
    have place : (outerLoop, 1) ∈ blockPlaces [outerLoop] 1 := .head _
    exact List.mem_filter.mpr ⟨node_of_place "f" _ place, rfl⟩
  have inner : innerBranch.node 2 ∈ branchInLoop.nodesOfType controlTypes := by
    have place : (innerBranch, 2) ∈ blockPlaces [outerLoop] 1 := .tail _ (.head _)
    exact List.mem_filter.mpr ⟨node_of_place "f" _ place, rfl⟩
  have differ : outerLoop.node 1 ≠ innerBranch.node 2 := by
    simp [outerLoop, innerBranch, Statement.node]
  exact ⟨region_node _ _, region_node _ _, regions _ outer, regions _ inner,
    nested _ outer _ inner differ⟩

end ControlFlow
