import ControlFlow.Proofs.Graph.Connected
import ControlFlow.Proofs.Graph.Place
import ControlFlow.Proofs.Graph.Trace

set_option autoImplicit false

namespace ControlFlow

section

variable {body : List Statement}

theorem functionArcs_direction {index : Nat} {arc : Arc} (member : arc ∈ functionArcs body index) :
    (arc.label ≠ some .again ∧ arc.source < arc.target) ∨
      arc.label = some .again ∧ arc.target < arc.source ∧
        ∃ header inward outward inner, header.flow = .loop inward outward inner ∧
          (header, arc.target) ∈ blockPlaces body (index + 1) ∧
          arc.source ≤ arc.target + nodeCounts inner := by
  have within := (functionArcs_within body index arc member).1
  cases functionArcs_course body index arc member with
  | past pending plain same =>
    rw [same]
    refine .inl ⟨plain, ?_⟩
    simp only [Continuation.arc]
    omega
  | forward plain up below => exact .inl ⟨plain, up⟩
  | back header inward outward inner flow place label down held =>
    exact .inr ⟨label, down, header, inward, outward, inner, flow, place, held⟩

-- Into the body, through all of it, and back.
theorem loop_cycle (index : Nat) {entry : Statement × Nat} {inward outward : Label}
    {inner : List Statement} (member : entry ∈ blockPlaces body (index + 1))
    (flow : entry.1.flow = .loop inward outward inner) (occupied : inner ≠ []) :
    Relation.TransGen (Joined (functionArcs body index)) entry.2 entry.2 := by
  obtain ⟨next, located⟩ := functionArcs_located body index member
  have own : ∀ arc ∈ loopArcs entry.2 inward outward inner
      (blockArcs inner (entry.2 + 1) (.back entry.2)) next, arc ∈ functionArcs body index := by
    intro arc inLoop
    exact located.own (by rwa [arcs_loop flow])
  simp only [loopArcs_of_ne_nil _ _ _ occupied, List.mem_append, List.mem_cons] at own
  have entered : Joined (functionArcs body index) entry.2 (entry.2 + 1) :=
    ⟨_, own ⟨entry.2, entry.2 + 1, some inward⟩ (.inl (.inl rfl)), rfl, rfl⟩
  have through := reaches_through ((arcs_spanned (functionArcs body index)).2 inner (entry.2 + 1)
    (.back entry.2) fun arc inBody => own arc (.inl (.inr inBody)))
  rw [Continuation.before_of_ne_nil _ _ occupied] at through
  exact .head' entered through

end

def Graph.position (graph : Graph) (id : String) : Nat :=
  (graph.nodes.map Node.id).idxOf id

def Graph.Climbs (graph : Graph) (edge : Edge) : Prop :=
  graph.position edge.source < graph.position edge.target

-- Without the edges that send control round again.
def Graph.forward (graph : Graph) : Graph :=
  { graph with edges := graph.edges.filter fun edge => edge.label ≠ some "loop" }

def Graph.Cyclic (graph : Graph) : Prop :=
  ∃ id, Relation.TransGen graph.Linked id id

def Statement.repeats : Statement → Bool
  | .forLoop _ _ _ body _ => !body.isEmpty
  | .whileLoop _ body _ => !body.isEmpty
  | _ => false

structure Graph.LoopsBack (graph : Graph) (body : List Statement) : Prop where
  known : ∀ edge ∈ graph.edges, graph.position edge.source < graph.nodes.length ∧
    graph.position edge.target < graph.nodes.length
  labels : ∀ edge ∈ graph.edges,
    edge.label = some "loop" ↔ graph.position edge.target ≤ graph.position edge.source
  headers : ∀ edge ∈ graph.edges, edge.label = some "loop" →
    ∃ node ∈ graph.nodesOfType ["for", "while"], node.id = edge.target ∧
      ∃ ids, node.branches.lookup "body" = some ids ∧ edge.source ∈ ids
  loose : ∀ edge ∈ graph.edges, edge.source ≠ edge.target
  ordered : ∀ edge ∈ graph.forward.edges, graph.Climbs edge
  acyclic : ¬ graph.forward.Cyclic
  cyclic : graph.Cyclic ↔ ∃ statement ∈ blockPreorder body, statement.repeats

theorem not_cyclic_of_rank {graph : Graph} (rank : String → Nat)
    (up : ∀ edge ∈ graph.edges, rank edge.source < rank edge.target) : ¬ graph.Cyclic := by
  rintro ⟨id, round⟩
  have climb : Relation.TransGen (· < ·) (rank id) (rank id) := by
    refine round.lift rank ?_
    rintro _ _ ⟨edge, present, rfl, rfl⟩
    exact up edge present
  rw [Relation.transGen_eq_self] at climb
  exact Nat.lt_irrefl _ climb

theorem position_lt {graph : Graph} {id : String} (member : id ∈ graph.nodes.map Node.id) :
    graph.position id < graph.nodes.length := by
  have inside := List.idxOf_lt_length_of_mem member
  rwa [List.length_map] at inside

theorem repeats_loop {statement : Statement} {inward outward : Label} {body : List Statement}
    (flow : statement.flow = .loop inward outward body) :
    statement.repeats ↔ body ≠ [] := by
  cases statement <;> simp only [Statement.flow, Flow.loop.injEq, reduceCtorEq] at flow
  all_goals
    obtain ⟨-, -, rfl⟩ := flow
    simp [Statement.repeats]

theorem loop_of_repeats {statement : Statement} (repeats : statement.repeats) :
    ∃ inward outward body, statement.flow = .loop inward outward body := by
  cases statement <;> simp_all [Statement.repeats, Statement.flow]

theorem text_eq_loop {label : Option Label} :
    label.map Label.text = some "loop" ↔ label = some .again := by
  cases label with
  | none => simp
  | some label => cases label <;> simp [Label.text]

section

variable {name : String} {body : List Statement} {stamp : Stamp}

theorem position_nodeId {index : Nat} (bound : index < nodeCounts body + 2) :
    (Graph.ofFunction name body stamp).position (nodeId index) = index := by
  have listed : (idRange 0 (nodeCounts body + 2))[index]? = some (nodeId index) := by
    simp [idRange, bound]
  obtain ⟨inside, here⟩ := List.getElem?_eq_some_iff.mp listed
  rw [Graph.position, ofFunction_ids, ← here]
  exact (idRange_nodup _ _).idxOf_getElem index inside

theorem position_edge (name : String) (stamp : Stamp) {edge : Edge} {arc : Arc}
    (member : arc ∈ functionArcs body 0)
    (source : edge.source = nodeId arc.source) (target : edge.target = nodeId arc.target) :
    (Graph.ofFunction name body stamp).position edge.source = arc.source ∧
      (Graph.ofFunction name body stamp).position edge.target = arc.target := by
  obtain ⟨begins, ends⟩ := functionArcs_within body 0 arc member
  rw [source, target]
  exact ⟨position_nodeId (by omega), position_nodeId (by omega)⟩

theorem edge_direction {edge : Edge}
    (member : edge ∈ (Graph.ofFunction name body stamp).edges) :
    (edge.label ≠ some "loop" ∧ (Graph.ofFunction name body stamp).Climbs edge) ∨
    edge.label = some "loop" ∧
      (Graph.ofFunction name body stamp).position edge.target <
        (Graph.ofFunction name body stamp).position edge.source ∧
      ∃ entry ∈ blockPlaces body 1, ∃ inward outward inner,
        entry.1.flow = .loop inward outward inner ∧ edge.target = nodeId entry.2 ∧
        edge.source ∈ idRange (entry.2 + 1) (nodeCounts inner) := by
  obtain ⟨arc, present, source, target, label⟩ := arc_of_edge member
  obtain ⟨begins, ends⟩ := position_edge name stamp present source target
  rw [Graph.Climbs, begins, ends, label, text_eq_loop.ne, text_eq_loop]
  rcases functionArcs_direction present with forward | ⟨again, down, header, inward, outward, inner,
    flow, place, held⟩
  · exact .inl forward
  · refine .inr ⟨again, down, _, place, inward, outward, inner, flow, target, ?_⟩
    rw [source, mem_idRange]
    omega

theorem climbs_of_plain {edge : Edge} (member : edge ∈ (Graph.ofFunction name body stamp).edges)
    (plain : edge.label ≠ some "loop") : (Graph.ofFunction name body stamp).Climbs edge := by
  rcases edge_direction member with ⟨-, up⟩ | ⟨again, -⟩
  · exact up
  · exact absurd again plain

theorem loop_header (name : String) (stamp : Stamp) {entry : Statement × Nat}
    {inward outward : Label} {inner : List Statement} (place : entry ∈ blockPlaces body 1)
    (flow : entry.1.flow = .loop inward outward inner) :
    entry.1.node entry.2 ∈ (Graph.ofFunction name body stamp).nodesOfType ["for", "while"] ∧
      (entry.1.node entry.2).branches.lookup "body" =
        some (idRange (entry.2 + 1) (nodeCounts inner)) := by
  obtain ⟨types, branches⟩ := node_loop flow entry.2
  refine ⟨List.mem_filter.mpr ⟨node_of_place name stamp place, ?_⟩, by simp [branches]⟩
  rcases types with ⟨type, -⟩ | ⟨type, -⟩ <;> simp [type]

theorem cyclic_of_repeats {statement : Statement} (member : statement ∈ blockPreorder body)
    (repeats : statement.repeats) : (Graph.ofFunction name body stamp).Cyclic := by
  obtain ⟨inward, outward, inner, flow⟩ := loop_of_repeats repeats
  rw [← List.zipIdx_map_fst 1 (blockPreorder body)] at member
  obtain ⟨entry, place, rfl⟩ := List.mem_map.mp member
  have round := loop_cycle 0 place flow ((repeats_loop flow).mp repeats)
  have linked : ∀ source target, Joined (functionArcs body 0) source target →
      (Graph.ofFunction name body stamp).Linked (nodeId source) (nodeId target) := by
    intro source target joined
    rw [Graph.ofFunction, linked_ofPiece, joined_threadFunction]
    exact ⟨source, target, rfl, rfl, joined⟩
  exact ⟨nodeId entry.2, round.lift nodeId linked⟩

-- A loop without a body has no edge that goes back to it.
theorem repeats_of_again {edge : Edge} (member : edge ∈ (Graph.ofFunction name body stamp).edges)
    (again : edge.label = some "loop") : ∃ statement ∈ blockPreorder body, statement.repeats := by
  rcases edge_direction member with ⟨plain, -⟩ | ⟨-, -, entry, place, inward, outward, inner, flow,
    -, inside⟩
  · exact absurd again plain
  · refine ⟨entry.1, List.fst_mem_of_mem_zipIdx place, (repeats_loop flow).mpr ?_⟩
    rintro rfl
    simp [idRange, nodeCounts] at inside

theorem repeats_of_cyclic (cyclic : (Graph.ofFunction name body stamp).Cyclic) :
    ∃ statement ∈ blockPreorder body, statement.repeats := by
  by_contra none
  have up : ∀ edge ∈ (Graph.ofFunction name body stamp).edges,
      (Graph.ofFunction name body stamp).Climbs edge := by
    intro edge member
    exact climbs_of_plain member fun again => none (repeats_of_again member again)
  exact not_cyclic_of_rank _ up cyclic

end

theorem ofFunction_loopsBack (name : String) (body : List Statement) (stamp : Stamp) :
    (Graph.ofFunction name body stamp).LoopsBack body := by
  have ordered : ∀ edge ∈ (Graph.ofFunction name body stamp).forward.edges,
      (Graph.ofFunction name body stamp).Climbs edge := by
    intro edge member
    obtain ⟨present, plain⟩ := List.mem_filter.mp member
    exact climbs_of_plain present (of_decide_eq_true plain)
  constructor
  case known =>
    intro edge member
    obtain ⟨begins, ends⟩ := edge_ends member
    exact ⟨position_lt begins, position_lt ends⟩
  case labels =>
    intro edge member
    rcases edge_direction member with ⟨plain, up⟩ | ⟨again, down, -⟩
    · exact ⟨fun again => absurd again plain, fun low => absurd up (Nat.not_lt.mpr low)⟩
    · exact ⟨fun _ => Nat.le_of_lt down, fun _ => again⟩
  case headers =>
    intro edge member again
    rcases edge_direction member with ⟨plain, -⟩ | ⟨-, -, entry, place, inward, outward, inner,
      flow, target, inside⟩
    · exact absurd again plain
    · obtain ⟨typed, branch⟩ := loop_header name stamp place flow
      exact ⟨_, typed, (node_id _ _).trans target.symm, _, branch, inside⟩
  case loose =>
    intro edge member same
    rcases edge_direction member with ⟨-, up⟩ | ⟨-, down, -⟩
    · rw [Graph.Climbs, same] at up
      exact Nat.lt_irrefl _ up
    · rw [same] at down
      exact Nat.lt_irrefl _ down
  case ordered => exact ordered
  case acyclic => exact not_cyclic_of_rank _ ordered
  case cyclic =>
    constructor
    · exact repeats_of_cyclic
    · rintro ⟨statement, member, repeats⟩
      exact cyclic_of_repeats member repeats

end ControlFlow
