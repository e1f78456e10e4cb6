import ControlFlow.Proofs.Graph.Layout
import Mathlib.Algebra.Order.Group.Multiset
import Mathlib.Tactic.Abel

set_option autoImplicit false

namespace ControlFlow

/-- Where control goes once a statement is done. The label, if there is one, stands on every arc
there in place of the label that is pending. -/
structure Continuation where
  target : Nat
  label : Option Label

namespace Continuation

def arc (next : Continuation) (source : Nat) (pending : Option Label) : Arc :=
  ⟨source, next.target, next.label.or pending⟩

-- The continuation of what stands before a block at `index`: the first node of the block, or what
-- comes after the block if it is empty.
def before (next : Continuation) (block : List Statement) (index : Nat) : Continuation :=
  if block.isEmpty then next else ⟨index, none⟩

def back (header : Nat) : Continuation := ⟨header, some .again⟩

def join (next : Continuation) (frontier : List Exit) : List Arc :=
  connect frontier next.target next.label

@[simp] theorem join_singleton (next : Continuation) (source : Nat) (pending : Option Label) :
    next.join [⟨source, pending⟩] = [next.arc source pending] := rfl

@[simp] theorem join_append (next : Continuation) (left right : List Exit) :
    next.join (left ++ right) = next.join left ++ next.join right := by
  simp [join, connect]

@[simp] theorem before_nil (next : Continuation) (index : Nat) : next.before [] index = next := rfl

theorem before_of_ne_nil (next : Continuation) {block : List Statement} (index : Nat)
    (nonempty : block ≠ []) : next.before block index = ⟨index, none⟩ := by
  cases block with
  | nil => exact absurd rfl nonempty
  | cons statement rest => rfl

theorem before_target (next : Continuation) (block : List Statement) (index : Nat) :
    (next.before block index).target = next.target ∨
      (next.before block index).target = index ∧ 0 < nodeCounts block := by
  by_cases empty : block = []
  · subst empty
    exact .inl rfl
  · have positive : nodeCounts block ≠ 0 := fun zero => empty (nodeCounts_eq_zero.mp zero)
    rw [before_of_ne_nil next index empty]
    exact .inr ⟨rfl, Nat.pos_of_ne_zero positive⟩

end Continuation

def loopArcs (index : Nat) (inward outward : Label) (body : List Statement) (inner : List Arc)
    (next : Continuation) : List Arc :=
  (if body.isEmpty then [] else ⟨index, index + 1, some inward⟩ :: inner) ++
    [next.arc index (some outward)]

theorem loopArcs_of_ne_nil (index : Nat) (inward outward : Label) {body : List Statement}
    (nonempty : body ≠ []) (inner : List Arc) (next : Continuation) :
    loopArcs index inward outward body inner next =
      ⟨index, index + 1, some inward⟩ :: inner ++ [next.arc index (some outward)] := by
  simp [loopArcs, nonempty]

mutual

def Statement.arcs : Statement → Nat → Continuation → List Arc
  | .branch _ yes none _, index, next =>
      (next.before yes (index + 1)).arc index (some .yes) :: blockArcs yes (index + 1) next ++
        [next.arc index (some .no)]
  | .branch _ yes (some no) _, index, next =>
      (next.before yes (index + 1)).arc index (some .yes) :: blockArcs yes (index + 1) next ++
        (next.before no (index + 1 + nodeCounts yes)).arc index (some .no) ::
          blockArcs no (index + 1 + nodeCounts yes) next
  | .forLoop _ _ _ body _, index, next =>
      loopArcs index .enter .leave body (blockArcs body (index + 1) (.back index)) next
  | .whileLoop _ body _, index, next =>
      loopArcs index .yes .no body (blockArcs body (index + 1) (.back index)) next
  | _, index, next => [next.arc index none]

def blockArcs : List Statement → Nat → Continuation → List Arc
  | [], _, _ => []
  -- The last statement goes where the block goes.
  | statement :: rest, index, next =>
      statement.arcs index (next.before rest (index + statement.nodeCount)) ++
        blockArcs rest (index + statement.nodeCount) next

end

def functionArcs (body : List Statement) (index : Nat) : List Arc :=
  let finish : Continuation := ⟨index + 1 + nodeCounts body, none⟩
  (finish.before body (index + 1)).arc index none :: blockArcs body (index + 1) finish

/-! Arcs by flow -/

theorem arcs_leaf {statement : Statement} (flow : statement.flow = .leaf) (index : Nat)
    (next : Continuation) : statement.arcs index next = [next.arc index none] := by
  cases statement <;> simp_all [Statement.flow, Statement.arcs]

theorem arcs_branch {statement : Statement} {yes no : List Statement}
    (flow : statement.flow = .branch yes no) (index : Nat) (next : Continuation) :
    statement.arcs index next =
      (next.before yes (index + 1)).arc index (some .yes) :: blockArcs yes (index + 1) next ++
        (next.before no (index + 1 + nodeCounts yes)).arc index (some .no) ::
          blockArcs no (index + 1 + nodeCounts yes) next := by
  cases statement <;> simp only [Statement.flow, Flow.branch.injEq, reduceCtorEq] at flow
  obtain ⟨rfl, rfl⟩ := flow
  rename_i side location
  cases side <;> simp [Statement.arcs, blockArcs]

theorem arcs_loop {statement : Statement} {inward outward : Label} {body : List Statement}
    (flow : statement.flow = .loop inward outward body) (index : Nat) (next : Continuation) :
    statement.arcs index next =
      loopArcs index inward outward body (blockArcs body (index + 1) (.back index)) next := by
  cases statement <;> simp only [Statement.flow, Flow.loop.injEq, reduceCtorEq] at flow
  all_goals
    obtain ⟨rfl, rfl, rfl⟩ := flow
    rw [Statement.arcs]

/-! Where arcs begin and end -/

def Joined (arcs : List Arc) (source target : Nat) : Prop :=
  ∃ arc ∈ arcs, arc.source = source ∧ arc.target = target

-- An arc out of one of `count` nodes from `first` on that stays among them or goes to `exit`.
def Arc.Within (arc : Arc) (first count exit : Nat) : Prop :=
  (first ≤ arc.source ∧ arc.source < first + count) ∧
    (arc.target = exit ∨ first ≤ arc.target ∧ arc.target < first + count)

theorem Arc.Within.widen {arc : Arc} {first count exit outerFirst outerCount outerExit : Nat}
    (within : arc.Within first count exit) (low : outerFirst ≤ first)
    (high : first + count ≤ outerFirst + outerCount)
    (onward : exit = outerExit ∨ outerFirst ≤ exit ∧ exit < outerFirst + outerCount) :
    arc.Within outerFirst outerCount outerExit := by
  unfold Arc.Within at *
  omega

theorem within_arc (next : Continuation) (source count exit : Nat) (pending : Option Label)
    (positive : 0 < count)
    (onward : next.target = exit ∨ source ≤ next.target ∧ next.target < source + count) :
    (next.arc source pending).Within source count exit := by
  simp only [Arc.Within, Continuation.arc]
  omega

theorem arcs_within :
    (∀ (statement : Statement) (index : Nat) (next : Continuation),
      ∀ arc ∈ statement.arcs index next, arc.Within index statement.nodeCount next.target) ∧
    ∀ (block : List Statement) (index : Nat) (next : Continuation),
      ∀ arc ∈ blockArcs block index next, arc.Within index (nodeCounts block) next.target := by
  apply flow_induction
  · intro statement flow index next arc member
    rw [arcs_leaf flow, List.mem_singleton] at member
    rw [member]
    exact within_arc next index _ _ none (nodeCount_pos statement) (.inl rfl)
  · intro statement yes no flow yesWithin noWithin index next arc member
    have yesFirst := next.before_target yes (index + 1)
    have noFirst := next.before_target no (index + 1 + nodeCounts yes)
    rw [arcs_branch flow, List.mem_append, List.mem_cons, List.mem_cons] at member
    rw [nodeCount_branch flow]
    rcases member with (rfl | inYes) | rfl | inNo
    · exact within_arc _ index _ _ _ (by omega) (by omega)
    · exact (yesWithin _ _ arc inYes).widen (by omega) (by omega) (.inl rfl)
    · exact within_arc _ index _ _ _ (by omega) (by omega)
    · exact (noWithin _ _ arc inNo).widen (by omega) (by omega) (.inl rfl)
  · intro statement inward outward body flow bodyWithin index next arc member
    rw [arcs_loop flow] at member
    rw [nodeCount_loop flow]
    have past := within_arc next index (1 + nodeCounts body) next.target (some outward) (by omega)
      (.inl rfl)
    by_cases empty : body = []
    · obtain rfl : arc = next.arc index (some outward) := by simpa [loopArcs, empty] using member
      exact past
    · have positive : nodeCounts body ≠ 0 := fun zero => empty (nodeCounts_eq_zero.mp zero)
      rw [loopArcs_of_ne_nil _ _ _ empty, List.mem_append, List.mem_cons,
        List.mem_singleton] at member
      rcases member with (rfl | inBody) | rfl
      · simp only [Arc.Within]
        omega
      · exact (bodyWithin _ _ arc inBody).widen (by omega) (by omega)
          (.inr (by simp only [Continuation.back]; omega))
      · exact past
  · intro index next arc member
    simp [blockArcs] at member
  · intro statement rest first others index next arc member
    have onward := next.before_target rest (index + statement.nodeCount)
    rw [blockArcs, List.mem_append] at member
    rw [nodeCounts]
    rcases member with here | later
    · exact (first _ _ arc here).widen (by omega) (by omega) (by omega)
    · exact (others _ _ arc later).widen (by omega) (by omega) (.inl rfl)

theorem functionArcs_within (body : List Statement) (index : Nat) :
    ∀ arc ∈ functionArcs body index,
      arc.Within index (nodeCounts body + 1) (index + 1 + nodeCounts body) := by
  intro arc member
  have onward := Continuation.before_target ⟨index + 1 + nodeCounts body, none⟩ body (index + 1)
  simp only at onward
  rcases List.mem_cons.mp member with rfl | inside
  · exact within_arc _ index _ _ none (by omega) (by omega)
  · exact (arcs_within.2 _ _ _ arc inside).widen (by omega) (by omega) (.inl rfl)

/-! Both ways agree -/

theorem branchPiece_arcs (index : Nat) (frontier : List Exit) (condition : String)
    (location : Location) (yes no : Piece) (next : Continuation) (first second : Arc)
    (inYes inNo : List Arc)
    (exits : mergeExits yes.exits no.exits = yes.exits ++ no.exits)
    (yesArcs : (yes.arcs + next.join yes.exits : Multiset Arc) = (first :: inYes : List Arc))
    (noArcs : (no.arcs + next.join no.exits : Multiset Arc) = (second :: inNo : List Arc)) :
    ((branchPiece index frontier condition location yes no).arcs +
        next.join (branchPiece index frontier condition location yes no).exits : Multiset Arc) =
      connect frontier index none + (first :: inYes ++ second :: inNo : List Arc) := by
  simp only [branchPiece, exits, Continuation.join_append, ← Multiset.coe_add]
  calc
    (connect frontier index none + yes.arcs + no.arcs +
        (next.join yes.exits + next.join no.exits) : Multiset Arc) =
      connect frontier index none +
        ((yes.arcs + next.join yes.exits) + (no.arcs + next.join no.exits)) := by abel
    _ = connect frontier index none + (first :: inYes ++ second :: inNo : List Arc) := by
      rw [yesArcs, noArcs, Multiset.coe_add]

theorem loopPiece_arcs (index : Nat) (frontier : List Exit) (type : String)
    (condition : Option String) (inward outward : Label) (location : Location)
    (body : List Statement) (piece : Piece) (inner : List Arc) (next : Continuation)
    (nodes : piece.nodes.isEmpty = body.isEmpty)
    (empty : body = [] → piece.arcs = [])
    (bodyArcs : body ≠ [] →
      (piece.arcs + (Continuation.back index).join piece.exits : Multiset Arc) =
        (⟨index, index + 1, some inward⟩ :: inner : List Arc)) :
    ((loopPiece index frontier type condition outward location piece).arcs +
        next.join (loopPiece index frontier type condition outward location piece).exits :
          Multiset Arc) =
      connect frontier index none + loopArcs index inward outward body inner next := by
  by_cases hollow : body = []
  · simp [loopPiece, loopArcs, nodes, hollow, empty hollow]
  · have solid : body.isEmpty = false := by simpa using hollow
    rw [loopArcs_of_ne_nil _ _ _ hollow]
    simp only [loopPiece, nodes, solid, Bool.false_eq_true, if_false,
      Continuation.join_singleton, ← Multiset.coe_add]
    calc
      (connect frontier index none + piece.arcs + connect piece.exits index (some .again) +
          ([next.arc index (some outward)] : List Arc) : Multiset Arc) =
        connect frontier index none + ((piece.arcs + (Continuation.back index).join piece.exits) +
          ([next.arc index (some outward)] : List Arc)) := by
            simp only [Continuation.join, Continuation.back]
            abel
      _ = _ := by rw [bodyArcs hollow]

-- What threading emits and what it still owes to the continuation is what enters from the frontier
-- and what the statement emits by itself. The frontier and the continuation are both arbitrary: the
-- exits of one statement are the frontier of the next, whose first node is its continuation.
theorem thread_arcs :
    (∀ (statement : Statement) (index : Nat) (frontier : List Exit) (next : Continuation),
      ((thread statement index frontier).arcs +
          next.join (thread statement index frontier).exits : Multiset Arc) =
        connect frontier index none + statement.arcs index next) ∧
    ∀ (block : List Statement) (index : Nat) (frontier : List Exit) (next : Continuation),
      ((threadAll block index frontier).arcs +
          next.join (threadAll block index frontier).exits : Multiset Arc) =
        (next.before block index).join frontier + blockArcs block index next := by
  apply flow_induction
  · intro statement flow index frontier next
    obtain ⟨type, label, details, location, kinds, -, equation⟩ := thread_leaf flow
    simp [equation, processPiece, arcs_leaf flow]
  · intro statement yes no flow yesArcs noArcs index frontier next
    obtain ⟨condition, location, equation⟩ := thread_branch flow
    rw [equation, arcs_branch flow, threadAll_nodes_length]
    apply branchPiece_arcs
    · exact branch_exits yes no index
    · exact yesArcs (index + 1) [⟨index, some .yes⟩] next
    · exact noArcs (index + 1 + nodeCounts yes) [⟨index, some .no⟩] next
  · intro statement inward outward body flow bodyArcs index frontier next
    obtain ⟨type, condition, location, -, equation⟩ := thread_loop flow
    rw [equation, arcs_loop flow]
    apply loopPiece_arcs
    · rw [Bool.eq_iff_iff, List.isEmpty_iff_length_eq_zero, threadAll_nodes_length,
        nodeCounts_eq_zero, List.isEmpty_iff]
    · rintro rfl
      rfl
    · intro nonempty
      rw [bodyArcs, Continuation.before_of_ne_nil _ _ nonempty]
      rfl
  · intro index frontier next
    simp [threadAll_nil, emptyPiece, blockArcs]
  · intro statement rest first others index frontier next
    have here := first index frontier (next.before rest (index + statement.nodeCount))
    have later := others (index + statement.nodeCount) (thread statement index frontier).exits next
    simp only [threadAll_cons, Piece.append, thread_nodes_length, blockArcs, ← Multiset.coe_add,
      add_assoc]
    rw [later, ← add_assoc, here, add_assoc]
    rfl

theorem threadFunction_arcs (name : String) (body : List Statement) (index : Nat) :
    ((threadFunction name body index).arcs : Multiset Arc) = functionArcs body index := by
  have inner := thread_arcs.2 body (index + 1) [⟨index, none⟩] ⟨index + 1 + nodeCounts body, none⟩
  rw [Continuation.join_singleton, Multiset.coe_add, Multiset.coe_add] at inner
  simp only [threadFunction, functionPiece, threadAll_nodes_length]
  exact inner

theorem mem_threadFunction_arcs (name : String) (body : List Statement) (index : Nat) (arc : Arc) :
    arc ∈ (threadFunction name body index).arcs ↔ arc ∈ functionArcs body index := by
  rw [← Multiset.mem_coe, threadFunction_arcs, Multiset.mem_coe]

theorem joined_threadFunction (name : String) (body : List Statement) (index : Nat) :
    Joined (threadFunction name body index).arcs = Joined (functionArcs body index) := by
  funext source target
  simp only [Joined, mem_threadFunction_arcs]

/-! Arcs as edges of a graph -/

def Arc.triple (arc : Arc) : String × String × Option String :=
  (nodeId arc.source, nodeId arc.target, arc.label.map Label.text)

def Graph.triples (graph : Graph) : Multiset (String × String × Option String) :=
  (graph.edges.map fun e => (e.source, e.target, e.label) : List (String × String × Option String))

theorem ofPiece_triples (stamp : Stamp) (entry : Option String) (piece : Piece) :
    (Graph.ofPiece stamp entry piece).triples = (piece.arcs : Multiset Arc).map Arc.triple := by
  rw [Graph.triples, Graph.ofPiece, map_edgesOf piece.arcs _ Arc.triple (fun _ _ => rfl),
    Multiset.map_coe]

theorem arc_of_edge {name : String} {body : List Statement} {stamp : Stamp} {edge : Edge}
    (member : edge ∈ (Graph.ofFunction name body stamp).edges) :
    ∃ arc ∈ functionArcs body 0, edge.source = nodeId arc.source ∧
      edge.target = nodeId arc.target ∧ edge.label = arc.label.map Label.text := by
  obtain ⟨position, bound, rfl⟩ := List.mem_mapIdx.mp member
  have present := List.getElem_mem bound
  rw [mem_threadFunction_arcs] at present
  exact ⟨_, present, rfl, rfl, rfl⟩

theorem edge_of_arc {body : List Statement} {arc : Arc} (name : String) (stamp : Stamp)
    (member : arc ∈ functionArcs body 0) :
    ∃ edge ∈ (Graph.ofFunction name body stamp).edges, edge.source = nodeId arc.source ∧
      edge.target = nodeId arc.target ∧ edge.label = arc.label.map Label.text := by
  rw [← mem_threadFunction_arcs name] at member
  obtain ⟨position, bound, rfl⟩ := List.getElem_of_mem member
  exact ⟨_, List.mem_mapIdx.mpr ⟨position, bound, rfl⟩, rfl, rfl, rfl⟩

theorem edge_ends {name : String} {body : List Statement} {stamp : Stamp} {edge : Edge}
    (member : edge ∈ (Graph.ofFunction name body stamp).edges) :
    edge.source ∈ (Graph.ofFunction name body stamp).nodes.map Node.id ∧
      edge.target ∈ (Graph.ofFunction name body stamp).nodes.map Node.id := by
  obtain ⟨arc, present, source, target, -⟩ := arc_of_edge member
  have within := functionArcs_within body 0 arc present
  rw [Arc.Within] at within
  rw [ofFunction_ids, source, target, mem_idRange, mem_idRange]
  omega

theorem ofFunction_triples (name : String) (body : List Statement) (stamp : Stamp) :
    (Graph.ofFunction name body stamp).triples =
      (functionArcs body 0 : Multiset Arc).map Arc.triple := by
  rw [Graph.ofFunction, ofPiece_triples, threadFunction_arcs]

-- The labels that are pending on the two empty sides give way to the label of the way back.
example : functionArcs [.whileLoop "p" [.branch "q" [] none .unknown] .unknown] 0 =
    [⟨0, 1, none⟩, ⟨1, 2, some .yes⟩, ⟨2, 1, some .again⟩, ⟨2, 1, some .again⟩,
      ⟨1, 3, some .no⟩] := by
  rfl

end ControlFlow
