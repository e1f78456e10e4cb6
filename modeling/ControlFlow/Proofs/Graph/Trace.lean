import ControlFlow.Proofs.Graph.Successor
import ControlFlow.Proofs.Walk

set_option autoImplicit false

namespace ControlFlow

open scoped Computability

/-- A loop passes through its header and then any number of times through its body and its header
again; an empty body is never passed through. -/
def loopTraces (index : Nat) (body : List Statement) (inner : Language Nat) : Language Nat :=
  if body.isEmpty then {[index]} else {[index]} * (inner * {[index]})∗

mutual

def Statement.traces : Statement → Nat → Language Nat
  | .branch _ yes none _, index => {[index]} * (blockTraces yes (index + 1) + 1)
  | .branch _ yes (some no) _, index =>
      {[index]} * (blockTraces yes (index + 1) + blockTraces no (index + 1 + nodeCounts yes))
  | .forLoop _ _ _ body _, index => loopTraces index body (blockTraces body (index + 1))
  | .whileLoop _ body _, index => loopTraces index body (blockTraces body (index + 1))
  | _, index => {[index]}

def blockTraces : List Statement → Nat → Language Nat
  | [], _ => 1
  | statement :: rest, index =>
      statement.traces index * blockTraces rest (index + statement.nodeCount)

end

theorem traces_leaf {statement : Statement} (flow : statement.flow = .leaf) (index : Nat) :
    statement.traces index = {[index]} := by
  cases statement <;> simp_all [Statement.flow, Statement.traces]

theorem traces_branch {statement : Statement} {yes no : List Statement}
    (flow : statement.flow = .branch yes no) (index : Nat) :
    statement.traces index =
      {[index]} * (blockTraces yes (index + 1) + blockTraces no (index + 1 + nodeCounts yes)) := by
  cases statement <;> simp only [Statement.flow, Flow.branch.injEq, reduceCtorEq] at flow
  obtain ⟨rfl, rfl⟩ := flow
  rename_i side location
  cases side <;> simp [Statement.traces, blockTraces]

theorem traces_loop {statement : Statement} {inward outward : Label} {body : List Statement}
    (flow : statement.flow = .loop inward outward body) (index : Nat) :
    statement.traces index = loopTraces index body (blockTraces body (index + 1)) := by
  cases statement <;> simp only [Statement.flow, Flow.loop.injEq, reduceCtorEq] at flow
  all_goals
    obtain ⟨rfl, rfl, rfl⟩ := flow
    rw [Statement.traces]

-- Among all arcs, `part` holds those that leave `count` nodes from `first` on.
def Owns (all : List Arc) (first count : Nat) (part : List Arc) : Prop :=
  ∀ arc : Arc, first ≤ arc.source → arc.source < first + count → (arc ∈ all ↔ arc ∈ part)

theorem Owns.congr {all part same : List Arc} {first count : Nat} (owns : Owns all first count part)
    (equal : ∀ arc, arc ∈ part ↔ arc ∈ same) : Owns all first count same := by
  intro arc above below
  rw [owns arc above below, equal]

theorem Owns.append {all left right : List Arc} {first leftCount rightCount : Nat}
    (owns : Owns all first (leftCount + rightCount) (left ++ right))
    (inLeft : ∀ arc ∈ left, arc.source < first + leftCount)
    (inRight : ∀ arc ∈ right, first + leftCount ≤ arc.source) :
    Owns all first leftCount left ∧ Owns all (first + leftCount) rightCount right := by
  constructor
  · intro arc above below
    rw [owns arc above (by omega), List.mem_append, or_iff_left]
    intro later
    have := inRight arc later
    omega
  · intro arc above below
    rw [owns arc (by omega) (by omega), List.mem_append, or_iff_right]
    intro earlier
    have := inLeft arc earlier
    omega

-- A branch or a loop: the two arcs out of its own node, and those of the nodes it holds.
theorem Owns.container {all arcs : List Arc} {index count : Nat} (left right : Arc)
    (inner : List Arc) (owns : Owns all index (1 + count) arcs)
    (fromLeft : left.source = index) (fromRight : right.source = index)
    (inside : ∀ arc ∈ inner, index + 1 ≤ arc.source)
    (parts : ∀ arc, arc ∈ arcs ↔ arc = left ∨ arc = right ∨ arc ∈ inner) :
    Owns all index 1 [left, right] ∧ Owns all (index + 1) count inner := by
  have sorted : Owns all index (1 + count) ([left, right] ++ inner) := by
    apply owns.congr
    intro arc
    rw [parts, List.mem_append, List.mem_pair, or_assoc]
  apply sorted.append
  · intro arc member
    rcases List.mem_pair.mp member with rfl | rfl <;> omega
  · exact inside

theorem walks_of_owns {all : List Arc} {index finish : Nat} (left right : Arc)
    (owns : Owns all index 1 [left, right]) (fromLeft : left.source = index)
    (fromRight : right.source = index) (differ : index ≠ finish) :
    walks (Joined all) index finish =
      {[index]} * (walks (Joined all) left.target finish +
        walks (Joined all) right.target finish) := by
  have leaving (arc : Arc) (source : arc.source = index) :
      arc ∈ all ↔ arc = left ∨ arc = right := by
    rw [owns arc (by omega) (by omega), List.mem_pair]
  apply walks_step differ
  intro next
  constructor
  · rintro ⟨arc, member, source, rfl⟩
    rcases (leaving arc source).mp member with rfl | rfl
    · exact .inl rfl
    · exact .inr rfl
  · rintro (rfl | rfl)
    · exact ⟨left, (leaving left fromLeft).mpr (.inl rfl), fromLeft, rfl⟩
    · exact ⟨right, (leaving right fromRight).mpr (.inr rfl), fromRight, rfl⟩

theorem walks_of_owns_single {all : List Arc} {index finish : Nat} (arc : Arc)
    (owns : Owns all index 1 [arc]) (source : arc.source = index) (differ : index ≠ finish) :
    walks (Joined all) index finish = {[index]} * walks (Joined all) arc.target finish := by
  have twice : Owns all index 1 [arc, arc] := owns.congr (by simp)
  rw [walks_of_owns arc arc twice source source differ, Language.add_self]

theorem walks_traces (all : List Arc) (finish : Nat) :
    (∀ (statement : Statement) (index : Nat) (next : Continuation),
      Owns all index statement.nodeCount (statement.arcs index next) →
      index + statement.nodeCount ≤ finish →
      walks (Joined all) index finish =
        statement.traces index * walks (Joined all) next.target finish) ∧
    ∀ (block : List Statement) (index : Nat) (next : Continuation),
      Owns all index (nodeCounts block) (blockArcs block index next) →
      index + nodeCounts block ≤ finish →
      walks (Joined all) (next.before block index).target finish =
        blockTraces block index * walks (Joined all) next.target finish := by
  apply flow_induction
  · intro statement flow index next owns bound
    rw [nodeCount_leaf flow] at owns bound
    rw [arcs_leaf flow] at owns
    rw [traces_leaf flow]
    exact walks_of_owns_single (next.arc index none) owns rfl (by omega)
  · intro statement yes no flow yesWalks noWalks index next owns bound
    rw [nodeCount_branch flow, Nat.add_assoc] at owns bound
    rw [arcs_branch flow] at owns
    obtain ⟨head, sides⟩ := owns.container
      ((next.before yes (index + 1)).arc index (some .yes))
      ((next.before no (index + 1 + nodeCounts yes)).arc index (some .no))
      (blockArcs yes (index + 1) next ++ blockArcs no (index + 1 + nodeCounts yes) next) rfl rfl
      (by
        intro arc member
        rcases List.mem_append.mp member with inYes | inNo
        · exact (arcs_within.2 _ _ _ arc inYes).1.1
        · have := (arcs_within.2 _ _ _ arc inNo).1.1
          omega)
      (by
        intro arc
        simp only [List.mem_append, List.mem_cons]
        tauto)
    obtain ⟨yesOwns, noOwns⟩ := sides.append (fun arc inYes => (arcs_within.2 _ _ _ arc inYes).1.2)
      (fun arc inNo => (arcs_within.2 _ _ _ arc inNo).1.1)
    rw [walks_of_owns _ _ head rfl rfl (by omega), traces_branch flow, mul_assoc, add_mul,
      ← yesWalks (index + 1) next yesOwns (by omega),
      ← noWalks (index + 1 + nodeCounts yes) next noOwns (by omega)]
    rfl
  · intro statement inward outward body flow bodyWalks index next owns bound
    rw [nodeCount_loop flow] at owns bound
    rw [arcs_loop flow] at owns
    rw [traces_loop flow, loopTraces]
    by_cases empty : body = []
    · subst empty
      exact walks_of_owns_single (next.arc index (some outward)) owns rfl (by omega)
    · have solid : body.isEmpty = false := by simpa using empty
      rw [loopArcs_of_ne_nil _ _ _ empty] at owns
      simp only [solid, Bool.false_eq_true, if_false]
      obtain ⟨head, inside⟩ := owns.container ⟨index, index + 1, some inward⟩
        (next.arc index (some outward)) (blockArcs body (index + 1) (.back index)) rfl rfl
        (fun arc inBody => (arcs_within.2 _ _ _ arc inBody).1.1)
        (by
          intro arc
          simp only [List.mem_append, List.mem_cons, List.not_mem_nil]
          tauto)
      have round : walks (Joined all) (index + 1) finish =
          blockTraces body (index + 1) * walks (Joined all) index finish := by
        have inner := bodyWalks (index + 1) (.back index) inside (by omega)
        rwa [Continuation.before_of_ne_nil _ _ empty] at inner
      -- The walks from the header are given in terms of themselves: every round ends there again.
      apply loop_language
      rw [← round]
      exact walks_of_owns _ _ head rfl rfl (by omega)
  · intro index next _ _
    rw [Continuation.before_nil, blockTraces, one_mul]
  · intro statement rest first others index next owns bound
    rw [nodeCounts] at owns bound
    rw [blockArcs] at owns
    obtain ⟨here, later⟩ := owns.append (fun arc inFirst => (arcs_within.1 _ _ _ arc inFirst).1.2)
      (fun arc inRest => (arcs_within.2 _ _ _ arc inRest).1.1)
    rw [blockTraces, mul_assoc, ← others _ _ later (by omega), ← first _ _ here (by omega)]
    rfl

theorem function_walks (body : List Statement) (index : Nat) :
    walks (Joined (functionArcs body index)) index (index + 1 + nodeCounts body) =
      {[index]} * blockTraces body (index + 1) * {[index + 1 + nodeCounts body]} := by
  let finish : Continuation := ⟨index + 1 + nodeCounts body, none⟩
  have inside : ∀ arc ∈ blockArcs body (index + 1) finish, index + 1 ≤ arc.source :=
    fun arc member => (arcs_within.2 _ _ _ arc member).1.1
  have whole : Owns (functionArcs body index) index (1 + nodeCounts body)
      ([(finish.before body (index + 1)).arc index none] ++ blockArcs body (index + 1) finish) :=
    fun arc _ _ => Iff.rfl
  obtain ⟨head, rest⟩ := whole.append
    (by
      intro arc member
      rw [List.mem_singleton.mp member]
      exact Nat.lt_succ_self index)
    inside
  have last : ∀ next, ¬ Joined (functionArcs body index) finish.target next := by
    rintro next ⟨arc, member, source, -⟩
    have within := (functionArcs_within body index arc member).1
    simp only [finish] at source
    omega
  rw [walks_of_owns_single _ head rfl (by omega), mul_assoc]
  congr 1
  rw [← walks_end last]
  exact (walks_traces _ _).2 body (index + 1) finish rest (Nat.le_refl _)

def Graph.Linked (graph : Graph) (source target : String) : Prop :=
  ∃ edge ∈ graph.edges, edge.source = source ∧ edge.target = target

def Graph.walks (graph : Graph) (source target : String) : Language String :=
  ControlFlow.walks graph.Linked source target

theorem linked_ofPiece (stamp : Stamp) (entry : Option String) (piece : Piece)
    (source target : String) :
    (Graph.ofPiece stamp entry piece).Linked source target ↔
      ∃ a b, nodeId a = source ∧ nodeId b = target ∧ Joined piece.arcs a b := by
  have member : (Graph.ofPiece stamp entry piece).Linked source target ↔
      (source, target) ∈ (edgesOf piece.arcs).map (fun edge => (edge.source, edge.target)) := by
    simp [Graph.Linked, Graph.ofPiece]
  rw [member, edgesOf_ends, List.mem_map]
  constructor
  · rintro ⟨arc, present, same⟩
    obtain ⟨rfl, rfl⟩ := Prod.mk.inj same
    exact ⟨arc.source, arc.target, rfl, rfl, arc, present, rfl, rfl⟩
  · rintro ⟨_, _, rfl, rfl, arc, present, rfl, rfl⟩
    exact ⟨arc, present, rfl⟩

theorem ofFunction_walks (name : String) (body : List Statement) (stamp : Stamp) :
    (Graph.ofFunction name body stamp).nodesOfType ["start"] = [startNode name 0] ∧
    (Graph.ofFunction name body stamp).nodesOfType ["end"] = [endNode name (nodeCounts body + 1)] ∧
    (Graph.ofFunction name body stamp).walks (nodeId 0) (nodeId (nodeCounts body + 1)) =
      Language.map nodeId ({[0]} * blockTraces body 1 * {[nodeCounts body + 1]}) := by
  refine ⟨?_, ?_, ?_⟩
  · rw [nodesOfType_singleton]
    exact threadFunction_starts name body 0
  · rw [nodesOfType_singleton, Nat.add_comm, ← Nat.zero_add 1]
    exact threadFunction_ends name body 0
  · have onArcs := function_walks body 0
    rw [Nat.zero_add, Nat.add_comm 1] at onArcs
    rw [← onArcs, Graph.walks]
    apply walks_map nodeId_injective
    intro source target
    rw [Graph.ofFunction, linked_ofPiece, joined_threadFunction]

end ControlFlow
