import ControlFlow.Graph.Build
import ControlFlow.Proofs.Graph.Flow
import ControlFlow.Proofs.Graph.Numbering

set_option autoImplicit false

namespace ControlFlow

def Node.Form.shift (amount : Nat) : Node.Form → Node.Form
  | .function name parameters bodyIds returnType location =>
      .function name parameters (bodyIds.map (addToNumber amount)) returnType location
  | .control condition branches location =>
      .control condition
        (branches.map fun branch => (branch.1, branch.2.map (addToNumber amount))) location
  | form => form

def Node.shift (amount : Nat) (node : Node) : Node :=
  ⟨addToNumber amount node.id, node.type, node.form.shift amount⟩

def Edge.shift (nodes edges : Nat) (edge : Edge) : Edge :=
  ⟨addToNumber edges edge.id, addToNumber nodes edge.source, addToNumber nodes edge.target,
    edge.label, edge.type⟩

def Exit.shift (amount : Nat) (exit : Exit) : Exit :=
  ⟨exit.node + amount, exit.label⟩

def Arc.shift (amount : Nat) (arc : Arc) : Arc :=
  ⟨arc.source + amount, arc.target + amount, arc.label⟩

def Piece.shift (amount : Nat) (piece : Piece) : Piece where
  nodes := piece.nodes.map (Node.shift amount)
  arcs := piece.arcs.map (Arc.shift amount)
  exits := piece.exits.map (Exit.shift amount)
  diagnostics := piece.diagnostics.map (addToNumber amount)

section

variable (amount : Nat)

theorem toEdge_shift (edges : Nat) (arc : Arc) (index : Nat) :
    (arc.toEdge index).shift amount edges = (arc.shift amount).toEdge (index + edges) := by
  simp [Arc.toEdge, Edge.shift, Arc.shift]

theorem edgesOf_shift (edges : Nat) (arcs : List Arc) :
    (edgesOf arcs).map (Edge.shift amount edges) =
      (arcs.map (Arc.shift amount)).mapIdx (fun index arc => arc.toEdge (index + edges)) := by
  apply List.ext_getElem
  · simp [edgesOf]
  · intro index _ _
    simp [edgesOf, toEdge_shift]

theorem exit_shift_injective : Function.Injective (Exit.shift amount) := by
  rintro ⟨node, label⟩ ⟨other, otherLabel⟩ same
  simp only [Exit.shift, Exit.mk.injEq] at same ⊢
  exact ⟨by omega, same.2⟩

theorem connect_shift (frontier : List Exit) (target : Nat) (label : Option Label) :
    connect (frontier.map (Exit.shift amount)) (target + amount) label =
      (connect frontier target label).map (Arc.shift amount) := by
  simp [connect, Exit.shift, Arc.shift]

theorem addExits_shift (merged rest : List Exit) :
    addExits (merged.map (Exit.shift amount)) (rest.map (Exit.shift amount)) =
      (addExits merged rest).map (Exit.shift amount) := by
  induction rest generalizing merged with
  | nil => rfl
  | cons exit rest ih =>
    have known : (merged.map (Exit.shift amount)).contains (exit.shift amount) =
        merged.contains exit := by
      rw [Bool.eq_iff_iff, List.contains_iff_mem, List.contains_iff_mem,
        List.mem_map_of_injective (exit_shift_injective amount)]
    rw [List.map_cons, addExits, addExits, known, ← ih]
    split
    · rfl
    · rw [List.map_append, List.map_singleton]

theorem mergeExits_shift (left right : List Exit) :
    mergeExits (left.map (Exit.shift amount)) (right.map (Exit.shift amount)) =
      (mergeExits left right).map (Exit.shift amount) := by
  have first := addExits_shift amount [] left
  rw [List.map_nil] at first
  rw [mergeExits, first, addExits_shift, mergeExits]

theorem processPiece_shift (index : Nat) (frontier : List Exit) (type label : String)
    (details : Option String) (location : Location) (kinds : List String) :
    processPiece (index + amount) (frontier.map (Exit.shift amount)) type label details location
        (kinds.map (placeholderMessage · (index + amount))) =
      (processPiece index frontier type label details location
        (kinds.map (placeholderMessage · index))).shift amount := by
  simp [processPiece, Piece.shift, Node.shift, Node.Form.shift, Exit.shift, connect_shift]

theorem branchPiece_shift (index : Nat) (frontier : List Exit) (condition : String)
    (location : Location) (yes no : Piece) :
    branchPiece (index + amount) (frontier.map (Exit.shift amount)) condition location
        (yes.shift amount) (no.shift amount) =
      (branchPiece index frontier condition location yes no).shift amount := by
  simp [branchPiece, Piece.shift, Node.shift, Node.Form.shift, connect_shift, mergeExits_shift,
    map_addToNumber_idRange, Nat.add_assoc, Nat.add_comm amount]

theorem loopPiece_shift (index : Nat) (frontier : List Exit) (type : String)
    (condition : Option String) (leaving : Label) (location : Location) (body : Piece) :
    loopPiece (index + amount) (frontier.map (Exit.shift amount)) type condition leaving location
        (body.shift amount) =
      (loopPiece index frontier type condition leaving location body).shift amount := by
  -- Whether there is a way back depends on the nodes, which are as many as before.
  by_cases empty : body.nodes = [] <;>
    simp [loopPiece, Piece.shift, Node.shift, Node.Form.shift, Exit.shift, connect_shift, empty,
      map_addToNumber_idRange, Nat.add_right_comm index amount 1]

theorem append_shift (first second : Piece) :
    (first.append second).shift amount = (first.shift amount).append (second.shift amount) := by
  simp [Piece.append, Piece.shift]

theorem thread_shift :
    (∀ (statement : Statement) (index : Nat) (frontier : List Exit),
      thread statement (index + amount) (frontier.map (Exit.shift amount)) =
        (thread statement index frontier).shift amount) ∧
    ∀ (block : List Statement) (index : Nat) (frontier : List Exit),
      threadAll block (index + amount) (frontier.map (Exit.shift amount)) =
        (threadAll block index frontier).shift amount := by
  apply flow_induction
  · intro statement flow index frontier
    obtain ⟨type, label, details, location, kinds, -, equation⟩ := thread_leaf flow
    rw [equation, equation, processPiece_shift]
  · intro statement yes no flow yesShift noShift index frontier
    obtain ⟨condition, location, equation⟩ := thread_branch flow
    have yesHere := yesShift (index + 1) [⟨index, some .yes⟩]
    have noHere := noShift (index + 1 + nodeCounts yes) [⟨index, some .no⟩]
    rw [equation, equation, ← branchPiece_shift]
    simp only [threadAll_nodes_length, ← yesHere, ← noHere]
    simp only [List.map_singleton, Exit.shift, Nat.add_right_comm _ amount]
  · intro statement inward outward body flow bodyShift index frontier
    obtain ⟨type, condition, location, -, equation⟩ := thread_loop flow
    have inside := bodyShift (index + 1) [⟨index, some inward⟩]
    rw [equation, equation, ← loopPiece_shift, ← inside, Nat.add_right_comm index amount]
    rfl
  · intro index frontier
    rfl
  · intro statement rest first others index frontier
    have count : ((thread statement index frontier).shift amount).nodes.length =
        statement.nodeCount := by
      simp [Piece.shift]
    have later := others (index + statement.nodeCount) (thread statement index frontier).exits
    rw [Nat.add_right_comm] at later
    simp only [threadAll_cons, thread_nodes_length, append_shift, ← later, first, count]
    rfl

theorem threadFunction_shift (name : String) (body : List Statement) (index : Nat) :
    threadFunction name body (index + amount) = (threadFunction name body index).shift amount := by
  have inside := (thread_shift amount).2 body (index + 1) [⟨index, none⟩]
  rw [List.map_singleton, Exit.shift] at inside
  simp [threadFunction, functionPiece, inside, Piece.shift, Node.shift, Node.Form.shift,
    ← connect_shift, Nat.add_right_comm _ amount]

end

end ControlFlow
