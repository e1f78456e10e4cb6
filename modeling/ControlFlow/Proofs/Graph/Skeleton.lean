import ControlFlow.Proofs.Graph.Preorder
import ControlFlow.Proofs.Wire.Body

set_option autoImplicit false

namespace ControlFlow

inductive Skeleton where
  | leaf
  | branch (yes no : List Skeleton)
  | forLoop (body : List Skeleton)
  | whileLoop (body : List Skeleton)

mutual

-- What a nested function holds is not part of the skeleton around it.
def Statement.skeleton : Statement → Skeleton
  | .branch _ yes no _ => .branch (skeletons yes) (elseSkeletons no)
  | .forLoop _ _ _ body _ => .forLoop (skeletons body)
  | .whileLoop _ body _ => .whileLoop (skeletons body)
  | .function .. | .declaration .. | .ret .. | .expression .. | .unknown .. => .leaf

def skeletons : List Statement → List Skeleton
  | [] => []
  | statement :: rest => statement.skeleton :: skeletons rest

def elseSkeletons : Option (List Statement) → List Skeleton
  | none => []
  | some body => skeletons body

end

def BodyItem.skeleton : BodyItem → Skeleton
  | .loaded statement => statement.skeleton
  | .foreign _ => .leaf

theorem skeletons_eq_map (block : List Statement) :
    skeletons block = block.map Statement.skeleton := by
  induction block with
  | nil => rfl
  | cons statement rest ih => rw [skeletons, ih, List.map_cons]

theorem elseSkeletons_eq (side : Option (List Statement)) :
    elseSkeletons side = skeletons (side.getD []) := by
  cases side <;> rfl

theorem skeletons_items (items : List BodyItem) :
    skeletons (items.map BodyItem.statement) = items.map BodyItem.skeleton := by
  rw [skeletons_eq_map, List.map_map]
  apply List.map_congr_left
  intro item _
  cases item <;> rfl

section

variable {left right : Statement} (same : left.skeleton = right.skeleton)

include same

theorem leaf_of_skeleton (flow : left.flow = .leaf) : right.flow = .leaf := by
  cases left <;> simp only [Statement.flow, reduceCtorEq] at flow <;>
    cases right <;> simp_all [Statement.skeleton, Statement.flow]

theorem branch_of_skeleton {yes no : List Statement} (flow : left.flow = .branch yes no) :
    ∃ otherYes otherNo, right.flow = .branch otherYes otherNo ∧
      skeletons yes = skeletons otherYes ∧ skeletons no = skeletons otherNo := by
  cases left <;> simp only [Statement.flow, Flow.branch.injEq, reduceCtorEq] at flow
  obtain ⟨rfl, rfl⟩ := flow
  cases right <;> simp only [Statement.skeleton, reduceCtorEq, Skeleton.branch.injEq,
    elseSkeletons_eq] at same
  exact ⟨_, _, rfl, same⟩

theorem loop_of_skeleton {inward outward : Label} {body : List Statement}
    (flow : left.flow = .loop inward outward body) :
    ∃ other, right.flow = .loop inward outward other ∧ skeletons body = skeletons other := by
  cases left <;> simp only [Statement.flow, Flow.loop.injEq, reduceCtorEq] at flow
  all_goals
    obtain ⟨rfl, rfl, rfl⟩ := flow
    cases right <;> simp only [Statement.skeleton, reduceCtorEq, Skeleton.forLoop.injEq,
      Skeleton.whileLoop.injEq] at same
    exact ⟨_, rfl, same⟩

end

def Node.control? (node : Node) : Option (String × List (String × List String)) :=
  match node.form with
  | .control _ branches _ => some (node.type, branches)
  | _ => none

structure Piece.Alike (left right : Piece) : Prop where
  ids : left.nodes.map Node.id = right.nodes.map Node.id
  controls : left.nodes.map Node.control? = right.nodes.map Node.control?
  arcs : left.arcs = right.arcs
  exits : left.exits = right.exits

theorem Piece.Alike.length {left right : Piece} (alike : left.Alike right) :
    left.nodes.length = right.nodes.length := by
  simpa using congrArg List.length alike.ids

theorem Piece.Alike.append {first second other next : Piece} (start : first.Alike other)
    (rest : second.Alike next) : (first.append second).Alike (other.append next) where
  ids := by simp [Piece.append, start.ids, rest.ids]
  controls := by simp [Piece.append, start.controls, rest.controls]
  arcs := by simp [Piece.append, start.arcs, rest.arcs]
  exits := rest.exits

theorem processPiece_alike (index : Nat) (frontier : List Exit) (type other label text : String)
    (details notes : Option String) (location place : Location)
    (diagnostics messages : List String) :
    (processPiece index frontier type label details location diagnostics).Alike
      (processPiece index frontier other text notes place messages) :=
  ⟨rfl, rfl, rfl, rfl⟩

theorem branchPiece_alike {yes no otherYes otherNo : Piece} (yesAlike : yes.Alike otherYes)
    (noAlike : no.Alike otherNo) (index : Nat) (frontier : List Exit) (condition other : String)
    (location place : Location) :
    (branchPiece index frontier condition location yes no).Alike
      (branchPiece index frontier other place otherYes otherNo) where
  ids := by simp [branchPiece, yesAlike.ids, noAlike.ids]
  controls := by
    simp [branchPiece, Node.control?, yesAlike.controls, noAlike.controls, yesAlike.length,
      noAlike.length]
  arcs := by simp [branchPiece, yesAlike.arcs, noAlike.arcs]
  exits := by simp [branchPiece, yesAlike.exits, noAlike.exits]

theorem loopPiece_alike {body other : Piece} (alike : body.Alike other) (index : Nat)
    (frontier : List Exit) (type : String) (condition test : Option String) (leaving : Label)
    (location place : Location) :
    (loopPiece index frontier type condition leaving location body).Alike
      (loopPiece index frontier type test leaving place other) where
  ids := by simp [loopPiece, alike.ids]
  controls := by simp [loopPiece, Node.control?, alike.controls, alike.length]
  arcs := by
    -- Whether there is a way back depends on the number of nodes only.
    have empty : body.nodes.isEmpty = other.nodes.isEmpty := by
      rw [Bool.eq_iff_iff, List.isEmpty_iff_length_eq_zero, List.isEmpty_iff_length_eq_zero,
        alike.length]
    simp only [loopPiece, alike.arcs, alike.exits, empty]
  exits := rfl

theorem functionPiece_alike {inner other : Piece} (alike : inner.Alike other)
    (name renamed : String) (index : Nat) :
    (functionPiece name index inner).Alike (functionPiece renamed index other) where
  ids := by simp [functionPiece, alike.ids, alike.length]
  controls := by simp [functionPiece, Node.control?, alike.controls]
  arcs := by simp [functionPiece, alike.arcs, alike.exits, alike.length]
  exits := rfl

-- The induction is on the left side; the right one is opened by the skeleton they share.
theorem thread_alike :
    (∀ left right : Statement, left.skeleton = right.skeleton → ∀ index frontier,
      (thread left index frontier).Alike (thread right index frontier)) ∧
    ∀ left right : List Statement, skeletons left = skeletons right → ∀ index frontier,
      (threadAll left index frontier).Alike (threadAll right index frontier) := by
  apply flow_induction
  · intro left flow right same index frontier
    obtain ⟨type, label, details, location, kinds, -, here⟩ := thread_leaf flow
    obtain ⟨other, text, notes, place, tags, -, there⟩ := thread_leaf (leaf_of_skeleton same flow)
    rw [here, there]
    exact processPiece_alike ..
  · intro left yes no flow yesAlike noAlike right same index frontier
    obtain ⟨otherYes, otherNo, opposite, sameYes, sameNo⟩ := branch_of_skeleton same flow
    obtain ⟨condition, location, here⟩ := thread_branch flow
    obtain ⟨other, place, there⟩ := thread_branch opposite
    have first := yesAlike otherYes sameYes (index + 1) [⟨index, some .yes⟩]
    rw [here, there, first.length]
    exact branchPiece_alike first (noAlike otherNo sameNo _ _) ..
  · intro left inward outward body flow alike right same index frontier
    obtain ⟨other, opposite, sameBody⟩ := loop_of_skeleton same flow
    obtain ⟨type, condition, location, rfl, here⟩ := thread_loop flow
    obtain ⟨type, test, place, rfl, there⟩ := thread_loop opposite
    rw [here, there]
    exact loopPiece_alike (alike other sameBody _ _) ..
  · intro right same index frontier
    cases right with
    | nil => exact ⟨rfl, rfl, rfl, rfl⟩
    | cons => simp [skeletons] at same
  · intro statement rest first others right same index frontier
    cases right with
    | nil => simp [skeletons] at same
    | cons other more =>
      simp only [skeletons, List.cons.injEq] at same
      have start := first other same.1 index frontier
      rw [threadAll_cons, threadAll_cons, start.length, start.exits]
      exact start.append (others more same.2 _ _)

/-- Two graphs with the same edges between nodes of the same ids, of which the same decide where
control goes, with the same branches. -/
structure Graph.WiredAlike (left right : Graph) : Prop where
  edges : left.edges = right.edges
  ids : left.nodes.map Node.id = right.nodes.map Node.id
  controls : left.nodes.map Node.control? = right.nodes.map Node.control?

theorem threadFunction_alike {left right : List Statement} (same : skeletons left = skeletons right)
    (name other : String) (index : Nat) :
    (threadFunction name left index).Alike (threadFunction other right index) :=
  functionPiece_alike (thread_alike.2 left right same _ _) name other index

theorem ofFunction_wiredAlike {left right : List Statement}
    (same : skeletons left = skeletons right) (name other : String) (stamp later : Stamp) :
    (Graph.ofFunction name left stamp).WiredAlike (Graph.ofFunction other right later) := by
  have alike := threadFunction_alike same name other 0
  exact ⟨congrArg edgesOf alike.arcs, alike.ids, alike.controls⟩

end ControlFlow
