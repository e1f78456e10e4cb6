import ControlFlow.Proofs.Graph.Place

set_option autoImplicit false

namespace ControlFlow

def Statement.reports : Statement → Nat → List String
  | .unknown tag _ _, index => [placeholderMessage (placeholderKind tag) index]
  | _, _ => []

theorem reports_of_inner {statement : Statement} (inner : statement.flow ≠ .leaf) (index : Nat) :
    statement.reports index = [] := by
  cases statement with
  | unknown => exact absurd rfl inner
  | _ => rfl

theorem thread_diagnostics :
    (∀ (statement : Statement) (index : Nat) (frontier : List Exit),
      (thread statement index frontier).diagnostics =
        (statement.places index).flatMap fun entry => entry.1.reports entry.2) ∧
    ∀ (block : List Statement) (index : Nat) (frontier : List Exit),
      (threadAll block index frontier).diagnostics =
        (blockPlaces block index).flatMap fun entry => entry.1.reports entry.2 := by
  apply flow_induction
  · intro statement flow index frontier
    rw [places_leaf flow]
    cases statement with
    | branch | forLoop | whileLoop => simp [Statement.flow] at flow
    | function | declaration | ret | expression | unknown =>
      simp [thread, Statement.handle, threading, placeholderPiece, processPiece,
        Statement.reports]
  · intro statement yes no flow yesReports noReports index frontier
    obtain ⟨condition, location, equation⟩ := thread_branch flow
    have silent : statement.reports index = [] := reports_of_inner (by simp [flow]) index
    rw [equation, places_branch flow, List.flatMap_cons, List.flatMap_append, silent,
      List.nil_append, ← yesReports _ [⟨index, some .yes⟩], ← noReports _ [⟨index, some .no⟩]]
    simp only [branchPiece, threadAll_nodes_length]
  · intro statement inward outward body flow bodyReports index frontier
    obtain ⟨type, condition, location, -, equation⟩ := thread_loop flow
    have silent : statement.reports index = [] := reports_of_inner (by simp [flow]) index
    rw [equation, places_loop flow, List.flatMap_cons, silent, List.nil_append,
      ← bodyReports _ [⟨index, some inward⟩]]
    rfl
  · intro index frontier
    rfl
  · intro statement rest first others index frontier
    rw [threadAll_cons, Piece.append, blockPlaces_cons, List.flatMap_append, first, others,
      thread_nodes_length]

theorem ofFunction_diagnostics (name : String) (body : List Statement) (stamp : Stamp) :
    (Graph.ofFunction name body stamp).diagnostics =
      (blockPlaces body 1).flatMap fun entry => entry.1.reports entry.2 :=
  thread_diagnostics.2 body 1 [⟨0, none⟩]

end ControlFlow
