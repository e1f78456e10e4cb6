import ControlFlow.Proofs.Graph.Contents
import ControlFlow.Proofs.Graph.Union
import ControlFlow.Source.Stmt.Lower

set_option autoImplicit false

namespace ControlFlow

def Statement.location : Statement → Location
  | .function _ _ _ _ location | .branch _ _ _ location | .forLoop _ _ _ _ location
  | .whileLoop _ _ location | .declaration _ _ _ location | .ret _ location
  | .expression _ location | .unknown _ _ location => location

def Statement.outline (statement : Statement) : String × Location :=
  ((statement.node 0).type, statement.location)

-- The type and the place of a node that stands for a statement.
def Node.outline (node : Node) : Option (String × Location) :=
  match node.form with
  | .process _ _ location | .control _ _ location => some (node.type, location)
  | _ => none

theorem blockPreorder_append (left right : List Statement) :
    blockPreorder (left ++ right) = blockPreorder left ++ blockPreorder right := by
  induction left with
  | nil => rfl
  | cons statement rest ih => simp [blockPreorder, ih]

namespace Source

mutual

/-- A statement and the statements in its blocks that are shown, in the order of the source. -/
def Stmt.visible : Stmt → List Stmt
  | .branch test body otherwise location =>
      .branch test body otherwise location :: (visibleAll body ++ visibleAll otherwise)
  | .forLoop isAsync target source body otherwise location =>
      .forLoop isAsync target source body otherwise location ::
        (visibleAll body ++ visibleAll otherwise)
  | .whileLoop test body otherwise location =>
      .whileLoop test body otherwise location :: (visibleAll body ++ visibleAll otherwise)
  | .withBlock isAsync items body location =>
      .withBlock isAsync items body location :: visibleAll body
  -- What handles exceptions is left out.
  | .tryBlock body handlers otherwise final location =>
      .tryBlock body handlers otherwise final location ::
        (visibleAll body ++ visibleAll otherwise ++ visibleAll final)
  | stmt => [stmt]

def visibleAll : List Stmt → List Stmt
  | [] => []
  | stmt :: rest => stmt.visible ++ visibleAll rest

end

def Stmt.outline (stmt : Stmt) : String × Location :=
  (match stmt with
    | .branch .. => "if"
    | .forLoop .. => "for"
    | .whileLoop .. => "while"
    | .assign .. | .annotate .. => "variable"
    | .ret .. => "return"
    | _ => "expression", stmt.location)

-- An `else` without statements is none.
theorem lower_branch (test : Expr) (body otherwise : List Stmt) (location : Location) :
    ∃ no, (Stmt.branch test body otherwise location).lower =
        [.branch test.shown (lowerAll body) no location] ∧
      no = if otherwise.isEmpty then none else some (lowerAll otherwise) := by
  cases otherwise <;> exact ⟨_, rfl, rfl⟩

mutual

theorem lower_outline (stmt : Stmt) :
    (blockPreorder stmt.lower).map Statement.outline = stmt.visible.map Stmt.outline := by
  cases stmt with
  | branch test body otherwise location =>
    obtain ⟨no, lowered, side⟩ := lower_branch test body otherwise location
    have flow : (Statement.branch test.shown (lowerAll body) no location).flow =
        .branch (lowerAll body) (lowerAll otherwise) := by
      cases otherwise <;> simp [Statement.flow, side, lowerAll]
    rw [lowered, Stmt.visible, blockPreorder, preorder_branch flow, blockPreorder, List.append_nil,
      List.map_cons, List.map_cons, List.map_append, List.map_append, lowerAll_outline body,
      lowerAll_outline otherwise]
    rfl
  | forLoop isAsync target source body otherwise location =>
    rw [Stmt.lower, Stmt.visible, blockPreorder, Statement.preorder, List.map_append, List.map_cons,
      List.map_cons, List.map_append, lowerAll_outline body, lowerAll_outline otherwise]
    rfl
  | whileLoop test body otherwise location =>
    rw [Stmt.lower, Stmt.visible, blockPreorder, Statement.preorder, List.map_append, List.map_cons,
      List.map_cons, List.map_append, lowerAll_outline body, lowerAll_outline otherwise]
    rfl
  | withBlock isAsync items body location =>
    rw [Stmt.visible, List.map_cons, ← lowerAll_outline body]
    rfl
  | tryBlock body handlers otherwise final location =>
    rw [Stmt.visible, List.map_cons, List.map_append, List.map_append, ← lowerAll_outline body,
      ← lowerAll_outline otherwise, ← lowerAll_outline final, ← List.map_append, ← List.map_append,
      ← blockPreorder_append, ← blockPreorder_append]
    rfl
  | function | classDef | tryGroup | matchBlock | assign | annotate | ret | expression | leaf => rfl

theorem lowerAll_outline (stmts : List Stmt) :
    (blockPreorder (lowerAll stmts)).map Statement.outline =
      (visibleAll stmts).map Stmt.outline := by
  cases stmts with
  | nil => rfl
  | cons stmt rest =>
    rw [lowerAll, visibleAll, blockPreorder_append, List.map_append, List.map_append,
      lower_outline stmt, lowerAll_outline rest]

end

end Source

end ControlFlow
