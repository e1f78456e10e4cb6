import ControlFlow.Proofs.Graph.Layout

set_option autoImplicit false

namespace ControlFlow

mutual

/-- A statement and the statements it holds. Nested functions and unknown statements hold nothing
that takes part in the flow. -/
def Statement.preorder : Statement → List Statement
  | .branch condition yes none location =>
      .branch condition yes none location :: blockPreorder yes
  | .branch condition yes (some no) location =>
      .branch condition yes (some no) location :: (blockPreorder yes ++ blockPreorder no)
  | .forLoop initializer condition incrementor body location =>
      .forLoop initializer condition incrementor body location :: blockPreorder body
  | .whileLoop condition body location =>
      .whileLoop condition body location :: blockPreorder body
  | statement => [statement]

def blockPreorder : List Statement → List Statement
  | [] => []
  | statement :: rest => statement.preorder ++ blockPreorder rest

end

theorem preorder_leaf {statement : Statement} (flow : statement.flow = .leaf) :
    statement.preorder = [statement] := by
  cases statement <;> simp_all [Statement.flow, Statement.preorder]

theorem preorder_branch {statement : Statement} {yes no : List Statement}
    (flow : statement.flow = .branch yes no) :
    statement.preorder = statement :: (blockPreorder yes ++ blockPreorder no) := by
  cases statement <;> simp only [Statement.flow, Flow.branch.injEq, reduceCtorEq] at flow
  obtain ⟨rfl, rfl⟩ := flow
  rename_i side location
  cases side <;> simp [Statement.preorder, blockPreorder]

theorem preorder_loop {statement : Statement} {inward outward : Label} {body : List Statement}
    (flow : statement.flow = .loop inward outward body) :
    statement.preorder = statement :: blockPreorder body := by
  cases statement <;> simp_all [Statement.flow, Statement.preorder]

theorem preorder_length :
    (∀ statement : Statement, statement.preorder.length = statement.nodeCount) ∧
    ∀ block : List Statement, (blockPreorder block).length = nodeCounts block := by
  apply flow_induction
  · intro statement flow
    rw [preorder_leaf flow, nodeCount_leaf flow, List.length_singleton]
  · intro statement yes no flow yesLength noLength
    rw [preorder_branch flow, nodeCount_branch flow, List.length_cons, List.length_append,
      yesLength, noLength]
    omega
  · intro statement inward outward body flow bodyLength
    rw [preorder_loop flow, nodeCount_loop flow, List.length_cons, bodyLength]
    omega
  · rfl
  · intro statement rest first others
    rw [blockPreorder, nodeCounts, List.length_append, first, others]

@[simp] theorem statement_preorder_length (statement : Statement) :
    statement.preorder.length = statement.nodeCount :=
  preorder_length.1 statement

@[simp] theorem blockPreorder_length (block : List Statement) :
    (blockPreorder block).length = nodeCounts block :=
  preorder_length.2 block

def branchIds (first : Nat) (block : List Statement) : List String :=
  idRange first (blockPreorder block).length

/-- The node of a statement with a number. The branches of a container list the numbers that follow
its own, as many as there are statements in each. -/
def Statement.node : Statement → Nat → Node
  | .branch condition yes no location, index =>
      ⟨nodeId index, "if",
        .control (some condition)
          [("then", branchIds (index + 1) yes),
           ("else", branchIds (index + 1 + (blockPreorder yes).length) (no.getD []))] location⟩
  | .forLoop _ condition _ body location, index =>
      ⟨nodeId index, "for", .control condition [("body", branchIds (index + 1) body)] location⟩
  | .whileLoop condition body location, index =>
      ⟨nodeId index, "while",
        .control (some condition) [("body", branchIds (index + 1) body)] location⟩
  | .declaration name type initializer location, index =>
      let text := initializer.getD ""
      ⟨nodeId index, "variable",
        .process (if text = "" then name else name ++ " = " ++ text) type location⟩
  | .ret value location, index =>
      let text := value.getD ""
      ⟨nodeId index, "return",
        .process (if text = "" then "return" else "return " ++ text) none location⟩
  | .expression text location, index =>
      ⟨nodeId index, "expression", .process text none location⟩
  | .function name parameters _ _ location, index =>
      ⟨nodeId index, "expression",
        .process
          ("function " ++ name ++ "(" ++ ", ".intercalate (parameters.map Parameter.render) ++ ")")
          none location⟩
  | .unknown tag _ location, index =>
      ⟨nodeId index, "expression",
        .process ("<" ++ (if tag = "" then "UnknownStatement" else tag) ++ ">")
          (some "unsupported") location⟩

def Node.branches (node : Node) : List (String × List String) :=
  match node.form with
  | .control _ branches _ => branches
  | _ => []

@[simp] theorem node_id (statement : Statement) (index : Nat) :
    (statement.node index).id = nodeId index := by
  cases statement <;> rfl

theorem node_leaf {statement : Statement} (flow : statement.flow = .leaf) (index : Nat) :
    (statement.node index).type ∈ ["variable", "return", "expression"] ∧
      (statement.node index).branches = [] := by
  cases statement <;> simp_all [Statement.flow, Statement.node, Node.branches]

theorem node_branch {statement : Statement} {yes no : List Statement}
    (flow : statement.flow = .branch yes no) (index : Nat) :
    (statement.node index).type = "if" ∧
      (statement.node index).branches =
        [("then", idRange (index + 1) (nodeCounts yes)),
         ("else", idRange (index + 1 + nodeCounts yes) (nodeCounts no))] := by
  cases statement <;> simp only [Statement.flow, Flow.branch.injEq, reduceCtorEq] at flow
  obtain ⟨rfl, rfl⟩ := flow
  simp [Statement.node, Node.branches, branchIds]

theorem node_loop {statement : Statement} {inward outward : Label} {body : List Statement}
    (flow : statement.flow = .loop inward outward body) (index : Nat) :
    ((statement.node index).type = "for" ∧ inward = .enter ∨
        (statement.node index).type = "while" ∧ inward = .yes) ∧
      (statement.node index).branches = [("body", idRange (index + 1) (nodeCounts body))] := by
  cases statement <;> simp only [Statement.flow, Flow.loop.injEq, reduceCtorEq] at flow
  all_goals
    obtain ⟨rfl, rfl, rfl⟩ := flow
    simp [Statement.node, Node.branches, branchIds]

def Statement.isBranch (statement : Statement) : Bool :=
  match statement.flow with
  | .branch _ _ => true
  | _ => false

def Statement.isLoop (statement : Statement) : Bool :=
  match statement.flow with
  | .loop _ _ _ => true
  | _ => false

theorem node_type_branch (statement : Statement) (index : Nat) :
    (statement.node index).type = "if" ↔ statement.isBranch := by
  cases statement <;> simp [Statement.node, Statement.isBranch, Statement.flow]

theorem node_type_loop (statement : Statement) (index : Nat) :
    (statement.node index).type ∈ ["for", "while"] ↔ statement.isLoop := by
  cases statement <;> simp [Statement.node, Statement.isLoop, Statement.flow]

theorem loop_of_isLoop {statement : Statement} (loop : statement.isLoop) :
    ∃ inward outward body, statement.flow = .loop inward outward body := by
  cases flow : statement.flow with
  | leaf | branch => simp [Statement.isLoop, flow] at loop
  | loop inward outward body => exact ⟨inward, outward, body, rfl⟩

def nodesFrom (first : Nat) (statements : List Statement) : List Node :=
  (statements.zipIdx first).map fun entry => entry.1.node entry.2

theorem nodesFrom_cons (first : Nat) (statement : Statement) (rest : List Statement) :
    nodesFrom first (statement :: rest) = statement.node first :: nodesFrom (first + 1) rest := by
  rw [nodesFrom, List.zipIdx_cons, List.map_cons]
  rfl

theorem nodesFrom_append (first : Nat) (left right : List Statement) :
    nodesFrom first (left ++ right) =
      nodesFrom first left ++ nodesFrom (first + left.length) right := by
  rw [nodesFrom, List.zipIdx_append, List.map_append]
  rfl

theorem shownPart_eq (text : Option String) :
    shownPart text = if text.getD "" = "" then none else some (text.getD "") := by
  cases text with
  | none => rfl
  | some text => by_cases empty : text = "" <;> simp [shownPart, Option.filter, empty]

theorem thread_node_leaf {statement : Statement} (flow : statement.flow = .leaf) (index : Nat)
    (frontier : List Exit) :
    (thread statement index frontier).nodes = [statement.node index] := by
  cases statement with
  | branch | forLoop | whileLoop => simp [Statement.flow] at flow
  | function | expression =>
    rw [thread, Statement.handle]
    rfl
  | declaration name type initializer location =>
    by_cases empty : initializer.getD "" = "" <;>
      simp [thread, Statement.handle, threading, processPiece, Statement.node, variableLabel,
        shownPart_eq, empty]
  | ret value location =>
    by_cases empty : value.getD "" = "" <;>
      simp [thread, Statement.handle, threading, processPiece, Statement.node, returnLabel,
        shownPart_eq, empty]
  | unknown tag raw location =>
    simp [thread, Statement.handle, threading, placeholderPiece, processPiece, Statement.node,
      placeholderKind]

theorem thread_node_branch {statement : Statement} {yes no : List Statement}
    (flow : statement.flow = .branch yes no) (index : Nat) (frontier : List Exit) :
    (thread statement index frontier).nodes =
      statement.node index ::
        ((threadAll yes (index + 1) [⟨index, some .yes⟩]).nodes ++
          (threadAll no (index + 1 + nodeCounts yes) [⟨index, some .no⟩]).nodes) := by
  cases statement <;> simp only [Statement.flow, Flow.branch.injEq, reduceCtorEq] at flow
  obtain ⟨rfl, rfl⟩ := flow
  rename_i condition yes no location
  let yesPiece := threadAll yes (index + 1) [⟨index, some .yes⟩]
  rw [thread, Statement.handle, handleElse_eq]
  change (branchPiece index frontier condition location yesPiece
    (threadAll (no.getD []) (index + 1 + yesPiece.nodes.length) [⟨index, some .no⟩])).nodes = _
  simp [yesPiece, branchPiece, Statement.node, branchIds]

theorem thread_node_loop {statement : Statement} {inward outward : Label} {body : List Statement}
    (flow : statement.flow = .loop inward outward body) (index : Nat) (frontier : List Exit) :
    (thread statement index frontier).nodes =
      statement.node index :: (threadAll body (index + 1) [⟨index, some inward⟩]).nodes := by
  cases statement <;> simp only [Statement.flow, Flow.loop.injEq, reduceCtorEq] at flow
  all_goals
    obtain ⟨rfl, rfl, rfl⟩ := flow
    rw [thread, Statement.handle]
    change (loopPiece index frontier _ _ _ _ (threadAll _ (index + 1) _)).nodes = _
    simp [loopPiece, Statement.node, branchIds]

theorem thread_preorder :
    (∀ (statement : Statement) (index : Nat) (frontier : List Exit),
      (thread statement index frontier).nodes = nodesFrom index statement.preorder) ∧
    ∀ (block : List Statement) (index : Nat) (frontier : List Exit),
      (threadAll block index frontier).nodes = nodesFrom index (blockPreorder block) := by
  apply flow_induction
  · intro statement flow index frontier
    rw [thread_node_leaf flow, preorder_leaf flow]
    rfl
  · intro statement yes no flow yesNodes noNodes index frontier
    rw [thread_node_branch flow, yesNodes, noNodes, preorder_branch flow, nodesFrom_cons,
      nodesFrom_append, blockPreorder_length]
  · intro statement inward outward body flow bodyNodes index frontier
    rw [thread_node_loop flow, bodyNodes, preorder_loop flow, nodesFrom_cons]
  · intro index frontier
    rfl
  · intro statement rest first others index frontier
    rw [threadAll_cons, Piece.append, thread_nodes_length, first, others, blockPreorder,
      nodesFrom_append, statement_preorder_length]

theorem threadFunction_preorder (name : String) (body : List Statement) (index : Nat) :
    (threadFunction name body index).nodes =
      startNode name index :: (nodesFrom (index + 1) (blockPreorder body) ++
        [endNode name (index + 1 + (blockPreorder body).length)]) := by
  rw [threadFunction_nodes, thread_preorder.2, blockPreorder_length]

end ControlFlow
