import ControlFlow.Proofs.Graph.Contents
import ControlFlow.Proofs.Graph.Diagnostics
import ControlFlow.Proofs.Wire.Body

set_option autoImplicit false

namespace ControlFlow

def Node.details (node : Node) : Option String :=
  match node.form with
  | .process _ details _ => details
  | _ => none

def Node.isPlaceholder (node : Node) : Bool :=
  node.type == "expression" && node.details == some "unsupported"

def Node.kind (node : Node) : String :=
  String.ofList node.label.toList.tail.dropLast

def Node.report (node : Node) : String :=
  "unsupported statement '" ++ node.kind ++ "' replaced by placeholder " ++ node.id

mutual

-- How many statements are not supported. What a nested function holds does not count.
def Statement.unsupported : Statement → Nat
  | .unknown .. => 1
  | .branch _ yes no _ => unsupportedIn yes + unsupportedElse no
  | .forLoop _ _ _ body _ => unsupportedIn body
  | .whileLoop _ body _ => unsupportedIn body
  | .function .. | .declaration .. | .ret .. | .expression .. => 0

def unsupportedIn : List Statement → Nat
  | [] => 0
  | statement :: rest => statement.unsupported + unsupportedIn rest

def unsupportedElse : Option (List Statement) → Nat
  | none => 0
  | some body => unsupportedIn body

end

def BodyItem.unsupported : BodyItem → Nat
  | .loaded statement => statement.unsupported
  | .foreign _ => 1

theorem unsupported_branch {statement : Statement} {yes no : List Statement}
    (flow : statement.flow = .branch yes no) :
    statement.unsupported = unsupportedIn yes + unsupportedIn no := by
  cases statement <;> simp only [Statement.flow, Flow.branch.injEq, reduceCtorEq] at flow
  obtain ⟨rfl, rfl⟩ := flow
  rename_i side location
  cases side <;> simp [Statement.unsupported, unsupportedElse, unsupportedIn]

theorem unsupported_loop {statement : Statement} {inward outward : Label} {body : List Statement}
    (flow : statement.flow = .loop inward outward body) :
    statement.unsupported = unsupportedIn body := by
  cases statement <;> simp_all [Statement.flow, Statement.unsupported]

theorem diagnostics_length :
    (∀ (statement : Statement) (index : Nat) (frontier : List Exit),
      (thread statement index frontier).diagnostics.length = statement.unsupported) ∧
    ∀ (block : List Statement) (index : Nat) (frontier : List Exit),
      (threadAll block index frontier).diagnostics.length = unsupportedIn block := by
  apply flow_induction
  · intro statement flow index frontier
    cases statement with
    | branch | forLoop | whileLoop => simp [Statement.flow] at flow
    | function | declaration | ret | expression | unknown =>
      simp [thread, Statement.handle, threading, placeholderPiece, processPiece,
        Statement.unsupported]
  · intro statement yes no flow yesLength noLength index frontier
    obtain ⟨condition, location, equation⟩ := thread_branch flow
    rw [equation, branchPiece, List.length_append, yesLength, noLength, unsupported_branch flow]
  · intro statement inward outward body flow bodyLength index frontier
    obtain ⟨type, condition, location, -, equation⟩ := thread_loop flow
    rw [equation, loopPiece, bodyLength, unsupported_loop flow]
  · intro index frontier
    rfl
  · intro statement rest first others index frontier
    rw [threadAll_cons, Piece.append, List.length_append, first, others, unsupportedIn]

theorem unsupportedIn_items (items : List BodyItem) :
    unsupportedIn (items.map BodyItem.statement) = (items.map BodyItem.unsupported).sum := by
  induction items with
  | nil => rfl
  | cons item rest ih =>
    rw [List.map_cons, List.map_cons, unsupportedIn, List.sum_cons, ih]
    cases item <;> rfl

def Node.reports (node : Node) : List String :=
  if node.isPlaceholder then [node.report] else []

theorem flatMap_reports (nodes : List Node) :
    nodes.flatMap Node.reports = (nodes.filter Node.isPlaceholder).map Node.report := by
  induction nodes with
  | nil => rfl
  | cons node rest ih =>
    cases placeholder : node.isPlaceholder <;> simp [Node.reports, placeholder, ih]

theorem kind_of_brackets {node : Node} {kind : String} (label : node.label = "<" ++ kind ++ ">") :
    node.kind = kind := by
  have brackets : ("<" ++ kind ++ ">").toList = '<' :: (kind.toList ++ ['>']) := by
    simp [String.toList_append]
  rw [Node.kind, label, brackets, List.tail_cons, List.dropLast_concat, String.ofList_toList]

theorem label_unknown (tag : String) (raw : List (String × Json)) (location : Location)
    (index : Nat) :
    ((Statement.unknown tag raw location).node index).label = "<" ++ placeholderKind tag ++ ">" := by
  simp [Statement.node, Node.label, placeholderKind]

theorem report_unknown (tag : String) (raw : List (String × Json)) (location : Location)
    (index : Nat) :
    ((Statement.unknown tag raw location).node index).report =
      placeholderMessage (placeholderKind tag) index := by
  unfold Node.report placeholderMessage
  rw [kind_of_brackets (label_unknown tag raw location index), node_id]

theorem node_reports (statement : Statement) (index : Nat) :
    (statement.node index).reports = statement.reports index := by
  cases statement with
  | unknown tag raw location =>
    have placeholder : ((Statement.unknown tag raw location).node index).isPlaceholder = true := by
      simp [Node.isPlaceholder, Node.details, Statement.node]
    rw [Node.reports, if_pos placeholder, report_unknown, Statement.reports]
  | function | branch | forLoop | whileLoop | declaration | ret | expression =>
    simp [Node.reports, Node.isPlaceholder, Node.details, Statement.node, Statement.reports]

theorem node_labelled (statement : Statement) (index : Nat)
    (placeholder : (statement.node index).isPlaceholder = true) :
    (statement.node index).label = "<" ++ (statement.node index).kind ++ ">" := by
  cases statement with
  | unknown tag raw location =>
    have label := label_unknown tag raw location index
    rw [kind_of_brackets label, label]
  | function | branch | forLoop | whileLoop | declaration | ret | expression =>
    simp [Node.isPlaceholder, Node.details, Statement.node] at placeholder

/-- A graph reports its placeholders in order, each labelled with the kind that is reported, and
there are as many as given. -/
structure Graph.Diagnosed (graph : Graph) (count : Nat) : Prop where
  messages : graph.diagnostics = (graph.nodes.filter Node.isPlaceholder).map fun node =>
    "unsupported statement '" ++ node.kind ++ "' replaced by placeholder " ++ node.id
  labels : ∀ node ∈ graph.nodes, node.isPlaceholder = true → node.label = "<" ++ node.kind ++ ">"
  number : graph.diagnostics.length = count

theorem threadFunction_reports (name : String) (body : List Statement) (index : Nat) :
    (threadFunction name body index).diagnostics =
      (threadFunction name body index).nodes.flatMap Node.reports := by
  have inner : (threadAll body (index + 1) [⟨index, none⟩]).diagnostics =
      (nodesFrom (index + 1) (blockPreorder body)).flatMap Node.reports := by
    rw [thread_diagnostics.2, blockPlaces, nodesFrom, List.flatMap_map]
    simp only [node_reports]
  have start : (startNode name index).reports = [] := rfl
  have finish (last : Nat) : (endNode name last).reports = [] := rfl
  rw [threadFunction_preorder, List.flatMap_cons, List.flatMap_append, List.flatMap_singleton,
    start, finish, List.nil_append, List.append_nil, ← inner]
  rfl

theorem threadFunction_labelled (name : String) (body : List Statement) (index : Nat) :
    ∀ node ∈ (threadFunction name body index).nodes, node.isPlaceholder = true →
      node.label = "<" ++ node.kind ++ ">" := by
  apply forall_threadFunction
  · intro name index placeholder
    cases placeholder
  · intro name index placeholder
    cases placeholder
  · exact node_labelled

theorem ofFunction_diagnosed (name : String) (body : List Statement) (stamp : Stamp) :
    (Graph.ofFunction name body stamp).Diagnosed (unsupportedIn body) where
  messages := (threadFunction_reports name body 0).trans (flatMap_reports _)
  labels := threadFunction_labelled name body 0
  number := diagnostics_length.2 body 1 [⟨0, none⟩]

theorem ofFunctions_diagnosed (functions : List FunctionDecl) (stamp : Stamp) :
    (Graph.ofFunctions functions stamp).Diagnosed
      (functions.map fun function => unsupportedIn function.body).sum := by
  have diagnostics : (Graph.ofFunctions functions stamp).diagnostics =
      (placed functions 0).flatMap fun entry =>
        (threadFunction entry.1.name entry.1.body (entry.2 + 1)).diagnostics :=
    (containedFunctions_eq functions 0).2.2
  refine ⟨?_, ?_, ?_⟩
  · refine Eq.trans ?_ (flatMap_reports _)
    rw [diagnostics, ofFunctions_nodes, List.flatMap_assoc]
    apply List.flatMap_congr
    intro entry _
    have container : (functionNode entry.1 entry.2).reports = [] := rfl
    rw [List.flatMap_cons, container, List.nil_append, threadFunction_reports]
  · apply forall_ofFunctions
    · intro function index placeholder
      cases placeholder
    · exact threadFunction_labelled
  · have each (entry : FunctionDecl × Nat) :
        (threadFunction entry.1.name entry.1.body (entry.2 + 1)).diagnostics.length =
          unsupportedIn entry.1.body := diagnostics_length.2 _ _ _
    conv_rhs => rw [← placed_functions functions 0, List.map_map]
    simp only [diagnostics, List.length_flatMap, each, Function.comp_def]

def Selection.functions (program : Program) : Selection → List FunctionDecl
  | .first => program.functions.take 1
  | .every => program.functions
  | .named name => (program.findFunction name).toList
  | .unnamed _ => []

theorem graph_diagnosed {program : Program} {metadata : Metadata} {selection : Selection}
    {timestamp : Int} {graph : Graph}
    (built : program.graph metadata selection timestamp = .ok graph) :
    graph.Diagnosed
      ((selection.functions program).map fun function => unsupportedIn function.body).sum := by
  cases selection with
  | every =>
    cases built
    exact ofFunctions_diagnosed program.functions _
  | unnamed shown => cases shown <;> cases built
  | first =>
    simp only [Program.graph] at built
    split at built
    · cases built
    · rename_i function rest functions
      cases built
      simpa [Selection.functions, functions]
        using ofFunction_diagnosed function.name function.body _
  | named name =>
    simp only [Program.graph] at built
    split at built
    · cases built
    · rename_i function found
      cases built
      simpa [Selection.functions, found] using ofFunction_diagnosed function.name function.body _

theorem ofWire_diagnosed {name body metadata : Json} {timestamp : Int} {graph : Graph}
    (made : Graph.ofWire name body metadata timestamp = .ok graph) :
    ∃ items, bodyOfJson body = .ok items ∧
      graph.Diagnosed (items.map BodyItem.unsupported).sum := by
  obtain ⟨known, items, text, -, loaded, -, rfl⟩ := ofWire_items made
  refine ⟨items, loaded, ?_⟩
  rw [← unsupportedIn_items]
  exact ofFunction_diagnosed text _ _

theorem placeholders_reported :
    (∀ (name : String) (body : List Statement) (stamp : Stamp),
      (Graph.ofFunction name body stamp).Diagnosed (unsupportedIn body)) ∧
    (∀ name body metadata timestamp graph,
      Graph.ofWire name body metadata timestamp = .ok graph →
        ∃ items, bodyOfJson body = .ok items ∧
          graph.Diagnosed (items.map BodyItem.unsupported).sum) ∧
    ∀ program metadata selection timestamp graph,
      Graph.ofProgram (.ok program) metadata selection timestamp = .ok graph →
        graph.Diagnosed
          ((selection.functions program).map fun function => unsupportedIn function.body).sum := by
  refine ⟨ofFunction_diagnosed, fun _ _ _ _ _ => ofWire_diagnosed, ?_⟩
  intro program metadata selection timestamp graph made
  obtain ⟨read, known, same, -, built⟩ := ofProgram_graph made
  cases same
  exact graph_diagnosed built

-- A variable with the details of a placeholder, and a nested function that holds what would be one.
def deceptiveBody : List Json :=
  [.int 3, .obj [("type", .str "VariableDeclaration"), ("name", .str "<x>"),
      ("varType", .str "unsupported")],
    .obj [("type", .str "IfStatement"),
      ("elseBranch", .arr [.obj [("type", .str "GotoStatement")]])],
    .obj [("type", .str "FunctionDeclaration"), ("body", .arr [.null])]]

theorem placeholders_reported_deceptive :
    ∃ graph, Graph.ofWire (.str "f") (.arr deceptiveBody) noteMetadata 0 = .ok graph ∧
      graph.Diagnosed 2 ∧
      graph.diagnostics = ["unsupported statement 'int' replaced by placeholder node_1",
        "unsupported statement 'GotoStatement' replaced by placeholder node_4"] := by
  obtain ⟨items, loaded, diagnosed⟩ :=
    placeholders_reported.2.1 (.str "f") (.arr deceptiveBody) noteMetadata 0 _ rfl
  have count : (items.map BodyItem.unsupported).sum = 2 := by
    cases loaded
    rfl
  exact ⟨_, rfl, count ▸ diagnosed, by decide +kernel⟩

end ControlFlow
