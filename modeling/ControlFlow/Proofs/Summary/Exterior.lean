import ControlFlow.Proofs.Graph.Placeholder
import ControlFlow.Proofs.Graph.Skeleton
import ControlFlow.Proofs.Summary.Calls
import ControlFlow.Proofs.Summary.Measures

set_option autoImplicit false

namespace ControlFlow

mutual

def Statement.exterior : Statement → Statement
  | .function name parameters _ _ location => .function name parameters [] none location
  | .branch condition yes no location =>
      .branch condition (exteriors yes) (elseExteriors no) location
  | .forLoop initializer condition incrementor body location =>
      .forLoop initializer condition incrementor (exteriors body) location
  | .whileLoop condition body location => .whileLoop condition (exteriors body) location
  | .declaration name type initializer location => .declaration name type initializer location
  | .ret value location => .ret value location
  | .expression text location => .expression text location
  | .unknown tag raw location => .unknown tag raw location

def exteriors : List Statement → List Statement
  | [] => []
  | statement :: rest => statement.exterior :: exteriors rest

def elseExteriors : Option (List Statement) → Option (List Statement)
  | none => none
  | some body => some (exteriors body)

end

def BodyItem.exterior : BodyItem → BodyItem
  | .loaded statement => .loaded statement.exterior
  | .foreign value => .foreign value

def FunctionDecl.exterior (function : FunctionDecl) : FunctionDecl :=
  { function with body := exteriors function.body }

theorem exteriors_eq_map (block : List Statement) :
    exteriors block = block.map Statement.exterior := by
  induction block with
  | nil => rfl
  | cons statement rest ih => rw [exteriors, ih, List.map_cons]

theorem elseExteriors_getD (side : Option (List Statement)) :
    (elseExteriors side).getD [] = exteriors (side.getD []) := by
  cases side <;> rfl

theorem exteriors_items (items : List BodyItem) :
    exteriors (items.map BodyItem.statement) =
      (items.map BodyItem.exterior).map BodyItem.statement := by
  rw [exteriors_eq_map, List.map_map, List.map_map]
  apply List.map_congr_left
  intro item _
  cases item <;> rfl

/-! How the exterior takes part in control flow -/

theorem exterior_leaf {statement : Statement} (flow : statement.flow = .leaf) :
    statement.exterior.flow = .leaf := by
  cases statement <;> simp_all [Statement.flow, Statement.exterior]

theorem exterior_branch {statement : Statement} {yes no : List Statement}
    (flow : statement.flow = .branch yes no) :
    statement.exterior.flow = .branch (exteriors yes) (exteriors no) := by
  cases statement <;> simp only [Statement.flow, Flow.branch.injEq, reduceCtorEq] at flow
  obtain ⟨rfl, rfl⟩ := flow
  rw [Statement.exterior, Statement.flow, elseExteriors_getD]

theorem exterior_loop {statement : Statement} {inward outward : Label} {body : List Statement}
    (flow : statement.flow = .loop inward outward body) :
    statement.exterior.flow = .loop inward outward (exteriors body) := by
  cases statement <;> simp_all [Statement.flow, Statement.exterior]

theorem skeleton_exterior :
    (∀ statement : Statement, statement.exterior.skeleton = statement.skeleton) ∧
    ∀ block : List Statement, skeletons (exteriors block) = skeletons block := by
  apply flow_induction
  · intro statement flow
    cases statement <;> simp_all [Statement.flow, Statement.exterior, Statement.skeleton]
  · intro statement yes no flow yesSame noSame
    cases statement <;> simp only [Statement.flow, Flow.branch.injEq, reduceCtorEq] at flow
    obtain ⟨rfl, rfl⟩ := flow
    rw [Statement.exterior, Statement.skeleton, Statement.skeleton, elseSkeletons_eq,
      elseSkeletons_eq, elseExteriors_getD, yesSame, noSame]
  · intro statement inward outward body flow bodySame
    cases statement <;> simp_all [Statement.flow, Statement.exterior, Statement.skeleton]
  · rfl
  · intro statement rest first others
    rw [exteriors, skeletons, skeletons, first, others]

theorem preorder_exterior :
    (∀ statement : Statement,
      statement.exterior.preorder = statement.preorder.map Statement.exterior) ∧
    ∀ block : List Statement,
      blockPreorder (exteriors block) = (blockPreorder block).map Statement.exterior := by
  apply flow_induction
  · intro statement flow
    rw [preorder_leaf flow, preorder_leaf (exterior_leaf flow), List.map_singleton]
  · intro statement yes no flow yesSame noSame
    rw [preorder_branch flow, preorder_branch (exterior_branch flow), yesSame, noSame,
      List.map_cons, List.map_append]
  · intro statement inward outward body flow bodySame
    rw [preorder_loop flow, preorder_loop (exterior_loop flow), bodySame, List.map_cons]
  · rfl
  · intro statement rest first others
    rw [exteriors, blockPreorder, blockPreorder, first, others, List.map_append]

/-! What is read off one statement -/

theorem isBranch_exterior (statement : Statement) :
    statement.exterior.isBranch = statement.isBranch := by
  cases statement <;> rfl

theorem isLoop_exterior (statement : Statement) :
    statement.exterior.isLoop = statement.isLoop := by
  cases statement <;> rfl

theorem call_exterior (statement : Statement) : statement.exterior.call? = statement.call? := by
  cases statement <;> rfl

theorem branchIds_exterior (first : Nat) (block : List Statement) :
    branchIds first (exteriors block) = branchIds first block := by
  rw [branchIds, branchIds, preorder_exterior.2, List.length_map]

theorem node_exterior (statement : Statement) (index : Nat) :
    statement.exterior.node index = statement.node index := by
  cases statement with
  | branch condition yes no location =>
    simp only [Statement.exterior, Statement.node, elseExteriors_getD, branchIds_exterior,
      preorder_exterior.2, List.length_map]
  | forLoop | whileLoop => simp only [Statement.exterior, Statement.node, branchIds_exterior]
  | function | declaration | ret | expression | unknown => rfl

/-! Graphs, measures and calls -/

theorem threadFunction_exterior (name : String) (body : List Statement) (index : Nat) :
    threadFunction name (exteriors body) index = threadFunction name body index := by
  have alike := threadFunction_alike (skeleton_exterior.2 body) name name index
  have nodes : (threadFunction name (exteriors body) index).nodes =
      (threadFunction name body index).nodes := by
    simp [threadFunction_preorder, preorder_exterior.2, nodesFrom, List.zipIdx_map, node_exterior]
  -- The messages can be read off the nodes.
  have diagnostics : (threadFunction name (exteriors body) index).diagnostics =
      (threadFunction name body index).diagnostics := by
    rw [threadFunction_reports, threadFunction_reports, nodes]
  exact (Piece.mk.injEq ..).mpr ⟨nodes, alike.arcs, alike.exits, diagnostics⟩

structure SameMeasures (left right : List Statement) : Prop where
  decisions : decisions left = decisions right
  complexity : complexity left = complexity right
  loops : hasLoops left = hasLoops right
  conditionals : hasConditionals left = hasConditionals right
  calls : callees left = callees right

theorem measures_exterior (body : List Statement) : SameMeasures (exteriors body) body := by
  have decided : decisions (exteriors body) = decisions body := by
    rw [decisions_eq_countP.2, decisions_eq_countP.2, preorder_exterior.2, List.countP_map]
    simp only [Function.comp_def, isBranch_exterior, isLoop_exterior]
  refine ⟨decided, ?_, ?_, ?_, ?_⟩
  · rw [complexity, complexity, decided]
  · rw [hasLoops_eq_any.2, hasLoops_eq_any.2, preorder_exterior.2, List.any_map]
    simp only [Function.comp_def, isLoop_exterior]
  · rw [hasConditionals_eq_any.2, hasConditionals_eq_any.2, preorder_exterior.2, List.any_map]
    simp only [Function.comp_def, isBranch_exterior]
  · rw [callees_eq_filterMap.2, callees_eq_filterMap.2, preorder_exterior.2, List.filterMap_map]
    simp only [Function.comp_def, call_exterior]

section

variable {left right : List Statement} (same : exteriors left = exteriors right)

include same

theorem threadFunction_of_exterior (name : String) (index : Nat) :
    threadFunction name left index = threadFunction name right index := by
  rw [← threadFunction_exterior name left, same, threadFunction_exterior]

theorem measures_of_exterior : SameMeasures left right := by
  have ours := measures_exterior left
  have theirs := measures_exterior right
  rw [same] at ours
  exact ⟨ours.decisions.symm.trans theirs.decisions, ours.complexity.symm.trans theirs.complexity,
    ours.loops.symm.trans theirs.loops, ours.conditionals.symm.trans theirs.conditionals,
    ours.calls.symm.trans theirs.calls⟩

end

/-! Bodies on the wire -/

section

variable {left right : Json} {items others : List BodyItem} (loaded : bodyOfJson left = .ok items)
  (opposite : bodyOfJson right = .ok others)

include loaded opposite

theorem ofWire_wiredAlike (same : items.map BodyItem.skeleton = others.map BodyItem.skeleton)
    (name other : Json) {metadata info : Json} {known met : Metadata}
    (valid : Metadata.load metadata = .ok known) (fine : Metadata.load info = .ok met)
    {title heading : String} (named : name.text = .ok title) (headed : other.text = .ok heading)
    (timestamp later : Int) :
    ∃ graph counterpart, Graph.ofWire name left metadata timestamp = .ok graph ∧
      Graph.ofWire other right info later = .ok counterpart ∧ graph.WiredAlike counterpart := by
  rw [ofWire_loaded loaded, ofWire_loaded opposite, valid, fine, named, headed]
  refine ⟨_, _, rfl, rfl, ofFunction_wiredAlike ?_ ..⟩
  rw [skeletons_items, skeletons_items, same]

theorem ofWire_of_exterior (same : items.map BodyItem.exterior = others.map BodyItem.exterior)
    (name metadata : Json) (timestamp : Int) :
    Graph.ofWire name left metadata timestamp = Graph.ofWire name right metadata timestamp := by
  have exterior : exteriors (items.map BodyItem.statement) =
      exteriors (others.map BodyItem.statement) := by
    rw [exteriors_items, exteriors_items, same]
  simp only [ofWire_loaded loaded, ofWire_loaded opposite, Graph.ofFunction,
    threadFunction_of_exterior exterior]

end

/-! Programs -/

theorem containedFunctions_exterior (functions : List FunctionDecl) (index : Nat) :
    containedFunctions (functions.map FunctionDecl.exterior) index =
      containedFunctions functions index := by
  induction functions generalizing index with
  | nil => rfl
  | cons function rest ih =>
    have one : containedFunction function.exterior index = containedFunction function index := by
      simp only [containedFunction, FunctionDecl.exterior, threadFunction_exterior]
    rw [List.map_cons, containedFunctions, containedFunctions, one, ih]

theorem ofFunctions_exterior (functions : List FunctionDecl) (stamp : Stamp) :
    Graph.ofFunctions (functions.map FunctionDecl.exterior) stamp =
      Graph.ofFunctions functions stamp := by
  simp only [Graph.ofFunctions, containedFunctions_exterior, List.isEmpty_map]

theorem summarize_exterior (function : FunctionDecl) (index : Nat) :
    function.exterior.summarize index = function.summarize index := by
  have same := measures_exterior function.body
  simp only [FunctionDecl.summarize, FunctionDecl.exterior, same.complexity, same.loops,
    same.conditionals]

theorem summaries_exterior (functions : List FunctionDecl) :
    (functions.map FunctionDecl.exterior).mapIdx (fun index function => function.summarize index) =
      functions.mapIdx fun index function => function.summarize index := by
  apply List.ext_getElem
  · simp
  · intro index _ _
    simp [summarize_exterior]

theorem callSites_exterior (functions : List FunctionDecl) :
    callSites (functions.map FunctionDecl.exterior) = callSites functions := by
  simp only [callSites, List.flatMap_map, FunctionDecl.exterior, (measures_exterior _).calls]

theorem ofFunction_of_exterior {left right : FunctionDecl} (same : left.exterior = right.exterior)
    (stamp : Stamp) :
    Graph.ofFunction left.name left.body stamp = Graph.ofFunction right.name right.body stamp := by
  simp only [FunctionDecl.exterior, FunctionDecl.mk.injEq] at same
  obtain ⟨named, -, bodies, -, -⟩ := same
  rw [Graph.ofFunction, Graph.ofFunction, named, threadFunction_of_exterior bodies]

section

variable {left right : Program}
  (same : left.functions.map FunctionDecl.exterior = right.functions.map FunctionDecl.exterior)

include same

theorem findFunction_of_exterior (name : String) :
    (left.findFunction name).map FunctionDecl.exterior =
      (right.findFunction name).map FunctionDecl.exterior := by
  have found (program : Program) : (program.findFunction name).map FunctionDecl.exterior =
      (program.functions.map FunctionDecl.exterior).find? fun function => function.name == name := by
    rw [List.find?_map]
    rfl
  rw [found, found, same]

theorem graph_of_exterior (metadata : Metadata) (selection : Selection) (timestamp : Int) :
    left.graph metadata selection timestamp = right.graph metadata selection timestamp := by
  cases selection with
  | every =>
    simp only [Program.graph]
    rw [← ofFunctions_exterior left.functions, same, ofFunctions_exterior]
  | unnamed shown => rfl
  | first =>
    simp only [Program.graph]
    cases ours : left.functions <;> cases theirs : right.functions <;>
      simp only [ours, theirs, List.map_cons, List.map_nil, List.cons.injEq, reduceCtorEq] at same
    · rfl
    · simp only [ofFunction_of_exterior same.1]
  | named name =>
    have found := findFunction_of_exterior same name
    simp only [Program.graph]
    cases ours : left.findFunction name <;> cases theirs : right.findFunction name <;>
      simp only [ours, theirs, Option.map_some, Option.map_none, Option.some.injEq,
        reduceCtorEq] at found
    · rfl
    · simp only [ofFunction_of_exterior found]

theorem summarize_of_exterior (stamp : Stamp) : left.summarize stamp = right.summarize stamp := by
  have calls : callSites left.functions = callSites right.functions := by
    rw [← callSites_exterior, same, callSites_exterior]
  rw [Program.summarize, Program.summarize, calls, ← summaries_exterior left.functions, same,
    summaries_exterior]

end

theorem wiring_of_shape :
    -- Two bodies of one skeleton are wired alike, as statements and on the wire.
    (∀ left right, skeletons left = skeletons right → ∀ name other stamp later,
      (Graph.ofFunction name left stamp).WiredAlike (Graph.ofFunction other right later)) ∧
    (∀ left right items others, bodyOfJson left = .ok items → bodyOfJson right = .ok others →
      items.map BodyItem.skeleton = others.map BodyItem.skeleton →
      ∀ name other title heading metadata info known met timestamp later,
        name.text = .ok title → other.text = .ok heading →
        Metadata.load metadata = .ok known → Metadata.load info = .ok met →
        ∃ graph counterpart, Graph.ofWire name left metadata timestamp = .ok graph ∧
          Graph.ofWire other right info later = .ok counterpart ∧
          graph.WiredAlike counterpart) ∧
    -- Two bodies of one exterior cannot be told apart at all.
    (∀ left right, exteriors left = exteriors right →
      (∀ name stamp, Graph.ofFunction name left stamp = Graph.ofFunction name right stamp) ∧
        SameMeasures left right) ∧
    (∀ left right items others, bodyOfJson left = .ok items → bodyOfJson right = .ok others →
      items.map BodyItem.exterior = others.map BodyItem.exterior → ∀ name metadata timestamp,
        Graph.ofWire name left metadata timestamp = Graph.ofWire name right metadata timestamp) ∧
    ∀ left right : Program,
      left.functions.map FunctionDecl.exterior = right.functions.map FunctionDecl.exterior →
      (∀ metadata selection timestamp,
        left.graph metadata selection timestamp = right.graph metadata selection timestamp) ∧
        ∀ stamp, left.summarize stamp = right.summarize stamp := by
  refine ⟨?_, ?_, ?_, ?_, ?_⟩
  · intro left right same
    exact ofFunction_wiredAlike same
  · intro left right items others loaded opposite same name other title heading metadata info known
      met timestamp later named headed valid fine
    exact ofWire_wiredAlike loaded opposite same name other valid fine named headed timestamp later
  · intro left right same
    refine ⟨fun name stamp => ?_, measures_of_exterior same⟩
    rw [Graph.ofFunction, Graph.ofFunction, threadFunction_of_exterior same]
  · intro left right items others loaded opposite same
    exact ofWire_of_exterior loaded opposite same
  · intro left right same
    exact ⟨graph_of_exterior same, summarize_of_exterior same⟩

def bareBody : List Json :=
  [.int 3,
    .obj [("type", .str "IfStatement"),
      ("thenBranch", .arr [.obj [("type", .str "ReturnStatement")]])],
    .obj [("type", .str "WhileStatement"), ("body", .arr [.null])]]

-- The same skeleton, with an empty side where the other body has none.
def dressedBody (inner : List Json) : List Json :=
  [.obj [("type", .str "ReturnStatement"), ("value", .str "1")],
    .obj [("type", .str "IfStatement"), ("condition", .str "c"), ("elseBranch", .arr []),
      ("thenBranch", .arr [.obj [("type", .str "FunctionDeclaration"), ("name", .str "inner"),
        ("body", .arr inner)]])],
    .obj [("type", .str "WhileStatement"), ("condition", .str "d"),
      ("body", .arr [.obj [("type", .str "ExpressionStatement"), ("expression", .str "g()")]])]]

def nesting (inner : List Statement) (returnType : Option String) : List Statement :=
  [.whileLoop "c" [.function "inner" [] inner returnType .unknown, .expression "h()" .unknown]
    .unknown]

def nestingProgram (inner : List Statement) (returnType : Option String) : Program :=
  ⟨[.function "outer" [] (nesting inner returnType) none .unknown], none⟩

def callInLoop : List Statement := [.whileLoop "e" [.expression "g()" .unknown] .unknown]

theorem wiring_of_shape_nesting :
    (Graph.ofFunction "f" (nesting [] none) ⟨"python", "note.py", 0⟩).WiredAlike
      (Graph.ofFunction "g" [.whileLoop "d" [.ret none .unknown, .unknown "" [] .unknown] .unknown]
        ⟨"c", "note.c", 1⟩) ∧
    (∃ graph counterpart, Graph.ofWire (.str "f") (.arr bareBody) noteMetadata 0 = .ok graph ∧
      Graph.ofWire (.str "g") (.arr (dressedBody [.null])) noteMetadata 1 = .ok counterpart ∧
      graph.WiredAlike counterpart) ∧
    SameMeasures (nesting callInLoop (some "int")) (nesting [] none) ∧
    Graph.ofWire (.str "f") (.arr (dressedBody [.null])) noteMetadata 0 =
      Graph.ofWire (.str "f") (.arr (dressedBody [])) noteMetadata 0 ∧
    (nestingProgram callInLoop (some "int")).summarize ⟨"python", "note.py", 0⟩ =
      (nestingProgram [] none).summarize ⟨"python", "note.py", 0⟩ := by
  refine ⟨?_, ?_, ?_, ?_, ?_⟩
  · apply wiring_of_shape.1
    rfl
  · exact wiring_of_shape.2.1 (.arr bareBody) (.arr (dressedBody [.null])) _ _ rfl rfl rfl
      (.str "f") (.str "g") "f" "g" noteMetadata noteMetadata _ _ 0 1 rfl rfl rfl rfl
  · exact (wiring_of_shape.2.2.1 (nesting callInLoop (some "int")) (nesting [] none) rfl).2
  · exact wiring_of_shape.2.2.2.1 (.arr (dressedBody [.null])) (.arr (dressedBody [])) _ _ rfl
      rfl rfl (.str "f") noteMetadata 0
  · exact (wiring_of_shape.2.2.2.2 (nestingProgram callInLoop (some "int")) (nestingProgram [] none)
      rfl).2 _

end ControlFlow
