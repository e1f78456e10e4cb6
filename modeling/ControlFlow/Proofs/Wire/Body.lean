import ControlFlow.Graph.Build
import ControlFlow.Proofs.Graph.Layout
import ControlFlow.Proofs.Wire.Encode

set_option autoImplicit false

namespace ControlFlow

-- The statement that an item stands for inside a program tree.
def BodyItem.statement : BodyItem → Statement
  | .loaded statement => statement
  | .foreign value => .unknown value.kind.name [] .unknown

theorem load_eq_map_item (value : Json) :
    Statement.load value = (BodyItem.load value).map BodyItem.statement := by
  cases value with
  | obj fields =>
    rw [BodyItem.load]
    cases Statement.load (.obj fields) <;> rfl
  | null | bool | int | float | str | arr => rfl

-- Both stop at the first item that fails, since only objects can.
theorem loadStatements_eq_map_items (values : List Json) :
    loadStatements values =
      (values.mapM BodyItem.load).map (List.map BodyItem.statement) := by
  induction values with
  | nil => rfl
  | cons value rest ih =>
    rw [loadStatements, load_eq_map_item, ih, List.mapM_cons]
    cases BodyItem.load value with
    | error failure => rfl
    | ok item => cases rest.mapM BodyItem.load <;> rfl

theorem placeholderKind_name (kind : Json.Kind) : placeholderKind kind.name = kind.name := by
  cases kind <;> rfl

theorem BodyItem.thread_eq (item : BodyItem) (index : Nat) (frontier : List Exit) :
    item.thread index frontier = ControlFlow.thread item.statement index frontier := by
  cases item with
  | loaded statement => rfl
  | foreign value =>
    simp [BodyItem.thread, BodyItem.statement, ControlFlow.thread, Statement.handle, threading,
      placeholderKind_name]

theorem threadItems_eq (items : List BodyItem) (index : Nat) (frontier : List Exit) :
    threadItems items index frontier =
      threadAll (items.map BodyItem.statement) index frontier := by
  induction items generalizing index frontier with
  | nil => rfl
  | cons item rest ih => simp [threadItems, threadAll_cons, BodyItem.thread_eq, ih]

theorem ofWire_list (name : String) (body : List Json) {metadata : Json} {known : Metadata}
    (valid : Metadata.load metadata = .ok known) (timestamp : Int) :
    Graph.ofWire (.str name) (.arr body) metadata timestamp =
      (loadStatements body).map fun block =>
        Graph.ofFunction name block (known.stamp timestamp) := by
  simp only [Graph.ofWire, valid, bodyOfJson, bind, Except.bind, loadStatements_eq_map_items]
  cases body.mapM BodyItem.load with
  | error failure => rfl
  | ok items => simp [Except.map, Graph.ofFunction, threadFunction, threadItems_eq]

/-- Graphs that requests ask for: that of one function, or of a selection of a program. -/
inductive Graph.Requested (graph : Graph) : Prop where
  | function (name body metadata : Json) (timestamp : Int)
      (made : Graph.ofWire name body metadata timestamp = .ok graph)
  | selection (program : Except Failure Program) (metadata : Json) (selection : Selection)
      (timestamp : Int) (made : Graph.ofProgram program metadata selection timestamp = .ok graph)

theorem ofWire_loaded {body : Json} {items : List BodyItem} (loaded : bodyOfJson body = .ok items)
    (name metadata : Json) (timestamp : Int) :
    Graph.ofWire name body metadata timestamp = (Metadata.load metadata).bind fun known =>
      name.text.map fun text =>
        .ofFunction text (items.map BodyItem.statement) (known.stamp timestamp) := by
  simp only [Graph.ofWire, bind, Except.bind, loaded, Graph.ofFunction, threadFunction,
    threadItems_eq]
  cases Metadata.load metadata with
  | error failure => rfl
  | ok known => cases name.text <;> rfl

theorem ofWire_items {name body metadata : Json} {timestamp : Int} {graph : Graph}
    (made : Graph.ofWire name body metadata timestamp = .ok graph) :
    ∃ known items text, Metadata.load metadata = .ok known ∧ bodyOfJson body = .ok items ∧
      name.text = .ok text ∧
      graph = .ofFunction text (items.map BodyItem.statement) (known.stamp timestamp) := by
  simp only [Graph.ofWire, bind, Except.bind] at made
  split at made
  · cases made
  next known valid =>
    split at made
    · cases made
    next items loaded =>
      split at made <;> cases made
      next text shown =>
        refine ⟨known, items, text, valid, loaded, shown, ?_⟩
        rw [Graph.ofFunction, threadFunction, threadItems_eq]

theorem ofWire_cases {name body metadata : Json} {timestamp : Int} {graph : Graph}
    (made : Graph.ofWire name body metadata timestamp = .ok graph) :
    ∃ text block stamp, graph = .ofFunction text block stamp := by
  obtain ⟨known, items, text, -, -, -, rfl⟩ := ofWire_items made
  exact ⟨_, _, _, rfl⟩

theorem ofProgram_graph {program : Except Failure Program} {metadata : Json}
    {selection : Selection} {timestamp : Int} {graph : Graph}
    (made : Graph.ofProgram program metadata selection timestamp = .ok graph) :
    ∃ read known, program = .ok read ∧ Metadata.load metadata = .ok known ∧
      read.graph known selection timestamp = .ok graph := by
  simp only [Graph.ofProgram, bind, Except.bind] at made
  split at made
  · cases made
  · rename_i read
    split at made
    · cases made
    · rename_i known valid
      exact ⟨read, known, rfl, valid, made⟩

theorem Graph.Requested.cases {graph : Graph} (requested : graph.Requested) :
    (∃ functions stamp, graph = .ofFunctions functions stamp) ∨
      ∃ name body stamp, graph = .ofFunction name body stamp := by
  cases requested with
  | function name body metadata timestamp made =>
    exact .inr (ofWire_cases made)
  | selection program metadata selection timestamp made =>
    obtain ⟨read, known, -, -, built⟩ := ofProgram_graph made
    exact graph_cases built

def functionTree (name : String) (body : List Json) : Json :=
  .obj [("type", .str "Program"), ("body", .arr [.obj [("type", .str "FunctionDeclaration"),
    ("name", .str name), ("body", .arr body)]])]

theorem ofJson_functionTree {name : String} (named : name ≠ "") (body : List Json) :
    Program.ofJson (functionTree name body) =
      (loadStatements body).map fun block => ⟨[.function name [] block none .unknown], none⟩ := by
  simp only [functionTree, Program.ofJson, Program.load]
  cases loaded : loadStatements body <;>
    simp [Json.get, loadStatements, Statement.load, Statement.assemble, Location.load,
      loadParameters, blockOf_loadBlocks, loadBlock, optionalText, named, loaded, bind, Except.bind,
      Except.map]

theorem direct_body_matches_program (name : String) (named : name ≠ "") (body : List Json)
    (metadata : Json) (valid : ∃ known, Metadata.load metadata = .ok known) (timestamp : Int) :
    Graph.ofWire (.str name) (.arr body) metadata timestamp =
      Graph.ofProgram (Program.ofJson (functionTree name body)) metadata .first timestamp := by
  obtain ⟨known, valid⟩ := valid
  rw [ofWire_list name body valid, ofJson_functionTree named, Graph.ofProgram]
  cases loadStatements body with
  | error failure => rfl
  | ok block =>
    simp [Except.map, valid, bind, Except.bind, Program.graph, Program.functions,
      Statement.function?]

def noteMetadata : Json := .obj [("language", .str "python"), ("file", .str "note.py")]

-- Values of other kinds, an object without a tag, and one foreign value inside a branch.
def mixedBody : List Json :=
  [.int 3, .null, .str "ReturnStatement", .arr [.obj []], .obj [],
    .obj [("type", .str "IfStatement"), ("thenBranch", .arr [.bool true])]]

def misplaced : Json := .obj [("location", .obj [("end", .str "x")])]

theorem direct_body_matches_program_mixed :
    (∃ graph, Graph.ofWire (.str "f") (.arr mixedBody) noteMetadata 0 = .ok graph ∧
      Graph.ofProgram (Program.ofJson (functionTree "f" mixedBody)) noteMetadata .first 0 =
        .ok graph) ∧
      Graph.ofProgram (Program.ofJson (functionTree "f" (mixedBody ++ [misplaced]))) noteMetadata
        .first 0 = .error (.noMember "str" "get") := by
  have valid : ∃ known, Metadata.load noteMetadata = .ok known := ⟨_, rfl⟩
  have both := fun body => direct_body_matches_program "f" (by decide) body noteMetadata valid 0
  exact ⟨⟨_, rfl, (both mixedBody).symm.trans rfl⟩, (both (mixedBody ++ [misplaced])).symm.trans rfl⟩

end ControlFlow
