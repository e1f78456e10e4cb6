import ControlFlow.Graph.Wire
import ControlFlow.Proofs.Graph.Contents
import ControlFlow.Proofs.Wire.Body
import Mathlib.Data.List.Forall2

set_option autoImplicit false

namespace ControlFlow

/-! Values up to the order of keys -/

namespace Json

/-- Values that differ in nothing but the order of keys. -/
inductive Same : Json → Json → Prop where
  | refl (value : Json) : Same value value
  | arr {left right : List Json} (items : List.Forall₂ Same left right) :
      Same (.arr left) (.arr right)
  | obj {left right : List (String × Json)}
      (fields : ∀ key, Option.Rel Same (lookup left key) (lookup right key)) :
      Same (.obj left) (.obj right)

section

variable {α : Type}

def text? : Json → Option String
  | .str text => some text
  | _ => none

def integer? : Json → Option Int
  | .int number => some number
  | _ => none

def list? (item? : Json → Option α) : Json → Option (List α)
  | .arr items => items.mapM item?
  | _ => none

def member? : Json → String → Option Json
  | .obj fields, key => lookup fields key
  | _, _ => none

def required? (value : Json) (key : String) (content? : Json → Option α) : Option α :=
  (value.member? key).bind content?

def optional? (value : Json) (key : String) (content? : Json → Option α) : Option (Option α) :=
  (value.member? key).mapM content?

@[simp] theorem text?_str (text : String) : text? (.str text) = some text := rfl

@[simp] theorem integer?_int (number : Int) : integer? (.int number) = some number := rfl

@[simp] theorem required?_obj (fields : List (String × Json)) (key : String)
    (content? : Json → Option α) :
    (Json.obj fields).required? key content? = (lookup fields key).bind content? := rfl

@[simp] theorem optional?_obj (fields : List (String × Json)) (key : String)
    (content? : Json → Option α) :
    (Json.obj fields).optional? key content? = (lookup fields key).mapM content? := rfl

def Extensional (content? : Json → Option α) : Prop :=
  ∀ left right, Same left right → content? left = content? right

theorem text?_extensional : Extensional text? := by
  intro left right same
  cases same <;> rfl

theorem integer?_extensional : Extensional integer? := by
  intro left right same
  cases same <;> rfl

variable {content? : Json → Option α}

theorem Extensional.list? (extensional : Extensional content?) : Extensional (list? content?) := by
  intro left right same
  cases same with
  | refl | obj => rfl
  | arr items =>
    simp only [Json.list?]
    induction items with
    | nil => rfl
    | cons first _ ih => rw [List.mapM_cons, List.mapM_cons, extensional _ _ first, ih]

theorem Same.member? {left right : Json} (same : Same left right) (key : String) :
    Option.Rel Same (left.member? key) (right.member? key) := by
  cases same with
  | refl =>
    cases left.member? key with
    | none => exact .none
    | some content => exact .some (.refl content)
  | arr => exact .none
  | obj fields => exact fields key

theorem Extensional.required? (extensional : Extensional content?) {left right : Json}
    (same : Same left right) (key : String) :
    left.required? key content? = right.required? key content? := by
  have members := same.member? key
  simp only [Json.required?]
  generalize left.member? key = here, right.member? key = there at members
  cases members with
  | none => rfl
  | some content => exact extensional _ _ content

theorem Extensional.optional? (extensional : Extensional content?) {left right : Json}
    (same : Same left right) (key : String) :
    left.optional? key content? = right.optional? key content? := by
  have members := same.member? key
  simp only [Json.optional?]
  generalize left.member? key = here, right.member? key = there at members
  cases members with
  | none => rfl
  | some content => simp only [Option.mapM_some, extensional _ _ content]

end

def texts? : Json → Option (List String) :=
  list? text?

theorem texts?_extensional : Extensional texts? :=
  text?_extensional.list?

end Json

/-! Reading -/

open Json

def Position.ofJson? (value : Json) : Option Position := do
  let line ← value.required? "line" integer?
  let column ← value.required? "column" integer?
  return ⟨line, column⟩

def Location.ofJson? (value : Json) : Option Location := do
  let start ← value.required? "start" Position.ofJson?
  let stop ← value.required? "end" Position.ofJson?
  return ⟨start, stop⟩

def Stamp.ofJson? (value : Json) : Option Stamp := do
  let language ← value.required? "sourceLanguage" text?
  let file ← value.required? "sourceFile" text?
  let timestamp ← value.required? "timestamp" integer?
  return ⟨language, file, timestamp⟩

def Edge.ofJson? (value : Json) : Option Edge := do
  let id ← value.required? "id" text?
  let source ← value.required? "source" text?
  let target ← value.required? "target" text?
  let label ← value.optional? "label" text?
  let type ← value.required? "type" text?
  return ⟨id, source, target, label, type⟩

def branches? (type : String) (value : Json) : Option (List (String × List String)) :=
  if type = "if" then do
    let yes ← value.required? "then" texts?
    let no ← value.required? "else" texts?
    return [("then", yes), ("else", no)]
  else do
    let body ← value.required? "body" texts?
    return [("body", body)]

def Node.Form.ofJson? (type : String) (value : Json) : Option Node.Form :=
  match type with
  | "start" => (value.required? "label" text?).map .start
  | "end" => (value.required? "label" text?).map .finish
  | "function" => do
      let name ← value.required? "name" text?
      let parameters ← value.required? "parameters" texts?
      let bodyIds ← value.required? "bodyNodeIds" texts?
      let returnType ← value.optional? "returnType" text?
      let location ← value.required? "location" Location.ofJson?
      return .function name parameters bodyIds returnType location
  | "if" | "for" | "while" => do
      let condition ← value.optional? "condition" text?
      let branches ← value.required? "branches" (branches? type)
      let location ← value.required? "location" Location.ofJson?
      return .control condition branches location
  | _ => do
      let label ← value.required? "label" text?
      let details ← value.optional? "details" text?
      let location ← value.required? "location" Location.ofJson?
      return .process label details location

def Node.ofJson? (value : Json) : Option Node := do
  let id ← value.required? "id" text?
  let type ← value.required? "type" text?
  let form ← Node.Form.ofJson? type value
  return ⟨id, type, form⟩

def firstStart (nodes : List Node) : Option String :=
  (nodes.find? fun node => node.type == "start").map Node.id

def Graph.ofJson? (value : Json) : Option Graph := do
  let stamp ← value.required? "metadata" Stamp.ofJson?
  let nodes ← value.required? "nodes" (list? Node.ofJson?)
  let edges ← value.required? "edges" (list? Edge.ofJson?)
  let diagnostics ← value.optional? "diagnostics" texts?
  return ⟨stamp, nodes, edges, firstStart nodes, diagnostics.getD []⟩

/-! The order of keys does not matter -/

theorem position_extensional : Extensional Position.ofJson? := by
  intro left right same
  simp only [Position.ofJson?, integer?_extensional.required? same]

theorem location_extensional : Extensional Location.ofJson? := by
  intro left right same
  simp only [Location.ofJson?, position_extensional.required? same]

theorem stamp_extensional : Extensional Stamp.ofJson? := by
  intro left right same
  simp only [Stamp.ofJson?, text?_extensional.required? same, integer?_extensional.required? same]

theorem edge_extensional : Extensional Edge.ofJson? := by
  intro left right same
  simp only [Edge.ofJson?, text?_extensional.required? same, text?_extensional.optional? same]

theorem branches_extensional (type : String) : Extensional (branches? type) := by
  intro left right same
  simp only [branches?, texts?_extensional.required? same]

theorem form_extensional (type : String) : Extensional (Node.Form.ofJson? type) := by
  intro left right same
  simp only [Node.Form.ofJson?, text?_extensional.required? same, text?_extensional.optional? same,
    texts?_extensional.required? same, location_extensional.required? same,
    (branches_extensional _).required? same]

theorem node_extensional : Extensional Node.ofJson? := by
  intro left right same
  simp only [Node.ofJson?, text?_extensional.required? same, form_extensional _ _ _ same]

theorem graph_extensional : Extensional Graph.ofJson? := by
  intro left right same
  simp only [Graph.ofJson?, stamp_extensional.required? same,
    node_extensional.list?.required? same, edge_extensional.list?.required? same,
    texts?_extensional.optional? same]

/-! What was written reads back -/

theorem list?_map {α : Type} {content? : Json → Option α} {write : α → Json} {items : List α}
    (reads : ∀ item ∈ items, content? (write item) = some item) :
    list? content? (.arr (items.map write)) = some items := by
  rw [list?]
  induction items with
  | nil => rfl
  | cons item rest ih =>
    have first := reads item List.mem_cons_self
    have others := ih fun item member => reads item (List.mem_cons_of_mem _ member)
    simp [List.mapM_cons, first, others]

@[simp] theorem texts?_texts (items : List String) : texts? (texts items) = some items :=
  list?_map fun _ _ => rfl

@[simp] theorem lookup_optionalField (name key : String) (text : Option String) :
    lookup (optionalField name text) key = if name = key then text.map .str else none := by
  cases text <;> simp [optionalField]

@[simp] theorem location_reads (location : Location) :
    Location.ofJson? location.toJson = some location := by
  simp [Location.toJson, Location.ofJson?, Position.toJson, Position.ofJson?]

@[simp] theorem stamp_reads (stamp : Stamp) : Stamp.ofJson? stamp.toJson = some stamp := by
  simp [Stamp.toJson, Stamp.ofJson?]

theorem edge_reads (edge : Edge) : Edge.ofJson? edge.toJson = some edge := by
  obtain ⟨id, source, target, label, type⟩ := edge
  cases label <;> simp [Edge.toJson, Edge.ofJson?]

/-- The type of a node tells its form and the names of its branches. -/
def Node.Fits (node : Node) : Prop :=
  match node.form with
  | .start _ => node.type = "start"
  | .finish _ => node.type = "end"
  | .function .. => node.type = "function"
  | .control _ branches _ =>
      node.type = "if" ∧ (∃ yes no, branches = [("then", yes), ("else", no)]) ∨
        (node.type = "for" ∨ node.type = "while") ∧ ∃ body, branches = [("body", body)]
  | .process .. => node.type = "variable" ∨ node.type = "return" ∨ node.type = "expression"

theorem node_reads {node : Node} (fits : node.Fits) : Node.ofJson? node.toJson = some node := by
  obtain ⟨id, type, form⟩ := node
  cases form with
  | start label =>
    obtain rfl : type = "start" := fits
    simp [Node.toJson, Node.ofJson?, Node.Form.ofJson?]
  | finish label =>
    obtain rfl : type = "end" := fits
    simp [Node.toJson, Node.ofJson?, Node.Form.ofJson?]
  | function name parameters bodyIds returnType location =>
    obtain rfl : type = "function" := fits
    cases returnType <;>
      simp [Node.toJson, Node.ofJson?, Node.Form.ofJson?]
  | control condition branches location =>
    rcases fits with ⟨rfl, yes, no, rfl⟩ | ⟨rfl | rfl, body, rfl⟩
    all_goals
      cases condition <;>
        simp [Node.toJson, Node.ofJson?, Node.Form.ofJson?, branches?]
  | process label details location =>
    rcases fits with rfl | rfl | rfl
    all_goals
      cases details <;>
        simp [Node.toJson, Node.ofJson?, Node.Form.ofJson?]

theorem graph_reads {graph : Graph} (fits : ∀ node ∈ graph.nodes, node.Fits)
    (entry : graph.entry = firstStart graph.nodes) : Graph.ofJson? graph.toJson = some graph := by
  obtain ⟨stamp, nodes, edges, first, diagnostics⟩ := graph
  obtain rfl : first = firstStart nodes := entry
  have nodesRead := list?_map fun node member => node_reads (fits node member)
  have edgesRead := list?_map fun edge (_ : edge ∈ edges) => edge_reads edge
  cases diagnostics <;>
    simp [Graph.toJson, Graph.ofJson?, nodesRead, edgesRead]

/-! Graphs that were built -/

theorem statement_node_fits (statement : Statement) (index : Nat) :
    (statement.node index).Fits := by
  cases statement <;> simp [Statement.node, Node.Fits]

theorem threadFunction_fits (name : String) (body : List Statement) (index : Nat) :
    ∀ node ∈ (threadFunction name body index).nodes, node.Fits :=
  forall_threadFunction (fun _ _ => rfl) (fun _ _ => rfl) statement_node_fits name body index

theorem ofFunctions_fits (functions : List FunctionDecl) (stamp : Stamp) :
    ∀ node ∈ (Graph.ofFunctions functions stamp).nodes, node.Fits :=
  forall_ofFunctions (fun _ _ => rfl) threadFunction_fits

theorem ofFunction_entry (name : String) (body : List Statement) (stamp : Stamp) :
    (Graph.ofFunction name body stamp).entry =
      firstStart (Graph.ofFunction name body stamp).nodes := by
  rw [Graph.ofFunction, Graph.ofPiece, threadFunction_nodes]
  rfl

-- The first function is held by the first node, so its start is the second.
theorem ofFunctions_entry (functions : List FunctionDecl) (stamp : Stamp) :
    (Graph.ofFunctions functions stamp).entry =
      firstStart (Graph.ofFunctions functions stamp).nodes := by
  rw [ofFunctions_nodes]
  cases functions with
  | nil => rfl
  | cons function rest =>
    rw [placed, List.flatMap_cons, threadFunction_nodes]
    rfl

theorem Graph.Requested.recoverable {graph : Graph} (requested : graph.Requested) :
    graph.entry = firstStart graph.nodes ∧ Graph.ofJson? graph.toJson = some graph := by
  rcases requested.cases with ⟨functions, stamp, rfl⟩ | ⟨name, body, stamp, rfl⟩
  · have entry := ofFunctions_entry functions stamp
    exact ⟨entry, graph_reads (ofFunctions_fits functions stamp) entry⟩
  · have entry := ofFunction_entry name body stamp
    exact ⟨entry, graph_reads (threadFunction_fits name body 0) entry⟩

theorem wire_form_lossless {graph other : Graph} (requested : graph.Requested)
    (otherRequested : other.Requested) :
    (graph.toJson.Same other.toJson ↔ graph = other) ∧
      graph.entry = (graph.nodes.find? fun node => node.type == "start").map Node.id := by
  obtain ⟨entry, recovered⟩ := requested.recoverable
  obtain ⟨-, otherRecovered⟩ := otherRequested.recoverable
  refine ⟨⟨fun same => ?_, fun same => same ▸ .refl _⟩, entry⟩
  have read := graph_extensional _ _ same
  rw [recovered, otherRecovered] at read
  exact Option.some.inj read

-- Two loops that tell apart a condition that is missing and one that is empty.
def loopProgram (condition : Option String) : Program :=
  ⟨[.function "f" [] [.forLoop none condition none [] .unknown] none .unknown], none⟩

theorem wire_form_lossless_condition :
    ∃ missing blank,
      Graph.ofProgram (.ok (loopProgram none)) noteMetadata .first 0 = .ok missing ∧
      Graph.ofProgram (.ok (loopProgram (some ""))) noteMetadata .first 0 = .ok blank ∧
      ¬missing.toJson.Same blank.toJson ∧ missing.entry = some "node_0" := by
  refine ⟨_, _, rfl, rfl, ?_, rfl⟩
  intro same
  have lossless := wire_form_lossless (.selection (.ok (loopProgram none)) noteMetadata .first 0 rfl)
    (.selection (.ok (loopProgram (some ""))) noteMetadata .first 0 rfl)
  exact absurd (lossless.1.mp same) (by decide +kernel)

end ControlFlow
