import ControlFlow.Graph.Thread
import ControlFlow.Statement.Wire

set_option autoImplicit false

namespace ControlFlow

def Arc.toEdge (arc : Arc) (index : Nat) : Edge :=
  ⟨edgeId index, nodeId arc.source, nodeId arc.target, arc.label.map Label.text, "control"⟩

def edgesOf (arcs : List Arc) : List Edge :=
  arcs.mapIdx (fun index arc => arc.toEdge index)

def Graph.ofPiece (stamp : Stamp) (entry : Option String) (piece : Piece) : Graph :=
  ⟨stamp, piece.nodes, edgesOf piece.arcs, entry, piece.diagnostics⟩

def Graph.ofFunction (name : String) (body : List Statement) (stamp : Stamp) : Graph :=
  .ofPiece stamp (some (nodeId 0)) (threadFunction name body 0)

def containedFunction (function : FunctionDecl) (index : Nat) : Piece :=
  let inner := threadFunction function.name function.body (index + 1)
  { inner with
    nodes :=
      ⟨nodeId index, "function",
        .function function.name (function.parameters.map Parameter.render)
          (idRange (index + 1) inner.nodes.length) function.returnType function.location⟩ ::
        inner.nodes }

def containedFunctions : List FunctionDecl → Nat → Piece
  | [], _ => emptyPiece []
  | function :: rest, index =>
      let first := containedFunction function index
      first.append (containedFunctions rest (index + first.nodes.length))

def Graph.ofFunctions (functions : List FunctionDecl) (stamp : Stamp) : Graph :=
  .ofPiece stamp (if functions.isEmpty then none else some (nodeId 1))
    (containedFunctions functions 0)

inductive Selection where
  | first
  | every
  | named (name : String)
  -- A request for something that is no name; `shown` is its text, if it has one.
  | unnamed (shown : Except Failure String)

def Selection.ofJson : Json → Selection
  | .null => .first
  | .str "*" => .every
  | .str name => .named name
  | value => .unnamed value.text

def Program.graph (program : Program) (metadata : Metadata) (selection : Selection)
    (timestamp : Int) : Except Failure Graph :=
  let stamp := metadata.stamp timestamp
  match selection with
  | .every => .ok (.ofFunctions program.functions stamp)
  | .first =>
      match program.functions with
      | [] => .error (.noFunctions metadata.file)
      | function :: _ => .ok (.ofFunction function.name function.body stamp)
  | .named name =>
      match program.findFunction name with
      | none => .error (.functionNotFound name metadata.file)
      | some function => .ok (.ofFunction function.name function.body stamp)
  | .unnamed shown => do
      let name ← shown
      .error (.functionNotFound name metadata.file)

def Program.ofJson : Json → Except Failure Program
  | .null => .error .missingRoot
  | .obj fields => Program.load (.obj fields)
  | value => .error (.notProgram value.kind)

-- An item of a body handed over directly: a statement loaded from an object, or any other value,
-- kept as it is.
inductive BodyItem where
  | loaded (statement : Statement)
  | foreign (value : Json)

def BodyItem.load : Json → Except Failure BodyItem
  | .obj fields => (Statement.load (.obj fields)).map .loaded
  | value => .ok (.foreign value)

/-- The items of a body handed over directly: those of a list, every character of a string, every
key of an object, none of a false value. -/
def bodyOfJson : Json → Except Failure (List BodyItem)
  | .arr items => items.mapM BodyItem.load
  | .str text => .ok (text.toList.map fun c => .foreign (.str (String.singleton c)))
  | .obj fields => .ok (fields.map fun field => .foreign (.str field.1))
  | value => if value.truthy then .error (.notIterable value.kind) else .ok []

def BodyItem.thread : BodyItem → Nat → List Exit → Piece
  | .loaded statement, index, frontier => ControlFlow.thread statement index frontier
  | .foreign value, index, frontier => placeholderPiece index frontier value.kind.name .unknown

def threadItems : List BodyItem → Nat → List Exit → Piece
  | [], _, frontier => emptyPiece frontier
  | item :: rest, index, frontier =>
      let first := item.thread index frontier
      first.append (threadItems rest (index + first.nodes.length) first.exits)

/-- The graph of a function given by its name and body as they stand on the wire. Metadata is
checked before the body is looked at, and the body before the name is shown. -/
def Graph.ofWire (name body metadata : Json) (timestamp : Int) : Except Failure Graph := do
  let metadata ← Metadata.load metadata
  let items ← bodyOfJson body
  let name ← name.text
  .ok (.ofPiece (metadata.stamp timestamp) (some (nodeId 0))
    (functionPiece name 0 (threadItems items 1 [⟨0, none⟩])))

-- The graph of a selection of a program's functions; a program that could not be had fails before
-- the metadata is checked.
def Graph.ofProgram (program : Except Failure Program) (metadata : Json) (selection : Selection)
    (timestamp : Int) : Except Failure Graph := do
  let program ← program
  let metadata ← Metadata.load metadata
  program.graph metadata selection timestamp

end ControlFlow
