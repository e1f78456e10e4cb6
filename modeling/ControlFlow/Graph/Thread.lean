import ControlFlow.Graph
import ControlFlow.Graph.Handling

set_option autoImplicit false

namespace ControlFlow

structure Exit where
  node : Nat
  label : Option Label
  deriving DecidableEq, Repr

structure Arc where
  source : Nat
  target : Nat
  label : Option Label
  deriving DecidableEq, Repr

/-- What threading a run of statements adds: nodes, arcs and diagnostics in order, and the places
control leaves from afterwards. -/
structure Piece where
  nodes : List Node
  arcs : List Arc
  exits : List Exit
  diagnostics : List String

def nodeId (index : Nat) : String :=
  "node_" ++ toString index

def edgeId (index : Nat) : String :=
  "edge_" ++ toString index

def idRange (first count : Nat) : List String :=
  (List.range' first count).map nodeId

-- Adds the exits of a frontier that are not yet among the merged ones.
def addExits : List Exit → List Exit → List Exit
  | merged, [] => merged
  | merged, e :: rest => addExits (if merged.contains e then merged else merged ++ [e]) rest

def mergeExits (left right : List Exit) : List Exit :=
  addExits (addExits [] left) right

-- Arcs from every exit of a frontier; a label that is given replaces the pending ones.
def connect (frontier : List Exit) (target : Nat) (label : Option Label) : List Arc :=
  frontier.map (fun e => ⟨e.node, target, label.or e.label⟩)

def processPiece (index : Nat) (frontier : List Exit) (type label : String)
    (details : Option String) (location : Location) (diagnostics : List String) : Piece where
  nodes := [⟨nodeId index, type, .process label details location⟩]
  arcs := connect frontier index none
  exits := [⟨index, none⟩]
  diagnostics := diagnostics

def placeholderMessage (kind : String) (index : Nat) : String :=
  "unsupported statement '" ++ kind ++ "' replaced by placeholder " ++ nodeId index

def placeholderPiece (index : Nat) (frontier : List Exit) (kind : String) (location : Location) :
    Piece :=
  processPiece index frontier "expression" ("<" ++ kind ++ ">") (some "unsupported") location
    [placeholderMessage kind index]

def branchPiece (index : Nat) (frontier : List Exit) (condition : String) (location : Location)
    (yes no : Piece) : Piece where
  nodes :=
    ⟨nodeId index, "if",
      .control (some condition)
        [("then", idRange (index + 1) yes.nodes.length),
         ("else", idRange (index + 1 + yes.nodes.length) no.nodes.length)] location⟩ ::
      (yes.nodes ++ no.nodes)
  arcs := connect frontier index none ++ yes.arcs ++ no.arcs
  exits := mergeExits yes.exits no.exits
  diagnostics := yes.diagnostics ++ no.diagnostics

-- A loop from the piece of its body; an empty body has no way back.
def loopPiece (index : Nat) (frontier : List Exit) (type : String) (condition : Option String)
    (leaving : Label) (location : Location) (body : Piece) : Piece where
  nodes :=
    ⟨nodeId index, type,
      .control condition [("body", idRange (index + 1) body.nodes.length)] location⟩ :: body.nodes
  arcs :=
    connect frontier index none ++ body.arcs ++
      (if body.nodes.isEmpty then [] else connect body.exits index (some .again))
  exits := [⟨index, some leaving⟩]
  diagnostics := body.diagnostics

def emptyPiece (frontier : List Exit) : Piece := ⟨[], [], frontier, []⟩

def Piece.append (first second : Piece) : Piece where
  nodes := first.nodes ++ second.nodes
  arcs := first.arcs ++ second.arcs
  exits := second.exits
  diagnostics := first.diagnostics ++ second.diagnostics

def threading : Handling (Nat → List Exit → Piece) where
  process _ type label details location index frontier :=
    processPiece index frontier type label details location []
  placeholder _ kind location index frontier := placeholderPiece index frontier kind location
  branch _ condition location yes no index frontier :=
    let yesPiece := yes (index + 1) [⟨index, some .yes⟩]
    let noPiece := no (index + 1 + yesPiece.nodes.length) [⟨index, some .no⟩]
    branchPiece index frontier condition location yesPiece noPiece
  loop _ type condition entering leaving location body index frontier :=
    loopPiece index frontier type condition leaving location
      (body (index + 1) [⟨index, some entering⟩])
  nothing _ frontier := emptyPiece frontier
  andThen first rest index frontier :=
    let piece := first index frontier
    piece.append (rest (index + piece.nodes.length) piece.exits)

def thread (statement : Statement) : Nat → List Exit → Piece :=
  statement.handle threading

def threadAll (block : List Statement) : Nat → List Exit → Piece :=
  handleAll threading block

def functionPiece (name : String) (index : Nat) (inner : Piece) : Piece :=
  let last := index + 1 + inner.nodes.length
  { nodes :=
      ⟨nodeId index, "start", .start ("Start: " ++ name)⟩ ::
        (inner.nodes ++ [⟨nodeId last, "end", .finish ("End: " ++ name)⟩])
    arcs := inner.arcs ++ connect inner.exits last none
    exits := []
    diagnostics := inner.diagnostics }

def threadFunction (name : String) (body : List Statement) (index : Nat) : Piece :=
  functionPiece name index (threadAll body (index + 1) [⟨index, none⟩])

end ControlFlow
