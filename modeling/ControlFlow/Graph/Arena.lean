import ControlFlow.Graph.Build

set_option autoImplicit false

namespace ControlFlow

structure Arena where
  slots : List (Option Node)
  -- A later entry hides an earlier one of the same id.
  index : List (String × Nat)
  edges : List Edge
  edgeCount : Nat
  diagnostics : List String

-- Work on an arena. What was done before a failure stays done.
abbrev Making := EStateM Failure Arena

namespace Arena

def empty : Arena := ⟨[], [], [], 0, []⟩

def nodes (arena : Arena) : List Node :=
  arena.slots.filterMap id

def clear : Making Unit :=
  set empty

def size : Making Nat := do
  return (← get).slots.length

def reserve : Making Nat := do
  let arena ← get
  let index := arena.slots.length
  set { arena with
    slots := arena.slots ++ [none]
    index := (nodeId index, index) :: arena.index }
  return index

def emit (node : Node) : Making Unit := do
  let arena ← get
  match arena.index.lookup node.id with
  | some position => set { arena with slots := arena.slots.set position (some node) }
  | none => throw (.unknownKey node.id)

def idsSince (mark : Nat) : Making (List String) := do
  return idRange mark ((← get).slots.length - mark)

def addEdge (arc : Arc) : Making Unit :=
  modify fun arena =>
    { arena with
      edges := arena.edges ++ [arc.toEdge arena.edgeCount]
      edgeCount := arena.edgeCount + 1 }

def addEdges : List Arc → Making Unit
  | [] => return
  | arc :: rest => do
      addEdge arc
      addEdges rest

def report (message : String) : Making Unit :=
  modify fun arena => { arena with diagnostics := arena.diagnostics ++ [message] }

def process (frontier : List Exit) (type label : String) (details : Option String)
    (location : Location) : Making (List Exit) := do
  let index ← reserve
  addEdges (connect frontier index none)
  emit ⟨nodeId index, type, .process label details location⟩
  return [⟨index, none⟩]

def placeholder (frontier : List Exit) (kind : String) (location : Location) :
    Making (List Exit) := do
  let index ← reserve
  report (placeholderMessage kind index)
  addEdges (connect frontier index none)
  emit ⟨nodeId index, "expression",
    .process ("<" ++ kind ++ ">") (some "unsupported") location⟩
  return [⟨index, none⟩]

def sides {α : Type} (frontier : List Exit) (condition : String) (location : Location)
    (yes no : List Exit → Making α) : Making (α × α) := do
  let index ← reserve
  addEdges (connect frontier index none)
  let mark ← size
  let ofYes ← yes [⟨index, some .yes⟩]
  let yesIds ← idsSince mark
  let mark ← size
  let ofNo ← no [⟨index, some .no⟩]
  let noIds ← idsSince mark
  emit ⟨nodeId index, "if",
    .control (some condition) [("then", yesIds), ("else", noIds)] location⟩
  return (ofYes, ofNo)

def around {α : Type} (exitsOf : α → List Exit) (frontier : List Exit) (type : String)
    (condition : Option String) (entering : Label) (location : Location)
    (body : List Exit → Making α) : Making (Nat × α) := do
  let index ← reserve
  addEdges (connect frontier index none)
  let mark ← size
  let ofBody ← body [⟨index, some entering⟩]
  let ids ← idsSince mark
  -- A body without nodes has no way back.
  addEdges (if ids.isEmpty then [] else connect (exitsOf ofBody) index (some .again))
  emit ⟨nodeId index, type, .control condition [("body", ids)] location⟩
  return (index, ofBody)

def branch (frontier : List Exit) (condition : String) (location : Location)
    (yes no : List Exit → Making (List Exit)) : Making (List Exit) := do
  let (yesExits, noExits) ← sides frontier condition location yes no
  return mergeExits yesExits noExits

def loop (frontier : List Exit) (type : String) (condition : Option String)
    (entering leaving : Label) (location : Location) (body : List Exit → Making (List Exit)) :
    Making (List Exit) := do
  let (index, _) ← around id frontier type condition entering location body
  return [⟨index, some leaving⟩]

def making : Handling (List Exit → Making (List Exit)) where
  process _ type label details location frontier := process frontier type label details location
  placeholder _ kind location frontier := placeholder frontier kind location
  branch _ condition location yes no frontier := branch frontier condition location yes no
  loop _ type condition entering leaving location body frontier :=
    loop frontier type condition entering leaving location body
  nothing frontier := return frontier
  andThen first rest frontier := do
    let exits ← first frontier
    rest exits

end Arena

def Statement.make (statement : Statement) : List Exit → Making (List Exit) :=
  statement.handle Arena.making

def makeAll (block : List Statement) : List Exit → Making (List Exit) :=
  handleAll Arena.making block

def BodyItem.make : BodyItem → List Exit → Making (List Exit)
  | .loaded statement, frontier => statement.make frontier
  | .foreign value, frontier => Arena.placeholder frontier value.kind.name .unknown

def makeItems : List BodyItem → List Exit → Making (List Exit)
  | [], frontier => return frontier
  | item :: rest, frontier => do
      let exits ← item.make frontier
      makeItems rest exits

namespace Arena

/-- Makes a start, a body and an end, and gives the number of the start. The name is shown only when
the start has its slot. -/
def function (name : Except Failure String) (body : List Exit → Making (List Exit)) :
    Making Nat := do
  let start ← reserve
  let name ← liftExcept name
  emit ⟨nodeId start, "start", .start ("Start: " ++ name)⟩
  let exits ← body [⟨start, none⟩]
  let last ← reserve
  emit ⟨nodeId last, "end", .finish ("End: " ++ name)⟩
  addEdges (connect exits last none)
  return start

def container (decl : FunctionDecl) : Making Nat := do
  let holder ← reserve
  let mark ← size
  let start ← function (.ok decl.name) (makeAll decl.body)
  let ids ← idsSince mark
  emit ⟨nodeId holder, "function",
    .function decl.name (decl.parameters.map Parameter.render) ids decl.returnType decl.location⟩
  return start

-- The entry is the first start.
def containers : List FunctionDecl → Option Nat → Making (Option Nat)
  | [], entry => return entry
  | decl :: rest, entry => do
      let start ← container decl
      containers rest (entry.or (some start))

-- The graph that the arena holds. The clock is looked at when all else is done.
def graph (metadata : Metadata) (entry : Option Nat) (clock : Moment) : Making Graph := do
  let timestamp ← liftExcept clock.milliseconds
  let arena ← get
  return ⟨metadata.stamp timestamp, arena.nodes, arena.edges, entry.map nodeId, arena.diagnostics⟩

def buildFunction (name : Except Failure String) (body : List Exit → Making (List Exit))
    (metadata : Metadata) (clock : Moment) : Making Graph := do
  let start ← function name body
  graph metadata (some start) clock

/-- Makes the graph of a function given by its name and body as they stand on the wire. Metadata is
checked before the arena is cleared, the body after. -/
def build (name body metadata : Json) (clock : Moment) : Making Graph := do
  let metadata ← liftExcept (Metadata.load metadata)
  clear
  let items ← liftExcept (bodyOfJson body)
  buildFunction name.text (makeItems items) metadata clock

def select (program : Program) (metadata : Metadata) (selection : Selection) (clock : Moment) :
    Making Graph :=
  match selection with
  | .every => do
      clear
      let entry ← containers program.functions none
      graph metadata entry clock
  | .first =>
      match program.functions with
      | [] => throw (.noFunctions metadata.file)
      | decl :: _ => do
          clear
          buildFunction (.ok decl.name) (makeAll decl.body) metadata clock
  | .named name =>
      match program.findFunction name with
      | none => throw (.functionNotFound name metadata.file)
      | some decl => do
          clear
          buildFunction (.ok decl.name) (makeAll decl.body) metadata clock
  | .unnamed shown => do
      let name ← liftExcept shown
      throw (.functionNotFound name metadata.file)

/-- Makes the graph of a selection of a program's functions. All checks come before the arena is
cleared. -/
def transform (program : Except Failure Program) (metadata : Json) (selection : Selection)
    (clock : Moment) : Making Graph := do
  let program ← liftExcept program
  let metadata ← liftExcept (Metadata.load metadata)
  select program metadata selection clock

end Arena

end ControlFlow
