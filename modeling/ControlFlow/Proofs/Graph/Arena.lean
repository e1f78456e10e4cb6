import ControlFlow.Graph.Arena
import ControlFlow.Proofs.Graph.Preorder
import ControlFlow.Proofs.Graph.Successor
import ControlFlow.Proofs.Graph.Table
import ControlFlow.Proofs.Wire.Body

set_option autoImplicit false

namespace ControlFlow

/-! Arenas that hold a table -/

def slotIndex : Nat → List (String × Nat)
  | 0 => []
  | count + 1 => (nodeId count, count) :: slotIndex count

theorem lookup_slotIndex (count : Nat) (id : String) (position : Nat) :
    (slotIndex count).lookup id = some position ↔ position < count ∧ id = nodeId position := by
  induction count with
  | zero => simp [slotIndex]
  | succ count ih =>
    by_cases last : id = nodeId count
    · have own : nodeId count = nodeId position ↔ count = position := nodeId_injective.eq_iff
      simp only [slotIndex, last, List.lookup_cons, beq_self_eq_true, Option.some.injEq, own]
      omega
    · have other : (id == nodeId count) = false := by simpa using last
      have elsewhere : id = nodeId position → position ≠ count := fun same equal =>
        last (equal ▸ same)
      simp only [slotIndex, List.lookup_cons, other, ih]
      constructor
      · rintro ⟨small, same⟩
        exact ⟨by omega, same⟩
      · rintro ⟨small, same⟩
        exact ⟨by have := elsewhere same; omega, same⟩

namespace Arena

/-- The counter counts the edges, the index leads every id to its slot, and no slot is open. -/
structure Consistent (arena : Arena) : Prop where
  counted : arena.edgeCount = arena.edges.length
  indexed : ∀ id position, arena.index.lookup id = some position ↔
    position < arena.slots.length ∧ id = nodeId position
  filled : none ∉ arena.slots

def ofTable (table : Table) : Arena where
  slots := table.slots.map Prod.snd
  index := slotIndex table.size
  edges := edgesOf table.arcs
  edgeCount := table.arcs.length
  diagnostics := table.diagnostics

section

variable {table : Table}

theorem reserve_run (table : Table) :
    reserve.run (ofTable table) = .ok table.size (ofTable table.reserve) := by
  simp only [reserve, EStateM.run_bind, EStateM.run_get, EStateM.run_set, EStateM.run_pure]
  simp [ofTable, Table.reserve, Table.size, slotIndex]

theorem size_run (table : Table) : size.run (ofTable table) = .ok table.size (ofTable table) := by
  simp only [size, EStateM.run_bind, EStateM.run_get, EStateM.run_pure]
  simp [ofTable, Table.size]

theorem idsSince_run (table : Table) (mark : Nat) :
    (idsSince mark).run (ofTable table) = .ok (table.idsSince mark) (ofTable table) := by
  simp only [idsSince, EStateM.run_bind, EStateM.run_get, EStateM.run_pure]
  simp [ofTable, Table.idsSince, Table.size]

theorem report_run (table : Table) (message : String) :
    (report message).run (ofTable table) =
      .ok () (ofTable (table.add ⟨[], [], [], [message]⟩)) := by
  simp [report, ofTable, Table.add, Table.size]

theorem edgesOf_concat (arcs : List Arc) (arc : Arc) :
    edgesOf (arcs ++ [arc]) = edgesOf arcs ++ [arc.toEdge arcs.length] := by
  simp [edgesOf, List.mapIdx_append]

theorem addEdges_run (table : Table) (arcs : List Arc) :
    (addEdges arcs).run (ofTable table) = .ok () (ofTable (table.add ⟨[], arcs, [], []⟩)) := by
  induction arcs generalizing table with
  | nil => simp [addEdges, Table.add]
  | cons arc rest ih =>
    have first : (addEdge arc).run (ofTable table) =
        .ok () (ofTable (table.add ⟨[], [arc], [], []⟩)) := by
      simp [addEdge, ofTable, edgesOf_concat, Table.add, Table.size]
    simp only [addEdges, EStateM.run_bind, first, ih, Table.add_append]
    rfl

theorem link_run (table : Table) (frontier : List Exit) (target : Nat) (label : Option Label) :
    (addEdges (connect frontier target label)).run (ofTable table) =
      .ok () (ofTable (table.link frontier target label)) :=
  addEdges_run table (connect frontier target label)

theorem open_run {β : Type} (table : Table) (frontier : List Exit) (next : Nat → Making β) :
    (do
        let index ← reserve
        addEdges (connect frontier index none)
        next index).run (ofTable table) =
      (next table.size).run (ofTable (table.opened frontier)) := by
  simp only [EStateM.run_bind, reserve_run, link_run]
  rfl

-- Every slot of a numbered table stands where its id says, so filling by id and filling by position
-- are the same.
theorem fill_slots (numbered : table.Numbered) {node : Node} {position : Nat}
    (own : node.id = nodeId position) :
    (table.fill node).slots.map Prod.snd =
      (table.slots.map Prod.snd).set position (some node) := by
  apply List.ext_getElem
  · simp [Table.fill]
  · intro place inside _
    have here : place < table.slots.length := by simpa [Table.fill] using inside
    have name : table.slots[place].1 = nodeId place := by
      have names := congrArg (fun ids => ids[place]?) numbered
      simpa [here, idRange, Table.size] using names
    by_cases same : place = position
    · subst same
      simp [Table.fill, name, own]
    · have apart : nodeId place ≠ nodeId position := fun equal => same (nodeId_injective equal)
      simp [Table.fill, name, own, apart, Ne.symm same]

theorem emit_run (numbered : table.Numbered) (node : Node) {position : Nat}
    (own : node.id = nodeId position) (reserved : position < table.size) :
    (emit node).run (ofTable table) = .ok () (ofTable (table.fill node)) := by
  have found : (ofTable table).index.lookup node.id = some position :=
    (lookup_slotIndex table.size node.id position).mpr ⟨reserved, own⟩
  have sized : (table.fill node).size = table.size := by simp [Table.fill, Table.size]
  simp only [emit, EStateM.run_bind, EStateM.run_get, found, EStateM.run_set]
  simp only [ofTable, fill_slots numbered own, sized]
  rfl

/-! Statements -/

theorem process_run (numbered : table.Numbered) (frontier : List Exit) (type label : String)
    (details : Option String) (location : Location) :
    (process frontier type label details location).run (ofTable table) =
      .ok [⟨table.size, none⟩] (ofTable (table.add
        (processPiece table.size frontier type label details location []))) := by
  have filled := emit_run (numbered.opened frontier)
    ⟨nodeId table.size, type, .process label details location⟩ rfl (by simp)
  rw [← Table.add_empty (table.opened frontier) [], Table.fill_opened numbered frontier rfl rfl,
    Table.add_empty] at filled
  rw [process, open_run]
  simp only [EStateM.run_bind, filled, EStateM.run_pure]
  simp [emptyPiece, processPiece, Table.add]

theorem placeholder_run (numbered : table.Numbered) (frontier : List Exit) (kind : String)
    (location : Location) :
    (placeholder frontier kind location).run (ofTable table) =
      .ok [⟨table.size, none⟩] (ofTable (table.add
        (placeholderPiece table.size frontier kind location))) := by
  let reported : Piece :=
    ⟨[], connect frontier table.size none, [], [placeholderMessage kind table.size]⟩
  have linked : (table.reserve.add ⟨[], [], [], [placeholderMessage kind table.size]⟩).link frontier
      table.size none = table.reserve.add reported := by
    rw [Table.link, Table.add_append]
    rfl
  have filled := emit_run (numbered.reserve.add rfl : (table.reserve.add reported).Numbered)
    ⟨nodeId table.size, "expression",
      .process ("<" ++ kind ++ ">") (some "unsupported") location⟩ rfl (by simp [reported])
  rw [Table.fill_reserved numbered rfl rfl] at filled
  simp only [placeholder, EStateM.run_bind, reserve_run, report_run, link_run, linked, filled,
    EStateM.run_pure]
  rfl

section

variable {α : Type} {yes no body : Piece}

theorem sides_run (numbered : table.Numbered) (frontier : List Exit) (condition : String)
    (location : Location) {yesWork noWork : List Exit → Making α} {ofYes ofNo : α}
    (yesIds : yes.nodes.map Node.id = idRange (table.size + 1) yes.nodes.length)
    (noIds : no.nodes.map Node.id =
      idRange (table.size + 1 + yes.nodes.length) no.nodes.length)
    (yesRun : (yesWork [⟨table.size, some .yes⟩]).run (ofTable (table.opened frontier)) =
      .ok ofYes (ofTable ((table.opened frontier).add yes)))
    (noRun : (noWork [⟨table.size, some .no⟩]).run (ofTable ((table.opened frontier).add yes)) =
      .ok ofNo (ofTable (((table.opened frontier).add yes).add no))) :
    (sides frontier condition location yesWork noWork).run (ofTable table) =
      .ok (ofYes, ofNo)
        (ofTable (table.add (branchPiece table.size frontier condition location yes no))) := by
  have ids : (yes.append no).nodes.map Node.id =
      idRange (table.size + 1) (yes.append no).nodes.length := by
    simp only [Piece.append, List.map_append, List.length_append, yesIds, noIds, idRange_add]
  have inner : ((table.opened frontier).add (yes.append no)).Numbered :=
    (numbered.opened frontier).add (by rw [ids, Table.size_opened])
  have filled := emit_run inner ⟨nodeId table.size, "if",
    .control (some condition)
      [("then", idRange (table.size + 1) yes.nodes.length),
       ("else", idRange (table.size + 1 + yes.nodes.length) no.nodes.length)] location⟩ rfl
    (by rw [Table.size_add, Table.size_opened]; omega)
  rw [Table.fill_opened numbered frontier rfl ids, ← Table.add_append] at filled
  have yesListed : ((table.opened frontier).add yes).idsSince (table.size + 1) =
      idRange (table.size + 1) yes.nodes.length := by
    simp [Table.idsSince]
  have noListed : (((table.opened frontier).add yes).add no).idsSince
      (table.size + 1 + yes.nodes.length) =
        idRange (table.size + 1 + yes.nodes.length) no.nodes.length := by
    simp [Table.idsSince]
  rw [sides, open_run]
  simp only [EStateM.run_bind, size_run, yesRun, idsSince_run, noRun, Table.size_opened,
    Table.size_add, yesListed, noListed, filled, EStateM.run_pure]
  simp [branchPiece, Piece.append, Table.add]

theorem around_run (numbered : table.Numbered) (exitsOf : α → List Exit) (frontier : List Exit)
    (type : String) (condition : Option String) (entering leaving : Label) (location : Location)
    {work : List Exit → Making α} {ofBody : α}
    (ids : body.nodes.map Node.id = idRange (table.size + 1) body.nodes.length)
    (ran : (work [⟨table.size, some entering⟩]).run (ofTable (table.opened frontier)) =
      .ok ofBody (ofTable ((table.opened frontier).add body)))
    (exits : exitsOf ofBody = body.exits) :
    (around exitsOf frontier type condition entering location work).run (ofTable table) =
      .ok (table.size, ofBody) (ofTable (table.add
        (loopPiece table.size frontier type condition leaving location body))) := by
  have listed : ((table.opened frontier).add body).idsSince (table.size + 1) =
      idRange (table.size + 1) body.nodes.length := by
    simp [Table.idsSince]
  let back : Piece := ⟨[], if (idRange (table.size + 1) body.nodes.length).isEmpty then [] else
    connect body.exits table.size (some .again), [], []⟩
  have closedIds : (body.append back).nodes.map Node.id =
      idRange (table.size + 1) (body.append back).nodes.length := by
    simpa [Piece.append, back] using ids
  have inner : ((table.opened frontier).add (body.append back)).Numbered :=
    (numbered.opened frontier).add (by rw [closedIds, Table.size_opened])
  have filled := emit_run inner ⟨nodeId table.size, type,
    .control condition [("body", idRange (table.size + 1) body.nodes.length)] location⟩ rfl
    (by rw [Table.size_add, Table.size_opened]; omega)
  rw [Table.fill_opened numbered frontier rfl closedIds] at filled
  rw [around, open_run]
  simp only [EStateM.run_bind, size_run, ran, idsSince_run, Table.size_opened, listed, exits,
    addEdges_run, Table.add_append, back, filled, EStateM.run_pure]
  simp [loopPiece, Piece.append, idRange, Table.add]

theorem branch_run (numbered : table.Numbered) (frontier : List Exit) (condition : String)
    (location : Location) {yesWork noWork : List Exit → Making (List Exit)}
    (yesIds : yes.nodes.map Node.id = idRange (table.size + 1) yes.nodes.length)
    (noIds : no.nodes.map Node.id =
      idRange (table.size + 1 + yes.nodes.length) no.nodes.length)
    (yesRun : (yesWork [⟨table.size, some .yes⟩]).run (ofTable (table.opened frontier)) =
      .ok yes.exits (ofTable ((table.opened frontier).add yes)))
    (noRun : (noWork [⟨table.size, some .no⟩]).run (ofTable ((table.opened frontier).add yes)) =
      .ok no.exits (ofTable (((table.opened frontier).add yes).add no))) :
    (branch frontier condition location yesWork noWork).run (ofTable table) =
      .ok (mergeExits yes.exits no.exits)
        (ofTable (table.add (branchPiece table.size frontier condition location yes no))) := by
  have made := sides_run numbered frontier condition location yesIds noIds yesRun noRun
  simp only [branch, EStateM.run_bind, made, EStateM.run_pure]

theorem loop_run (numbered : table.Numbered) (frontier : List Exit) (type : String)
    (condition : Option String) (entering leaving : Label) (location : Location)
    {work : List Exit → Making (List Exit)}
    (ids : body.nodes.map Node.id = idRange (table.size + 1) body.nodes.length)
    (ran : (work [⟨table.size, some entering⟩]).run (ofTable (table.opened frontier)) =
      .ok body.exits (ofTable ((table.opened frontier).add body))) :
    (loop frontier type condition entering leaving location work).run (ofTable table) =
      .ok [⟨table.size, some leaving⟩] (ofTable (table.add
        (loopPiece table.size frontier type condition leaving location body))) := by
  have made := around_run numbered id frontier type condition entering leaving location ids ran rfl
  simp only [loop, EStateM.run_bind, made, EStateM.run_pure]

end

end

end Arena

/-! Statements made in place -/

theorem makeAll_cons (statement : Statement) (rest : List Statement) (frontier : List Exit) :
    makeAll (statement :: rest) frontier = statement.make frontier >>= makeAll rest := by
  rw [makeAll, handleAll_cons]
  rfl

theorem make_run :
    (∀ (statement : Statement) (frontier : List Exit) (table : Table), table.Numbered →
      (statement.make frontier).run (.ofTable table) =
        .ok (thread statement table.size frontier).exits
          (.ofTable (table.add (thread statement table.size frontier)))) ∧
    ∀ (block : List Statement) (frontier : List Exit) (table : Table), table.Numbered →
      (makeAll block frontier).run (.ofTable table) =
        .ok (threadAll block table.size frontier).exits
          (.ofTable (table.add (threadAll block table.size frontier))) := by
  apply flow_induction
  · intro statement flow frontier table numbered
    rcases handle_leaf flow with ⟨type, label, details, location, -, handled⟩ |
      ⟨kind, location, handled⟩
    · rw [Statement.make, thread, handled, handled]
      exact Arena.process_run numbered frontier type label details location
    · rw [Statement.make, thread, handled, handled]
      exact Arena.placeholder_run numbered frontier kind location
  · intro statement yes no flow yesCorrect noCorrect frontier table numbered
    obtain ⟨condition, location, handled⟩ := handle_branch flow
    have opened := numbered.opened frontier
    have yesRun := yesCorrect [⟨table.size, some .yes⟩] _ opened
    have noRun := noCorrect [⟨table.size, some .no⟩] _
      (opened.add (threadAll_ids yes _ [⟨table.size, some .yes⟩]))
    rw [Table.size_add] at noRun
    rw [Table.size_opened] at yesRun noRun
    rw [Statement.make, thread, handled, handled]
    exact Arena.branch_run numbered frontier condition location (threadAll_ids yes _ _)
      (threadAll_ids no _ _) yesRun noRun
  · intro statement inward outward body flow correct frontier table numbered
    obtain ⟨type, condition, location, -, handled⟩ := handle_loop flow
    have ran := correct [⟨table.size, some inward⟩] _ (numbered.opened frontier)
    rw [Table.size_opened] at ran
    rw [Statement.make, thread, handled, handled]
    exact Arena.loop_run numbered frontier type condition inward outward location
      (threadAll_ids body _ _) ran
  · intro frontier table numbered
    rw [makeAll, handleAll_nil, threadAll_nil, Table.add_empty]
    rfl
  · intro statement rest first others frontier table numbered
    have next := others (thread statement table.size frontier).exits _
      (numbered.add (thread_ids statement _ frontier))
    rw [Table.size_add, Table.add_append] at next
    rw [makeAll_cons, threadAll_cons, EStateM.run_bind, first frontier table numbered]
    exact next

theorem BodyItem.make_eq (item : BodyItem) (frontier : List Exit) :
    item.make frontier = item.statement.make frontier := by
  cases item with
  | loaded statement => rfl
  | foreign value =>
    rw [BodyItem.make, BodyItem.statement, Statement.make, Statement.handle, placeholderKind_name]
    rfl

theorem makeItems_eq (items : List BodyItem) :
    makeItems items = makeAll (items.map BodyItem.statement) := by
  funext frontier
  induction items generalizing frontier with
  | nil =>
    rw [makeItems, List.map_nil, makeAll, handleAll_nil]
    rfl
  | cons item rest ih =>
    rw [makeItems, List.map_cons, makeAll_cons, item.make_eq, funext ih]

namespace Arena

theorem function_run (name : String) (body : List Statement) {table : Table}
    (numbered : table.Numbered) :
    (function (.ok name) (makeAll body)).run (ofTable table) =
      .ok table.size (ofTable (table.add (threadFunction name body table.size))) := by
  let start : Piece := ⟨[startNode name table.size], [], [], []⟩
  let inner := threadAll body (table.size + 1) [⟨table.size, none⟩]
  have started := emit_run numbered.reserve (startNode name table.size) rfl (by simp)
  rw [Table.fill_single numbered _ rfl] at started
  have begun : (table.add start).Numbered := numbered.add rfl
  have made : (makeAll body [⟨table.size, none⟩]).run (ofTable (table.add start)) =
      .ok inner.exits (ofTable ((table.add start).add inner)) := by
    rw [make_run.2 body _ _ begun, Table.size_add]
    rfl
  have kept : ((table.add start).add inner).Numbered := begun.add (by
    rw [Table.size_add]
    exact threadAll_ids body _ _)
  have ended := emit_run kept.reserve (endNode name ((table.add start).add inner).size) rfl
    (by simp)
  rw [Table.fill_single kept _ rfl] at ended
  simp only [startNode, endNode, start] at started made ended
  simp only [function, liftExcept_ok, pure_bind, EStateM.run_bind, reserve_run, started, made,
    ended, link_run, EStateM.run_pure]
  simp only [Table.link, Table.add_append, Table.size_add]
  simp [threadFunction, functionPiece, Piece.append, Table.add, inner, Nat.add_assoc,
    Nat.add_comm 1]

theorem container_run (decl : FunctionDecl) {table : Table} (numbered : table.Numbered) :
    (container decl).run (ofTable table) =
      .ok (table.size + 1) (ofTable (table.add (containedFunction decl table.size))) := by
  have count := threadFunction_nodes_length decl.name decl.body (table.size + 1)
  have ids := threadFunction_ids decl.name decl.body (table.size + 1)
  rw [← count] at ids
  have made := function_run decl.name decl.body numbered.reserve
  rw [Table.size_reserve] at made
  have held := numbered.reserve.add (by rw [ids, Table.size_reserve])
  have listed : (table.reserve.add (threadFunction decl.name decl.body (table.size + 1))).idsSince
      (table.size + 1) = idRange (table.size + 1) (nodeCounts decl.body + 2) := by
    simp [Table.idsSince, count]
  have filled := emit_run held (functionNode decl table.size) rfl
    (by rw [Table.size_add, Table.size_reserve]; omega)
  rw [Table.fill_reserved numbered rfl ids, functionNode] at filled
  simp only [container, EStateM.run_bind, reserve_run, size_run, Table.size_reserve, made,
    idsSince_run, listed, filled, EStateM.run_pure]
  simp [containedFunction, count]

theorem containers_run (decls : List FunctionDecl) (entry : Option Nat) {table : Table}
    (numbered : table.Numbered) :
    (containers decls entry).run (ofTable table) =
      .ok (entry.or (if decls.isEmpty then none else some (table.size + 1)))
        (ofTable (table.add (containedFunctions decls table.size))) := by
  induction decls generalizing entry table with
  | nil => simp [containers, containedFunctions, emptyPiece, Table.add]
  | cons decl rest ih =>
    have next : (table.add (containedFunction decl table.size)).Numbered := by
      refine numbered.add ?_
      rw [containedFunction_ids, containedFunction_nodes_length]
    simp only [containers, EStateM.run_bind, container_run decl numbered, ih _ next,
      Table.size_add, Table.add_append, containedFunctions]
    cases entry <;> rfl

/-! Graphs made in place -/

def ofGraph (graph : Graph) : Arena where
  slots := graph.nodes.map some
  index := slotIndex graph.nodes.length
  edges := graph.edges
  edgeCount := graph.edges.length
  diagnostics := graph.diagnostics

theorem ofGraph_consistent (graph : Graph) : (ofGraph graph).Consistent where
  counted := rfl
  indexed id position := by simp [ofGraph, lookup_slotIndex]
  filled := by simp [ofGraph]

theorem empty_consistent : empty.Consistent where
  counted := rfl
  indexed id position := by simp [empty]
  filled := by simp [empty]

theorem ofTable_add (stamp : Stamp) (entry : Option String) (piece : Piece) :
    ofTable (Table.empty.add piece) = ofGraph (.ofPiece stamp entry piece) := by
  simp [ofTable, ofGraph, Table.add, Table.empty, Table.size, Graph.ofPiece, edgesOf]

end Arena

def Graph.dated (graph : Graph) (timestamp : Int) : Graph :=
  { graph with stamp := { graph.stamp with timestamp := timestamp } }

namespace Arena

-- A graph is made before its moment is known: a clock that cannot be read leaves it in the arena.
def deliver (graph : Graph) (clock : Moment) : EStateM.Result Failure Arena Graph :=
  match clock.milliseconds with
  | .ok timestamp => .ok (graph.dated timestamp) (ofGraph graph)
  | .error failure => .error failure (ofGraph graph)

theorem graph_run (metadata : Metadata) (entry : Option Nat) (piece : Piece) (clock : Moment) :
    (Arena.graph metadata entry clock).run (ofTable (Table.empty.add piece)) =
      deliver (.ofPiece (metadata.stamp 0) (entry.map nodeId) piece) clock := by
  rw [ofTable_add (metadata.stamp 0) (entry.map nodeId) piece]
  have complete : (ofGraph (.ofPiece (metadata.stamp 0) (entry.map nodeId) piece)).nodes =
      piece.nodes := by
    simp [Arena.nodes, ofGraph, Graph.ofPiece]
  rw [Arena.graph, run_liftExcept_bind, deliver]
  cases clock.milliseconds with
  | error failure => rfl
  | ok timestamp =>
    simp only [EStateM.run_bind, EStateM.run_get, EStateM.run_pure, complete]
    rfl

theorem buildFunction_run (name : String) (body : List Statement) (metadata : Metadata)
    (clock : Moment) :
    (buildFunction (.ok name) (makeAll body) metadata clock).run empty =
      deliver (.ofFunction name body (metadata.stamp 0)) clock := by
  have made := function_run name body (show Table.empty.Numbered from rfl)
  change EStateM.run _ empty = _ at made
  simp only [buildFunction, EStateM.run_bind, made, graph_run]
  rfl

theorem run_clear_bind {β : Type} (next : Unit → Making β) (arena : Arena) :
    (clear >>= next).run arena = (next ()).run empty := rfl

def begun : Arena := ⟨[none], [(nodeId 0, 0)], [], 0, []⟩

theorem build_run (name body metadata : Json) (clock : Moment) (arena : Arena) :
    (build name body metadata clock).run arena =
      match Metadata.load metadata, bodyOfJson body, Graph.ofWire name body metadata 0 with
      | .error failure, _, _ => .error failure arena
      | .ok _, .error failure, _ => .error failure empty
      | .ok _, .ok _, .error failure => .error failure begun
      | .ok _, .ok _, .ok graph => deliver graph clock := by
  rw [build, run_liftExcept_bind]
  cases valid : Metadata.load metadata with
  | error failure => rfl
  | ok known =>
    simp only [run_clear_bind, run_liftExcept_bind]
    cases loaded : bodyOfJson body with
    | error failure => rfl
    | ok items =>
      rw [ofWire_loaded loaded, valid, Except.bind]
      cases name.text with
      | error failure => rfl
      | ok text =>
        simp only [makeItems_eq, buildFunction_run]
        rfl

theorem select_run (program : Program) (metadata : Metadata) (selection : Selection)
    (clock : Moment) (arena : Arena) :
    (select program metadata selection clock).run arena =
      match program.graph metadata selection 0 with
      | .error failure => .error failure arena
      | .ok graph => deliver graph clock := by
  cases selection with
  | every =>
    have made := containers_run program.functions none (show Table.empty.Numbered from rfl)
    change EStateM.run _ empty = _ at made
    rw [select, run_clear_bind]
    simp only [EStateM.run_bind, made, graph_run, Program.graph, Graph.ofFunctions]
    cases program.functions <;> rfl
  | first =>
    cases functions : program.functions with
    | nil =>
      simp only [select, functions, Program.graph]
      rfl
    | cons decl rest =>
      simp only [select, functions, Program.graph, run_clear_bind, buildFunction_run]
  | named name =>
    cases found : program.findFunction name with
    | none =>
      simp only [select, found, Program.graph]
      rfl
    | some decl => simp only [select, found, Program.graph, run_clear_bind, buildFunction_run]
  | unnamed shown => cases shown <;> rfl

theorem transform_run (program : Except Failure Program) (metadata : Json) (selection : Selection)
    (clock : Moment) (arena : Arena) :
    (transform program metadata selection clock).run arena =
      match Graph.ofProgram program metadata selection 0 with
      | .error failure => .error failure arena
      | .ok graph => deliver graph clock := by
  rw [transform, run_liftExcept_bind, Graph.ofProgram]
  cases program with
  | error failure => rfl
  | ok program =>
    simp only [run_liftExcept_bind]
    cases Metadata.load metadata with
    | error failure => rfl
    | ok known => exact select_run program known selection clock arena

end Arena

/-! The layout of a function -/

/-- A graph whose nodes are a start, one node for every statement in pre-order, and an end. -/
structure Graph.LaidOut (graph : Graph) (name : String) (body : List Statement) : Prop where
  nodes : graph.nodes = startNode name 0 :: (nodesFrom 1 (blockPreorder body) ++
    [endNode name ((blockPreorder body).length + 1)])
  -- Made in place, every slot that was reserved holds its node.
  made : (Arena.function (.ok name) (makeAll body)).run .empty = .ok 0 (.ofGraph graph)
  nodeIds : graph.nodes.map Node.id = idRange 0 graph.nodes.length
  edgeIds : graph.edges.map Edge.id = (List.range graph.edges.length).map edgeId
  distinct : (graph.nodes.map Node.id ++ graph.edges.map Edge.id).Nodup
  ends : ∀ edge ∈ graph.edges,
    edge.source ∈ graph.nodes.map Node.id ∧ edge.target ∈ graph.nodes.map Node.id

theorem ofFunction_laidOut (name : String) (body : List Statement) (stamp : Stamp) :
    (Graph.ofFunction name body stamp).LaidOut name body := by
  have nodeIds : (Graph.ofFunction name body stamp).nodes.map Node.id =
      idRange 0 (Graph.ofFunction name body stamp).nodes.length := by
    rw [ofFunction_nodes_length, ofFunction_ids]
  have edgeIds := edgesOf_ids (threadFunction name body 0).arcs
  constructor
  case nodes =>
    have nodes := threadFunction_preorder name body 0
    rwa [Nat.zero_add, Nat.add_comm 1] at nodes
  case made =>
    have ran := Arena.function_run name body (show Table.empty.Numbered from rfl)
    rwa [Arena.ofTable_add stamp (some (nodeId 0))] at ran
  case nodeIds => exact nodeIds
  case edgeIds => exact edgeIds
  case distinct =>
    rw [nodeIds, Graph.ofFunction, Graph.ofPiece, edgeIds]
    refine List.nodup_append.mpr
      ⟨idRange_nodup _ _, List.nodup_range.map edgeId_injective, ?_⟩
    intro id ofNode other ofEdge
    obtain ⟨node, -, rfl⟩ := List.mem_map.mp ofNode
    obtain ⟨edge, -, rfl⟩ := List.mem_map.mp ofEdge
    exact nodeId_ne_edgeId node edge
  case ends => exact fun edge => edge_ends

end ControlFlow
