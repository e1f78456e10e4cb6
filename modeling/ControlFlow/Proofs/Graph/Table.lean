import ControlFlow.Proofs.Graph.Layout
import ControlFlow.Proofs.Graph.Numbering

set_option autoImplicit false

namespace ControlFlow

structure Table where
  slots : List (String × Option Node)
  arcs : List Arc
  diagnostics : List String

namespace Table

def empty : Table := ⟨[], [], []⟩

def size (table : Table) : Nat := table.slots.length

-- The number of a slot is the size of the table before.
def reserve (table : Table) : Table :=
  { table with slots := table.slots ++ [(nodeId table.size, none)] }

def fill (table : Table) (node : Node) : Table :=
  { table with
    slots := table.slots.map fun slot =>
      if slot.1 = node.id then (slot.1, some node) else slot }

-- All that a piece holds, every slot of it filled.
def add (table : Table) (piece : Piece) : Table where
  slots := table.slots ++ piece.nodes.map fun node => (node.id, some node)
  arcs := table.arcs ++ piece.arcs
  diagnostics := table.diagnostics ++ piece.diagnostics

def link (table : Table) (frontier : List Exit) (target : Nat) (label : Option Label) : Table :=
  table.add ⟨[], connect frontier target label, [], []⟩

-- The statement that comes next has its slot, and the arcs that lead to it.
def opened (table : Table) (frontier : List Exit) : Table :=
  table.reserve.link frontier table.size none

def idsSince (table : Table) (mark : Nat) : List String :=
  idRange mark (table.size - mark)

-- Every slot is reserved under the id of its number.
def Numbered (table : Table) : Prop :=
  table.slots.map Prod.fst = idRange 0 table.size

@[simp] theorem size_add (table : Table) (piece : Piece) :
    (table.add piece).size = table.size + piece.nodes.length := by
  simp [add, size]

@[simp] theorem size_reserve (table : Table) : table.reserve.size = table.size + 1 := by
  simp [reserve, size]

@[simp] theorem size_opened (table : Table) (frontier : List Exit) :
    (table.opened frontier).size = table.size + 1 := by
  simp [opened, link]

@[simp] theorem add_empty (table : Table) (exits : List Exit) :
    table.add (emptyPiece exits) = table := by
  simp [add, emptyPiece]

theorem add_append (table : Table) (first second : Piece) :
    (table.add first).add second = table.add (first.append second) := by
  simp [add, Piece.append]

theorem Numbered.reserve {table : Table} (numbered : table.Numbered) : table.reserve.Numbered := by
  rw [Numbered, size_reserve, idRange_add, idRange_one, Nat.zero_add, ← numbered]
  simp [Table.reserve]

theorem Numbered.add {table : Table} (numbered : table.Numbered) {piece : Piece}
    (ids : piece.nodes.map Node.id = idRange table.size piece.nodes.length) :
    (table.add piece).Numbered := by
  rw [Numbered, size_add, idRange_add, Nat.zero_add, ← numbered, ← ids]
  simp [Table.add, Function.comp_def]

theorem Numbered.opened {table : Table} (numbered : table.Numbered) (frontier : List Exit) :
    (table.opened frontier).Numbered :=
  numbered.reserve.add rfl

theorem fill_of_absent (slots : List (String × Option Node)) (node : Node)
    (absent : node.id ∉ slots.map Prod.fst) :
    slots.map (fun slot => if slot.1 = node.id then (slot.1, some node) else slot) = slots := by
  rw [List.map_congr_left (g := id), List.map_id]
  intro slot member
  have other : slot.1 ≠ node.id := fun same => absent (same ▸ List.mem_map_of_mem member)
  simp [other]

-- Of all slots only the reserved one has the id of the node: those before and after it have lower
-- and higher numbers.
theorem fill_reserved {table : Table} (numbered : table.Numbered) {piece : Piece} {node : Node}
    (own : node.id = nodeId table.size)
    (ids : piece.nodes.map Node.id = idRange (table.size + 1) piece.nodes.length) :
    (table.reserve.add piece).fill node =
      table.add { piece with nodes := node :: piece.nodes } := by
  have before : node.id ∉ table.slots.map Prod.fst := by
    rw [numbered, own, mem_idRange]
    omega
  have after : node.id ∉ (piece.nodes.map fun inner => (inner.id, some inner)).map Prod.fst := by
    rw [List.map_map, Function.comp_def]
    simp only
    rw [ids, own, mem_idRange]
    omega
  simp only [fill, Table.add, Table.reserve, List.map_append]
  rw [fill_of_absent _ _ before, fill_of_absent _ _ after]
  simp [own]

-- The same with the arcs that lead to the node, which were added before the piece.
theorem fill_opened {table : Table} (numbered : table.Numbered) (frontier : List Exit)
    {piece : Piece} {node : Node} (own : node.id = nodeId table.size)
    (ids : piece.nodes.map Node.id = idRange (table.size + 1) piece.nodes.length) :
    ((table.opened frontier).add piece).fill node =
      table.add { piece with
        nodes := node :: piece.nodes
        arcs := connect frontier table.size none ++ piece.arcs } := by
  rw [opened, link, add_append]
  exact fill_reserved numbered own ids

theorem fill_single {table : Table} (numbered : table.Numbered) (node : Node)
    (own : node.id = nodeId table.size) :
    table.reserve.fill node = table.add ⟨[node], [], [], []⟩ := by
  rw [← add_empty table.reserve [], fill_reserved numbered own rfl]
  rfl

end Table

theorem thread_ids (statement : Statement) (index : Nat) (frontier : List Exit) :
    (thread statement index frontier).nodes.map Node.id =
      idRange index (thread statement index frontier).nodes.length := by
  rw [thread_nodes_length, node_ids.1]

theorem threadAll_ids (block : List Statement) (index : Nat) (frontier : List Exit) :
    (threadAll block index frontier).nodes.map Node.id =
      idRange index (threadAll block index frontier).nodes.length := by
  rw [threadAll_nodes_length, node_ids.2]

end ControlFlow
