import ControlFlow.Proofs.Graph.Verify

set_option autoImplicit false

namespace ControlFlow

namespace Graph

-- Of several nodes with one id the last one tells its type.
def HasType (graph : Graph) (id type : String) : Prop :=
  (graph.nodes.filter fun node => node.id = id).getLast?.map Node.type = some type

instance decidableHasType (graph : Graph) (id type : String) : Decidable (graph.HasType id type) :=
  inferInstanceAs (Decidable (_ = _))

def Grouped (graph : Graph) : Prop :=
  ∀ node ∈ graph.nodes, node.type = "function" →
    ∃ name parameters ids returnType location,
      node.form = .function name parameters ids returnType location ∧
        ∀ id ∈ ids, ∃ member ∈ graph.nodes, member.id = id

end Graph

def Node.holding? (node : Node) : Option (String × Finset String) :=
  match node.form with
  | .function name _ ids _ _ => some (name, ids.toFinset)
  | _ => none

namespace Graph

def holdings (graph : Graph) : List (String × Finset String) :=
  match graph.nodes.filter fun node => node.type = "function" with
  | [] => [("<graph>", (graph.nodes.map Node.id).toFinset)]
  | containers => containers.filterMap Node.holding?

def findings (graph : Graph) (name : String) (members : Finset String) : List String :=
  let starts := members.filter (graph.HasType · "start")
  let ends := members.filter (graph.HasType · "end")
  if starts.card = 1 ∧ ends.card = 1 then
    let unreached := members.filter fun id => ∀ start ∈ starts, ¬ Leads graph.pairs start id
    let stuck := members.filter fun id => ∀ stop ∈ ends, ¬ Leads graph.pairs id stop
    unreached.sort.map (fun id => name ++ ": " ++ id ++ " is unreachable from start") ++
      stuck.sort.map (fun id => name ++ ": " ++ id ++ " never reaches end")
  else
    [name ++ ": expected one start and one end, found " ++ toString starts.card ++ " and " ++
      toString ends.card]

end Graph

section

variable {graph : Graph}

theorem lastNode?_eq (id : String) :
    graph.lastNode? id = (graph.nodes.filter fun node => node.id = id).getLast? := by
  rw [List.getLast?_filter]
  rfl

def Graph.typeName (graph : Graph) (id : String) : String :=
  ((graph.lastNode? id).map Node.type).getD ""

theorem type_of_known {id : String} (known : ∃ node ∈ graph.nodes, node.id = id) :
    graph.typeOf id = .ok (graph.typeName id) ∧
      ∀ type, graph.HasType id type ↔ graph.typeName id = type := by
  obtain ⟨node, member, same⟩ := known
  have named : node ∈ graph.nodes.filter fun node => node.id = id :=
    List.mem_filter.mpr ⟨member, decide_eq_true same⟩
  have last := List.getLast?_eq_some_getLast (List.ne_nil_of_mem named)
  refine ⟨?_, fun type => ?_⟩
  · simp only [Graph.typeOf, Graph.typeName, lastNode?_eq, last, Option.map_some, Option.getD_some]
  · simp only [Graph.HasType, Graph.typeName, lastNode?_eq, last, Option.map_some,
      Option.getD_some, Option.some.injEq]

theorem membersOfType_known {members : List String}
    (known : ∀ id ∈ members, ∃ node ∈ graph.nodes, node.id = id) (type : String) :
    Graph.membersOfType type (members.map fun id => (id, graph.typeName id)) =
      members.filter (graph.HasType · type) := by
  have typed : members.filter (graph.HasType · type) =
      members.filter (fun id => graph.typeName id == type) := by
    refine List.filter_congr fun id member => ?_
    rw [Bool.eq_iff_iff, decide_eq_true_iff, beq_iff_eq]
    exact (type_of_known (known id member)).2 type
  simp [Graph.membersOfType, List.filter_map, Function.comp_def, typed]

theorem sort_strays {members : List String} (nodup : members.Nodup) (seen : List String)
    (reached : String → Prop) [DecidablePred reached] (exactly : ∀ id, id ∈ seen ↔ reached id) :
    sortTexts (members.filter fun id => !seen.contains id) =
      (members.toFinset.filter fun id => ¬ reached id).sort := by
  rw [sortTexts_eq_sort (nodup.filter _), List.toFinset_filter]
  congr 1
  refine Finset.filter_congr fun id _ => ?_
  rw [Bool.not_eq_true', ← Bool.not_eq_true, List.contains_iff_mem, exactly]

theorem strayMembers_eq {group : Group} (nodup : group.members.Nodup) (start stop : String) :
    graph.strayMembers group start stop =
      (group.members.toFinset.filter fun id => ¬ Leads graph.pairs start id).sort.map
          (fun id => group.name ++ ": " ++ id ++ " is unreachable from start") ++
        (group.members.toFinset.filter fun id => ¬ Leads graph.pairs id stop).sort.map
          (fun id => group.name ++ ": " ++ id ++ " never reaches end") := by
  have behind (id : String) :
      id ∈ reachable (reversed graph.pairs) stop ↔ Leads graph.pairs id stop := by
    rw [mem_reachable, leads_reversed]
  simp only [Graph.strayMembers]
  rw [sort_strays nodup _ _ (mem_reachable graph.pairs start), sort_strays nodup _ _ behind]

theorem verifyGroup_eq {group : Group} (nodup : group.members.Nodup)
    (known : ∀ id ∈ group.members, ∃ node ∈ graph.nodes, node.id = id) :
    graph.verifyGroup group = .ok (graph.findings group.name group.members.toFinset) := by
  have typed := mapM_ok
    (fun id => do
      let type ← graph.typeOf id
      .ok (id, type))
    (fun id => (id, graph.typeName id)) group.members (by
      intro id member
      rw [(type_of_known (known id member)).1]
      rfl)
  have same (type : String) : group.members.toFinset.filter (graph.HasType · type) =
      (group.members.filter (graph.HasType · type)).toFinset := by
    rw [List.toFinset_filter]
    simp only [decide_eq_true_eq]
  have count (type : String) : (group.members.toFinset.filter (graph.HasType · type)).card =
      (group.members.filter (graph.HasType · type)).length := by
    rw [same, List.toFinset_card_of_nodup (nodup.filter _)]
  rw [Graph.verifyGroup, typed]
  simp only [bind, Except.bind, membersOfType_known known, Graph.findings, count]
  split
  · rename_i start stop starts ends
    have first : group.members.toFinset.filter (graph.HasType · "start") = {start} := by
      rw [same, starts]
      rfl
    have last : group.members.toFinset.filter (graph.HasType · "end") = {stop} := by
      rw [same, ends]
      rfl
    rw [strayMembers_eq nodup, starts, ends, if_pos ⟨rfl, rfl⟩]
    simp only [first, last, Finset.mem_singleton, forall_eq]
  · rename_i several
    rw [if_neg]
    rintro ⟨one, other⟩
    obtain ⟨start, starts⟩ := List.length_eq_one_iff.mp one
    obtain ⟨stop, ends⟩ := List.length_eq_one_iff.mp other
    exact several start stop starts ends

def Group.holding (group : Group) : String × Finset String :=
  (group.name, group.members.toFinset)

theorem toFinset_distinct (ids : List String) : (distinct ids).toFinset = ids.toFinset := by
  ext id
  rw [List.mem_toFinset, List.mem_toFinset, mem_distinct]

def Graph.Sound (graph : Graph) (group : Group) : Prop :=
  group.members.Nodup ∧ ∀ id ∈ group.members, ∃ node ∈ graph.nodes, node.id = id

theorem sound_distinct {name : String} {ids : List String}
    (known : ∀ id ∈ ids, ∃ node ∈ graph.nodes, node.id = id) :
    graph.Sound ⟨name, distinct ids⟩ :=
  ⟨nodup_distinct ids, fun id member => known id ((mem_distinct ids id).mp member)⟩

theorem containers_eq (grouped : graph.Grouped) (containers : List Node)
    (present : ∀ node ∈ containers, node ∈ graph.nodes ∧ node.type = "function") :
    ∃ groups, containers.mapM Node.group = .ok groups ∧
      groups.map Group.holding = containers.filterMap Node.holding? ∧
      ∀ group ∈ groups, graph.Sound group := by
  induction containers with
  | nil => exact ⟨[], rfl, rfl, by simp⟩
  | cons node rest ih =>
    obtain ⟨groups, made, held, sound⟩ :=
      ih fun other member => present other (List.mem_cons_of_mem node member)
    obtain ⟨listed, typed⟩ := present node List.mem_cons_self
    obtain ⟨name, parameters, ids, returnType, location, form, known⟩ := grouped node listed typed
    have own : node.group = .ok ⟨name, distinct ids⟩ := by simp only [Node.group, form]
    have holding : node.holding? = some (name, ids.toFinset) := by simp only [Node.holding?, form]
    refine ⟨⟨name, distinct ids⟩ :: groups, ?_, ?_, ?_⟩
    · rw [List.mapM_cons, own, made]
      rfl
    · rw [List.map_cons, held, List.filterMap_cons_some holding, Group.holding, toFinset_distinct]
    · rw [List.forall_mem_cons]
      exact ⟨sound_distinct known, sound⟩

theorem groups_eq (grouped : graph.Grouped) :
    ∃ groups, graph.groups = .ok groups ∧ groups.map Group.holding = graph.holdings ∧
      ∀ group ∈ groups, graph.Sound group := by
  have same : graph.nodesOfType ["function"] =
      graph.nodes.filter fun node => node.type = "function" := by
    rw [nodesOfType_singleton]
    exact List.filter_congr fun node _ => beq_eq_decide _ _
  rw [Graph.groups, Graph.holdings, ← same]
  cases listed : graph.nodesOfType ["function"] with
  | nil =>
    refine ⟨_, rfl, ?_, ?_⟩
    · rw [List.map_singleton, Group.holding, toFinset_distinct]
    · rw [List.forall_mem_singleton]
      exact sound_distinct fun id member => List.mem_map.mp member
  | cons first rest =>
    refine containers_eq grouped (first :: rest) ?_
    intro node member
    rw [← listed, same, List.mem_filter, decide_eq_true_iff] at member
    exact member

theorem verify_finds_exactly (graph : Graph) (grouped : graph.Grouped) :
    graph.verify = .ok (graph.holdings.flatMap fun held => graph.findings held.1 held.2) := by
  obtain ⟨groups, known, held, sound⟩ := groups_eq grouped
  have each := mapM_ok graph.verifyGroup
    (fun group => graph.findings group.holding.1 group.holding.2) groups
    (fun group member => verifyGroup_eq (sound group member).1 (sound group member).2)
  rw [Graph.verify, known]
  simp only [bind, Except.bind, each]
  rw [← held, List.flatMap_map, List.flatMap_def]

end

-- Both functions hold the node that leads nowhere, the second one also a start that is none: a node
-- of the same id comes later.
def tangledGraph : Graph where
  stamp := ⟨"L", "F", 0⟩
  nodes :=
    [⟨"f", "function", .function "f" [] ["a", "node_10", "z", "node_2", "a"] none .unknown⟩,
      ⟨"g", "function", .function "g" [] ["b", "node_2"] none .unknown⟩,
      ⟨"a", "start", .start "a"⟩, ⟨"b", "start", .start "b"⟩, ⟨"z", "end", .finish "z"⟩,
      ⟨"node_2", "expression", .process "2" none .unknown⟩,
      ⟨"node_10", "expression", .process "10" none .unknown⟩,
      ⟨"b", "expression", .process "b" none .unknown⟩]
  edges := [⟨"e", "a", "b", none, "control"⟩, ⟨"e", "b", "z", none, "control"⟩,
    ⟨"e", "z", "ghost", none, "control"⟩, ⟨"e", "ghost", "b", none, "control"⟩]
  entry := none
  diagnostics := []

theorem tangledGraph_grouped : tangledGraph.Grouped := by
  simp [Graph.Grouped, tangledGraph]

theorem tangledGraph_holdings : tangledGraph.holdings =
    [("f", {"a", "node_10", "z", "node_2"}), ("g", {"b", "node_2"})] := by
  decide +kernel

theorem tangledGraph_strays : tangledGraph.findings "f" {"a", "node_10", "z", "node_2"} =
    ["f: node_10 is unreachable from start", "f: node_2 is unreachable from start",
      "f: node_10 never reaches end", "f: node_2 never reaches end"] := by
  have lost : ∀ set : Finset String, set = ["node_10", "node_2"].toFinset →
      set.sort = ["node_10", "node_2"] := by
    rintro _ rfl
    exact sort_toFinset (by decide +kernel)
  simp only [Graph.findings]
  rw [if_pos (by decide +kernel), lost _ (by decide +kernel), lost _ (by decide +kernel)]
  rfl

theorem verify_finds_exactly_tangled :
    tangledGraph.Grouped ∧ tangledGraph.verify = .ok
      ["f: node_10 is unreachable from start", "f: node_2 is unreachable from start",
        "f: node_10 never reaches end", "f: node_2 never reaches end",
        "g: expected one start and one end, found 0 and 0"] := by
  have missing : tangledGraph.findings "g" {"b", "node_2"} =
      ["g: expected one start and one end, found 0 and 0"] := by
    rw [Graph.findings, if_neg (by decide +kernel)]
    decide +kernel
  refine ⟨tangledGraph_grouped, ?_⟩
  rw [verify_finds_exactly tangledGraph tangledGraph_grouped, tangledGraph_holdings,
    List.flatMap_cons, List.flatMap_singleton, tangledGraph_strays, missing]
  rfl

end ControlFlow
