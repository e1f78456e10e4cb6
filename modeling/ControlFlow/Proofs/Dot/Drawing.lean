import ControlFlow.Proofs.Dot.Reading
import ControlFlow.Proofs.Graph.Contents
import ControlFlow.Proofs.Wire.Body

set_option autoImplicit false

namespace ControlFlow.Dot

def shown (text : String) : String :=
  String.ofList (Text.ellipsize labelLimit (Text.firstLine text.toList))

def Shape.ofNode (node : Node) : Shape :=
  ⟨node.id, shown node.label, Dot.style node.type⟩

def Arrow.ofEdge (edge : Edge) : Arrow :=
  ⟨edge.source, edge.target, edge.label.map shown⟩

def bodyNodes (graph : Graph) (function : Node) : List Node :=
  (bodyIds function).filterMap fun id => (graph.node id).toOption

def isListed (graph : Graph) (node : Node) : Bool :=
  graph.nodes.any fun function => function.isFunction && (bodyIds function).contains node.id

def Cluster.ofFunction (graph : Graph) (function : Node) (number : Nat) : Cluster :=
  ⟨number, shown function.label, (bodyNodes graph function).map .ofNode⟩

def Drawing.ofGraph (graph : Graph) (name : String) : Drawing where
  name := shown name
  clusters := (graph.nodes.filter Node.isFunction).zipIdx.map fun entry =>
    .ofFunction graph entry.1 entry.2
  loose := (graph.nodes.filter fun node => !node.isFunction && !isListed graph node).map .ofNode
  arrows := graph.edges.map .ofEdge

def Drawing.declared (drawing : Drawing) : List Shape :=
  drawing.clusters.flatMap Cluster.members ++ drawing.loose

/-! Lines of a graph -/

structure Drawable (graph : Graph) : Prop where
  unique : (graph.nodes.map Node.id).Nodup
  ids : ∀ node ∈ graph.nodes, IsIdentifier node.id
  ends : ∀ edge ∈ graph.edges, IsIdentifier edge.source ∧ IsIdentifier edge.target
  labels : ∀ edge ∈ graph.edges, edge.label ≠ some ""
  listed : ∀ function ∈ graph.nodes, bodyIds function ⊆ graph.nodes.map Node.id

theorem mem_of_node_eq_ok {graph : Graph} {id : String} {node : Node}
    (found : graph.node id = .ok node) : node ∈ graph.nodes ∧ node.id = id := by
  rw [Graph.node] at found
  split at found
  · rename_i first known
    cases found
    exact ⟨List.mem_of_find?_eq_some known, by simpa using List.find?_some known⟩
  · cases found

theorem bodyNodes_subset (graph : Graph) (function : Node) :
    bodyNodes graph function ⊆ graph.nodes := by
  intro node member
  obtain ⟨id, -, found⟩ := List.mem_filterMap.mp member
  cases looked : graph.node id with
  | error failure => simp [looked, Except.toOption] at found
  | ok known =>
    obtain rfl : known = node := by simpa [looked, Except.toOption] using found
    exact (mem_of_node_eq_ok looked).1

theorem bodyNodes_found {graph : Graph} {function : Node}
    (unique : (graph.nodes.map Node.id).Nodup)
    (listed : bodyIds function ⊆ graph.nodes.map Node.id) :
    (bodyIds function).mapM graph.node = .ok (bodyNodes graph function) ∧
      (bodyNodes graph function).map Node.id = bodyIds function := by
  rw [bodyNodes]
  generalize bodyIds function = ids at listed
  induction ids with
  | nil => exact ⟨rfl, rfl⟩
  | cons id rest ih =>
    obtain ⟨present, others⟩ := List.cons_subset.mp listed
    obtain ⟨node, member, rfl⟩ := List.mem_map.mp present
    obtain ⟨found, named⟩ := ih others
    have first : graph.node node.id = .ok node := node_eq_ok unique member
    have looked : (node.id :: rest).filterMap (fun id => (graph.node id).toOption) =
        node :: rest.filterMap fun id => (graph.node id).toOption := by
      rw [List.filterMap_cons, first]
      rfl
    rw [looked, List.mapM_cons, first, found, List.map_cons, named]
    exact ⟨rfl, rfl⟩

theorem inQuotes_shown (text : String) : quoted text = inQuotes (shown text) := by
  rw [quoted, inQuotes, escaped, shown, String.toList_ofList, escape]

theorem nodeLine_eq (indent : String) (node : Node) :
    nodeLine indent node = (Shape.ofNode node).line indent := by
  rw [nodeLine, Shape.line, inQuotes_shown, Shape.ofNode]

theorem edgeLine_eq {edge : Edge} (labelled : edge.label ≠ some "") :
    edgeLine edge = (Arrow.ofEdge edge).line := by
  have kept : edge.label.filter (fun label => !label.isEmpty) = edge.label := by
    cases present : edge.label with
    | none => rfl
    | some label => simpa [present] using labelled
  rw [edgeLine, Arrow.line, kept, Arrow.ofEdge]
  cases edge.label <;> simp [inQuotes_shown]

theorem clusters_eq {graph : Graph} {functions : List Node}
    (contents : ∀ function ∈ functions,
      (bodyIds function).mapM graph.node = .ok (bodyNodes graph function)) (index : Nat) :
    clusters graph index functions =
      .ok ((functions.zipIdx index).flatMap fun entry =>
        (Cluster.ofFunction graph entry.1 entry.2).lines) := by
  induction functions generalizing index with
  | nil => rfl
  | cons function rest ih =>
    have first := contents function List.mem_cons_self
    have more := ih (fun function member => contents function (List.mem_cons_of_mem _ member))
      (index + 1)
    rw [clusters, clusterLines, first, more]
    simp [List.zipIdx_cons, bind, Except.bind, Cluster.ofFunction, Cluster.lines, nodeLine_eq,
      inQuotes_shown]

theorem contains_listed_ids (graph : Graph) (node : Node) :
    ((graph.nodes.filter Node.isFunction).flatMap bodyIds).contains node.id =
      isListed graph node := by
  rw [Bool.eq_iff_iff]
  simp [isListed, and_assoc]

theorem lines_eq {graph : Graph} (drawable : Drawable graph) (name : String) :
    lines graph (escaped (shown name)) = .ok (Drawing.ofGraph graph name).lines := by
  have functions : ∀ function ∈ graph.nodes.filter Node.isFunction,
      (bodyIds function).mapM graph.node = .ok (bodyNodes graph function) :=
    fun function member =>
      (bodyNodes_found drawable.unique (drawable.listed function (List.mem_filter.mp member).1)).1
  have nodes (nodes : List Node) :
      nodes.map (nodeLine "  ") = (nodes.map Shape.ofNode).map (Shape.line "  ") := by
    rw [List.map_map]
    exact List.map_congr_left fun node _ => nodeLine_eq "  " node
  have edges : graph.edges.map edgeLine = (graph.edges.map Arrow.ofEdge).map Arrow.line := by
    rw [List.map_map]
    exact List.map_congr_left fun edge member => edgeLine_eq (drawable.labels edge member)
  simp only [lines, clusters_eq functions, contains_listed_ids, nodes, edges]
  simp only [bind, Except.bind, Drawing.lines, Drawing.ofGraph, List.flatMap_map]

/-! What a graph shows is readable -/

theorem unbroken_shown (text : String) : Unbroken (shown text) :=
  unbroken_ellipsize labelLimit text.toList

theorem style_readable (type : String) :
    style type ≠ "" ∧ (style type).toList.all (· != ']') = true ∧ Unbroken (style type) := by
  unfold style
  split <;> decide

theorem ofNode_readable {node : Node} (plain : IsIdentifier node.id) :
    (Shape.ofNode node).Readable where
  id := plain
  label := unbroken_shown node.label
  styled := (style_readable node.type).1
  style := List.all_eq_true.mp (style_readable node.type).2.1
  unbroken := (style_readable node.type).2.2

theorem ofGraph_readable {graph : Graph} (drawable : Drawable graph) (name : String) :
    (Drawing.ofGraph graph name).Readable where
  name := unbroken_shown name
  clusters := by
    intro cluster member
    obtain ⟨entry, -, rfl⟩ := List.mem_map.mp member
    refine ⟨unbroken_shown _, ?_⟩
    intro shape inside
    obtain ⟨node, listed, rfl⟩ := List.mem_map.mp inside
    exact ofNode_readable (drawable.ids node (bodyNodes_subset graph _ listed))
  loose := by
    intro shape member
    obtain ⟨node, remaining, rfl⟩ := List.mem_map.mp member
    exact ofNode_readable (drawable.ids node (List.mem_filter.mp remaining).1)
  arrows := by
    intro arrow member
    obtain ⟨edge, known, rfl⟩ := List.mem_map.mp member
    refine ⟨(drawable.ends edge known).1, (drawable.ends edge known).2, ?_⟩
    intro label present
    obtain ⟨original, -, rfl⟩ := Option.map_eq_some_iff.mp present
    exact unbroken_shown original

theorem draw_eq {graph : Graph} (drawable : Drawable graph) (name : String) :
    draw graph (.str name) = .ok ("\n".intercalate (Drawing.ofGraph graph name).lines) := by
  have escapedName : escapeValue labelLimit (.str name) = .ok (escaped (shown name)) := by
    rw [escapeValue, escape, escaped, shown, String.toList_ofList]
  simp only [draw, escapedName, bind, Except.bind, lines_eq drawable]

/-! Where nodes are declared -/

/-- Every node that is no function is declared once, inside the cluster of the function that lists
it or, if none does, outside all clusters. -/
structure Drawing.Covers (drawing : Drawing) (graph : Graph) : Prop where
  nodes : drawing.declared = (graph.nodes.filter fun node => !node.isFunction).map .ofNode
  once : (drawing.declared.map Shape.id).Nodup
  clusters : drawing.clusters.map (fun cluster => cluster.members.map Shape.id) =
    (graph.nodes.filter Node.isFunction).map bodyIds
  loose : ∀ node ∈ graph.nodes, node.isFunction = false →
    (node.id ∈ drawing.loose.map Shape.id ↔
      ∀ function ∈ graph.nodes, function.isFunction = true → node.id ∉ bodyIds function)

theorem map_shape_ids (nodes : List Node) :
    (nodes.map Shape.ofNode).map Shape.id = nodes.map Node.id := by
  rw [List.map_map]
  rfl

theorem ofGraph_members (graph : Graph) (name : String) :
    (Drawing.ofGraph graph name).clusters.flatMap Cluster.members =
      (graph.nodes.filter Node.isFunction).flatMap fun function =>
        (bodyNodes graph function).map Shape.ofNode := by
  conv_rhs => rw [← List.zipIdx_map_fst 0 (graph.nodes.filter Node.isFunction), List.flatMap_map]
  rw [Drawing.ofGraph, List.flatMap_map]
  rfl

theorem ofGraph_clusters {graph : Graph} (drawable : Drawable graph) (name : String) :
    (Drawing.ofGraph graph name).clusters.map (fun cluster => cluster.members.map Shape.id) =
      (graph.nodes.filter Node.isFunction).map bodyIds := by
  have each : ∀ entry ∈ (graph.nodes.filter Node.isFunction).zipIdx,
      (Cluster.ofFunction graph entry.1 entry.2).members.map Shape.id = bodyIds entry.1 := by
    intro entry member
    have known := (List.mem_filter.mp (List.fst_mem_of_mem_zipIdx member)).1
    rw [Cluster.ofFunction, map_shape_ids]
    exact (bodyNodes_found drawable.unique (drawable.listed entry.1 known)).2
  rw [Drawing.ofGraph, List.map_map]
  calc
    _ = (graph.nodes.filter Node.isFunction).zipIdx.map (bodyIds ∘ Prod.fst) :=
      List.map_congr_left each
    _ = _ := by rw [← List.map_map, List.zipIdx_map_fst]

theorem mem_ofGraph_loose {graph : Graph} (drawable : Drawable graph) (name : String) {node : Node}
    (member : node ∈ graph.nodes) (plain : node.isFunction = false) :
    node.id ∈ (Drawing.ofGraph graph name).loose.map Shape.id ↔
      ∀ function ∈ graph.nodes, function.isFunction = true → node.id ∉ bodyIds function := by
  have outside : isListed graph node = false ↔
      ∀ function ∈ graph.nodes, function.isFunction = true → node.id ∉ bodyIds function := by
    simp [isListed]
  rw [← outside, Drawing.ofGraph, map_shape_ids, List.mem_map]
  constructor
  · rintro ⟨other, remaining, same⟩
    obtain ⟨known, kept⟩ := List.mem_filter.mp remaining
    obtain rfl := eq_of_same_id drawable.unique known member same
    simpa [plain] using kept
  · intro unlisted
    exact ⟨node, List.mem_filter.mpr ⟨member, by simp [plain, unlisted]⟩, rfl⟩

theorem ofGraph_covers {graph : Graph} (drawable : Drawable graph) (name : String)
    (declared : (Drawing.ofGraph graph name).declared =
      (graph.nodes.filter fun node => !node.isFunction).map .ofNode) :
    (Drawing.ofGraph graph name).Covers graph where
  nodes := declared
  once := by
    rw [declared, map_shape_ids]
    exact drawable.unique.sublist (List.filter_sublist.map Node.id)
  clusters := ofGraph_clusters drawable name
  loose := fun _ member plain => mem_ofGraph_loose drawable name member plain

/-! Graphs that were built -/

theorem nodeId_isIdentifier (index : Nat) : IsIdentifier (nodeId index) := by
  constructor
  · simp [nodeId]
  · intro c member
    rw [nodeId, String.toList_append, List.mem_append] at member
    rcases member with lead | digit
    · exact List.all_eq_true.mp (by decide) c lead
    · simp [isIdentifierChar, Char.isAlphanum, toString_isDigit index c digit]

theorem label_text_ne (label : Label) : label.text ≠ "" := by
  cases label <;> decide

theorem ofPiece_drawable {piece : Piece} {first count : Nat}
    (ids : piece.nodes.map Node.id = idRange first count)
    (listed : ∀ function ∈ piece.nodes, bodyIds function ⊆ piece.nodes.map Node.id) (stamp : Stamp)
    (entry : Option String) : Drawable (.ofPiece stamp entry piece) where
  unique := by
    rw [Graph.ofPiece, ids]
    exact idRange_nodup first count
  ids := by
    intro node member
    have inside : node.id ∈ idRange first count := ids ▸ List.mem_map_of_mem member
    obtain ⟨index, -, same⟩ := List.mem_map.mp inside
    exact same ▸ nodeId_isIdentifier index
  ends := by
    intro edge member
    obtain ⟨index, bound, rfl⟩ := List.mem_mapIdx.mp member
    exact ⟨nodeId_isIdentifier _, nodeId_isIdentifier _⟩
  labels := by
    intro edge member
    obtain ⟨index, bound, rfl⟩ := List.mem_mapIdx.mp member
    intro empty
    obtain ⟨label, -, none⟩ := Option.map_eq_some_iff.mp empty
    exact label_text_ne label none
  listed := listed

theorem bodyIds_eq_nil {node : Node} (plain : node.isFunction = false) : bodyIds node = [] := by
  obtain ⟨id, type, form⟩ := node
  cases form <;> first | rfl | cases plain

section

variable (name : String) (body : List Statement) (functions : List FunctionDecl) (stamp : Stamp)

theorem ofFunction_drawable : Drawable (.ofFunction name body stamp) := by
  apply ofPiece_drawable (threadFunction_ids name body 0)
  intro node member
  rw [bodyIds_eq_nil (threadFunction_plain name body 0 node member)]
  exact List.nil_subset _

theorem ofFunction_declared (title : String) :
    (Drawing.ofGraph (.ofFunction name body stamp) title).declared =
      ((Graph.ofFunction name body stamp).nodes.filter fun node => !node.isFunction).map
        .ofNode := by
  have none : (Graph.ofFunction name body stamp).nodes.filter Node.isFunction = [] := by
    simpa [Graph.ofFunction, Graph.ofPiece] using threadFunction_plain name body 0
  have unlisted (node : Node) : isListed (.ofFunction name body stamp) node = false := by
    rw [← contains_listed_ids, none]
    rfl
  simp [Drawing.declared, Drawing.ofGraph, none, unlisted]

theorem ofFunctions_drawable : Drawable (.ofFunctions functions stamp) := by
  obtain ⟨count, ids⟩ := containedFunctions_ids functions 0
  apply ofPiece_drawable ids
  intro node member
  cases function : node.isFunction with
  | false =>
    rw [bodyIds_eq_nil function]
    exact List.nil_subset _
  | true =>
    have listed : node ∈ (Graph.ofFunctions functions stamp).nodes.filter Node.isFunction :=
      List.mem_filter.mpr ⟨member, function⟩
    rw [ofFunctions_functions] at listed
    obtain ⟨entry, known, rfl⟩ := List.mem_map.mp listed
    have own := (ofFunctions_holds stamp known).nodes
    intro id inside
    rw [functionNode, bodyIds, ← threadFunction_ids entry.1.name] at inside
    obtain ⟨node, inner, rfl⟩ := List.mem_map.mp inside
    exact List.mem_map_of_mem (own node inner)

theorem bodyNodes_functionNode {entry : FunctionDecl × Nat} (known : entry ∈ placed functions 0) :
    bodyNodes (.ofFunctions functions stamp) (functionNode entry.1 entry.2) =
      (threadFunction entry.1.name entry.1.body (entry.2 + 1)).nodes := by
  have drawable := ofFunctions_drawable functions stamp
  have member : functionNode entry.1 entry.2 ∈ (Graph.ofFunctions functions stamp).nodes := by
    rw [ofFunctions_nodes]
    exact List.mem_flatMap.mpr ⟨entry, known, List.mem_cons_self⟩
  have found := (bodyNodes_found drawable.unique (drawable.listed _ member)).1
  exact Except.ok.inj (found.symm.trans (ofFunctions_contents stamp known))

theorem isListed_ofFunctions {node : Node} (member : node ∈ (Graph.ofFunctions functions stamp).nodes)
    (plain : node.isFunction = false) : isListed (.ofFunctions functions stamp) node = true := by
  have other : node ∈ (Graph.ofFunctions functions stamp).nodes.filter
      (fun node => !node.isFunction) := List.mem_filter.mpr ⟨member, by simp [plain]⟩
  rw [ofFunctions_others, List.mem_flatMap] at other
  obtain ⟨entry, known, inside⟩ := other
  have listed : node.id ∈ bodyIds (functionNode entry.1 entry.2) := by
    rw [functionNode, bodyIds, ← threadFunction_ids entry.1.name]
    exact List.mem_map_of_mem inside
  rw [← contains_listed_ids, ofFunctions_functions]
  simp only [List.contains_iff_mem, List.mem_flatMap, List.mem_map]
  exact ⟨_, ⟨entry, known, rfl⟩, listed⟩

theorem ofFunctions_declared (title : String) :
    (Drawing.ofGraph (.ofFunctions functions stamp) title).declared =
      ((Graph.ofFunctions functions stamp).nodes.filter fun node => !node.isFunction).map
        .ofNode := by
  have loose : (Drawing.ofGraph (.ofFunctions functions stamp) title).loose = [] := by
    simp only [Drawing.ofGraph, List.map_eq_nil_iff, List.filter_eq_nil_iff]
    intro node member remaining
    rw [Bool.and_eq_true, Bool.not_eq_true', Bool.not_eq_true'] at remaining
    rw [isListed_ofFunctions functions stamp member remaining.1] at remaining
    exact Bool.noConfusion remaining.2
  have bodies : ∀ entry ∈ placed functions 0,
      (bodyNodes (.ofFunctions functions stamp) (functionNode entry.1 entry.2)).map Shape.ofNode =
        (threadFunction entry.1.name entry.1.body (entry.2 + 1)).nodes.map Shape.ofNode := by
    intro entry known
    rw [bodyNodes_functionNode functions stamp known]
  rw [Drawing.declared, loose, List.append_nil, ofGraph_members, ofFunctions_others,
    ofFunctions_functions, List.flatMap_map, List.map_flatMap]
  exact List.flatMap_congr bodies

end

theorem drawing_reads_back {graph : Graph} (requested : graph.Requested) (name : String) :
    ∃ text, draw graph (.str name) = .ok text ∧
      Drawing.read text = some (.ofGraph graph name) ∧
      (∀ c ∈ text.toList, Text.isLineBreak c = true → c = '\n') ∧
      (Drawing.ofGraph graph name).Covers graph := by
  have both : Drawable graph ∧ (Drawing.ofGraph graph name).declared =
      (graph.nodes.filter fun node => !node.isFunction).map .ofNode := by
    rcases requested.cases with ⟨functions, stamp, rfl⟩ | ⟨function, body, stamp, rfl⟩
    · exact ⟨ofFunctions_drawable functions stamp, ofFunctions_declared functions stamp name⟩
    · exact ⟨ofFunction_drawable function body stamp, ofFunction_declared function body stamp name⟩
  obtain ⟨drawable, declared⟩ := both
  have readable := ofGraph_readable drawable name
  exact ⟨_, draw_eq drawable name, read_lines readable,
    newline_of_break (Drawing.lines_unbroken readable), ofGraph_covers drawable name declared⟩

def quotedProgram : Program :=
  ⟨[.function "say \"hi\\" []
    [.expression "\"];\n\x7d" .unknown, .branch "a -> b" [] none .unknown] none .unknown], none⟩

theorem drawing_reads_back_quotes :
    ∃ graph text, Graph.ofProgram (.ok quotedProgram) noteMetadata .every 0 = .ok graph ∧
      draw graph (.str "\\\"\u2028\n") = .ok text ∧
      Drawing.read text = some
        { name := "\\\""
          clusters := [⟨0, "say \"hi\\()",
            [⟨"node_1", "Start: say \"hi\\", terminal⟩, ⟨"node_2", "\"];", "shape=box"⟩,
             ⟨"node_3", "if a -> b", style "if"⟩, ⟨"node_4", "End: say \"hi\\", terminal⟩]⟩]
          loose := []
          arrows := [⟨"node_1", "node_2", none⟩, ⟨"node_2", "node_3", none⟩,
            ⟨"node_3", "node_4", some "true"⟩, ⟨"node_3", "node_4", some "false"⟩] } := by
  obtain ⟨text, drawn, read, -⟩ :=
    drawing_reads_back (.selection (.ok quotedProgram) noteMetadata .every 0 rfl) "\\\"\u2028\n"
  exact ⟨_, text, rfl, drawn, read.trans (by decide +kernel)⟩

end ControlFlow.Dot
