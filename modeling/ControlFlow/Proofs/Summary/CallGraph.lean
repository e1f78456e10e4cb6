import ControlFlow.Proofs.Reach
import ControlFlow.Summary.CallGraph
import Mathlib.Algebra.GroupWithZero.Nat
import Mathlib.Data.List.Basic

set_option autoImplicit false

namespace ControlFlow

/-! Names -/

section

variable {names : List (String × Callable)} {name : String} {callable : Callable}

theorem any_key_iff :
    names.any (fun entry => entry.1 == name) = true ↔ name ∈ names.map Prod.fst := by
  simp

theorem mention_keys :
    (mention callable names name).map Prod.fst = addNew [] (names.map Prod.fst) name := by
  by_cases known : name ∈ names.map Prod.fst
  · rw [mention, if_pos (any_key_iff.mpr known), addNew_of_mem known]
  · rw [mention, if_neg (mt any_key_iff.mp known), addNew_of_notMem known, List.map_append]
    rfl

theorem mem_mention {entry : String × Callable} (member : entry ∈ mention callable names name) :
    entry ∈ names ∨ entry = (name, callable) ∧ name ∉ names.map Prod.fst := by
  by_cases known : name ∈ names.map Prod.fst
  · rw [mention, if_pos (any_key_iff.mpr known)] at member
    exact .inl member
  · rw [mention, if_neg (mt any_key_iff.mp known), List.mem_append, List.mem_singleton] at member
    exact member.imp_right fun added => ⟨added, known⟩

theorem mem_mentionCall {call : Call} {entry : String × Callable}
    (member : entry ∈ mentionCall names call) :
    entry ∈ names ∨ (entry = (call.callee, .external) ∨ entry = (call.caller, .caller)) ∧
      entry.1 ∉ names.map Prod.fst := by
  rcases mem_mention member with inner | ⟨rfl, fresh⟩
  · rcases mem_mention inner with old | ⟨rfl, fresh⟩
    · exact .inl old
    · exact .inr ⟨.inl rfl, fresh⟩
  · rw [mention_keys, mem_addNew, not_or] at fresh
    exact .inr ⟨.inr rfl, fresh.1⟩

theorem upsert_keys :
    (upsert name callable names).map Prod.fst = addNew [] (names.map Prod.fst) name := by
  induction names with
  | nil => rfl
  | cons entry rest ih =>
    by_cases same : entry.1 = name
    · rw [addNew_of_mem (by simp [same])]
      simp [upsert, same]
    · rw [List.map_cons, addNew_cons_of_ne same, ← ih]
      simp [upsert, same]

end

/-! Edges -/

section

variable {edges : List CallEdge} {call : Call}

theorem countCall_ends :
    (countCall edges call).map CallEdge.ends = addNew [] (edges.map CallEdge.ends) call.ends := by
  induction edges with
  | nil => rfl
  | cons edge rest ih =>
    by_cases same : edge.ends = call.ends
    · rw [addNew_of_mem (by simp [same]), countCall, if_pos same]
      rfl
    · rw [List.map_cons, addNew_cons_of_ne same, ← ih]
      simp [countCall, same]

theorem countCall_total :
    ((countCall edges call).map CallEdge.count).sum = (edges.map CallEdge.count).sum + 1 := by
  induction edges with
  | nil => rfl
  | cons edge rest ih =>
    by_cases same : edge.ends = call.ends
    · simp [countCall, same]
      omega
    · simp [countCall, same, ih]
      omega

-- An edge that has to be new is one that no call had before.
theorem countCall_counts {pairs : List (String × String)}
    (unique : (edges.map CallEdge.ends).Nodup)
    (counts : ∀ edge ∈ edges, edge.count = pairs.count edge.ends)
    (fresh : call.ends ∉ edges.map CallEdge.ends → call.ends ∉ pairs) :
    ∀ edge ∈ countCall edges call, edge.count = (pairs ++ [call.ends]).count edge.ends := by
  have others {edge : CallEdge} (apart : edge.ends ≠ call.ends) :
      (pairs ++ [call.ends]).count edge.ends = pairs.count edge.ends := by
    simp [List.count_append, Ne.symm apart]
  induction edges with
  | nil =>
    have none : pairs.count call.ends = 0 := List.count_eq_zero.mpr (fresh (by simp))
    intro edge member
    rw [countCall, List.mem_singleton] at member
    subst member
    change 1 = (pairs ++ [call.ends]).count call.ends
    simp [List.count_append, none]
  | cons first rest ih =>
    rw [List.map_cons, List.nodup_cons] at unique
    have head := counts first List.mem_cons_self
    have later : ∀ edge ∈ rest, edge.count = pairs.count edge.ends :=
      fun edge member => counts edge (List.mem_cons_of_mem first member)
    by_cases same : first.ends = call.ends
    · intro edge member
      simp only [countCall, same, if_true, List.mem_cons] at member
      rcases member with rfl | inRest
      · change first.count + 1 = (pairs ++ [call.ends]).count first.ends
        simp [List.count_append, head, same]
      · have apart : edge.ends ≠ call.ends := by
          intro equal
          exact unique.1 (same.trans equal.symm ▸ List.mem_map_of_mem inRest)
        rw [others apart, later edge inRest]
    · intro edge member
      simp only [countCall, same, if_false, List.mem_cons] at member
      rcases member with rfl | inRest
      · rw [others same, head]
      · refine ih unique.2 later (fun absent => fresh ?_) edge inRest
        rw [List.map_cons, List.mem_cons]
        exact not_or.mpr ⟨Ne.symm same, absent⟩

end

/-! Function by function and call by call -/

def lastOf (functions : List FunctionSummary) (name : String) : Option FunctionSummary :=
  (functions.filter fun function => function.name = name).getLast?

theorem mem_of_lastOf {functions : List FunctionSummary} {name : String}
    {function : FunctionSummary} (last : lastOf functions name = some function) :
    name ∈ functions.map FunctionSummary.name := by
  have found := List.mem_filter.mp (List.mem_of_getLast? last)
  exact List.mem_map.mpr ⟨function, found.1, of_decide_eq_true found.2⟩

theorem exists_lastOf {functions : List FunctionSummary} {name : String}
    (defined : name ∈ functions.map FunctionSummary.name) :
    ∃ function, lastOf functions name = some function := by
  obtain ⟨function, member, rfl⟩ := List.mem_map.mp defined
  have named : function ∈ functions.filter fun other => other.name = function.name :=
    List.mem_filter.mpr ⟨member, decide_eq_true rfl⟩
  exact ⟨_, List.getLast?_eq_some_getLast (List.ne_nil_of_mem named)⟩

theorem lastOf_concat (functions : List FunctionSummary) (function : FunctionSummary)
    (name : String) :
    lastOf (functions ++ [function]) name =
      if function.name = name then some function else lastOf functions name := by
  by_cases same : function.name = name <;> simp [lastOf, List.filter_append, same]

/-- What the graph tells after these functions and these calls. A name that no function has is
external, unless it was met as a caller first. -/
structure CallGraph.Follows (graph : CallGraph) (functions : List FunctionSummary)
    (calls : List Call) : Prop where
  names : graph.names.map Prod.fst =
    distinct (functions.map FunctionSummary.name ++
      calls.flatMap fun call => [call.callee, call.caller])
  defined : ∀ entry ∈ graph.names, ∀ function, lastOf functions entry.1 = some function →
    entry.2 = .defined function.complexity
  undefined : ∀ entry ∈ graph.names, entry.1 ∉ functions.map FunctionSummary.name →
    entry.2 = .external ∨ entry.2 = .caller ∧ entry.1 ∈ calls.map Call.caller
  pairs : graph.pairs = distinct (calls.map Call.ends)
  counts : ∀ edge ∈ graph.edges, edge.count = (calls.map Call.ends).count edge.ends
  total : (graph.edges.map CallEdge.count).sum = calls.length

section

variable {graph : CallGraph} {functions : List FunctionSummary} {calls : List Call}

theorem CallGraph.Follows.nodup_names (follows : graph.Follows functions calls) :
    (graph.names.map Prod.fst).Nodup :=
  follows.names ▸ nodup_distinct _

theorem CallGraph.Follows.known (follows : graph.Follows functions calls) {name : String}
    (defined : name ∈ functions.map FunctionSummary.name) : name ∈ graph.names.map Prod.fst := by
  rw [follows.names, mem_distinct]
  exact List.mem_append_left _ defined

theorem CallGraph.Follows.nodup_pairs (follows : graph.Follows functions calls) :
    graph.pairs.Nodup :=
  follows.pairs ▸ nodup_distinct _

theorem CallGraph.Follows.mem_pairs (follows : graph.Follows functions calls)
    {pair : String × String} : pair ∈ graph.pairs ↔ pair ∈ calls.map Call.ends := by
  rw [follows.pairs, mem_distinct]

theorem follows_define (follows : graph.Follows functions []) (function : FunctionSummary) :
    (graph.define function).Follows (functions ++ [function]) [] where
  names := by
    have before := follows.names
    rw [List.flatMap_nil, List.append_nil] at before ⊢
    rw [CallGraph.define, upsert_keys, before, List.map_append, List.map_singleton,
      distinct_concat]
  defined := by
    intro entry member last found
    rw [lastOf_concat] at found
    rcases (mem_upsert _ _ follows.nodup_names entry).mp member with rfl | ⟨old, apart⟩
    · simp only [if_true, Option.some.injEq] at found
      rw [found]
    · rw [if_neg (Ne.symm apart)] at found
      exact follows.defined entry old last found
  undefined := by
    intro entry member absent
    rw [List.map_append, List.mem_append, not_or] at absent
    rcases (mem_upsert _ _ follows.nodup_names entry).mp member with rfl | ⟨old, apart⟩
    · exact absurd (by simp) absent.2
    · exact follows.undefined entry old absent.1
  pairs := follows.pairs
  counts := follows.counts
  total := follows.total

theorem follows_record (follows : graph.Follows functions calls) (call : Call) :
    (graph.record call).Follows functions (calls ++ [call]) where
  names := by
    have added : functions.map FunctionSummary.name ++
        (calls ++ [call]).flatMap (fun call => [call.callee, call.caller]) =
        functions.map FunctionSummary.name ++
          calls.flatMap (fun call => [call.callee, call.caller]) ++ [call.callee] ++
            [call.caller] := by
      simp
    rw [added, distinct_concat, distinct_concat, ← follows.names, ← mention_keys, ← mention_keys]
    rfl
  defined := by
    intro entry member function found
    have old : entry ∈ graph.names := by
      rcases mem_mentionCall member with old | ⟨-, fresh⟩
      · exact old
      · exact absurd (follows.known (mem_of_lastOf found)) fresh
    exact follows.defined entry old function found
  undefined := by
    intro entry member absent
    rw [List.map_append, List.mem_append]
    rcases mem_mentionCall member with old | ⟨rfl | rfl, -⟩
    · exact (follows.undefined entry old absent).imp_right (And.imp_right .inl)
    · exact .inl rfl
    · exact .inr ⟨rfl, .inr (by simp)⟩
  pairs := by
    rw [List.map_append, List.map_singleton, distinct_concat, ← follows.pairs]
    exact countCall_ends
  counts := by
    rw [List.map_append, List.map_singleton]
    refine countCall_counts ?_ follows.counts ?_
    · exact follows.nodup_pairs
    · exact mt follows.mem_pairs.mpr
  total := by
    rw [CallGraph.record, countCall_total, follows.total, List.length_append]
    rfl

theorem follows_defines (follows : graph.Follows functions []) (more : List FunctionSummary) :
    (more.foldl .define graph).Follows (functions ++ more) [] := by
  induction more generalizing graph functions with
  | nil => simpa using follows
  | cons function rest ih => simpa using ih (follows_define follows function)

theorem follows_records (follows : graph.Follows functions calls) (more : List Call) :
    (more.foldl .record graph).Follows functions (calls ++ more) := by
  induction more generalizing graph calls with
  | nil => simpa using follows
  | cons call rest ih => simpa using ih (follows_record follows call)

theorem callGraph_follows (summary : Summary) :
    summary.callGraph.Follows summary.functions summary.calls := by
  have empty : CallGraph.Follows ⟨[], []⟩ [] [] :=
    ⟨rfl, by simp, by simp, rfl, by simp, rfl⟩
  exact follows_records (follows_defines empty summary.functions) summary.calls

end

/-! Summaries of programs -/

theorem summarize_callers (program : Program) (stamp : Stamp) :
    ∀ call ∈ (program.summarize stamp).calls,
      call.caller ∈ (program.summarize stamp).functions.map FunctionSummary.name := by
  have names : (program.summarize stamp).functions.map FunctionSummary.name =
      program.functions.map FunctionDecl.name := by
    apply List.ext_getElem <;> simp [Program.summarize, FunctionDecl.summarize]
  have callers : (program.summarize stamp).calls.map Call.caller =
      (callSites program.functions).map Prod.fst := by
    apply List.ext_getElem <;> simp [Program.summarize]
  intro call member
  have caller : call.caller ∈ (callSites program.functions).map Prod.fst :=
    callers ▸ List.mem_map_of_mem member
  simp only [callSites, List.map_flatMap, List.map_map, List.mem_flatMap, List.mem_map,
    Function.comp_apply] at caller
  obtain ⟨function, declared, -, -, same⟩ := caller
  rw [names]
  exact List.mem_map.mpr ⟨function, declared, same⟩

theorem ofProgram_callers {program : Except Failure Program} {metadata : Json} {timestamp : Int}
    {summary : Summary} (made : Summary.ofProgram program metadata timestamp = .ok summary) :
    ∀ call ∈ summary.calls, call.caller ∈ summary.functions.map FunctionSummary.name := by
  cases program with
  | error failure => cases made
  | ok program =>
    rw [Summary.ofProgram] at made
    cases read : Metadata.load metadata with
    | error failure =>
      rw [read] at made
      cases made
    | ok known =>
      rw [read] at made
      cases made
      exact summarize_callers program _

-- Callers that are known already add nothing.
theorem foldl_addNew_calls {calls : List Call} {found : List String}
    (known : ∀ call ∈ calls, call.caller ∈ found) :
    (calls.flatMap fun call => [call.callee, call.caller]).foldl (addNew []) found =
      (calls.map Call.callee).foldl (addNew []) found := by
  induction calls generalizing found with
  | nil => rfl
  | cons call rest ih =>
    have kept {name : String} (member : name ∈ found) : name ∈ addNew [] found call.callee :=
      (mem_addNew [] found call.callee name).mpr (.inl member)
    have caller : addNew [] (addNew [] found call.callee) call.caller =
        addNew [] found call.callee := addNew_of_mem (kept (known call List.mem_cons_self))
    rw [List.flatMap_cons, List.foldl_append, List.map_cons, List.foldl_cons]
    simp only [List.foldl_cons, List.foldl_nil, caller]
    exact ih fun other member => kept (known other (List.mem_cons_of_mem call member))

/-- The graph tells each function name and callee once, and each call once. -/
structure CallGraph.Aggregates (graph : CallGraph) (summary : Summary) : Prop where
  known : ∀ name, name ∈ graph.names.map Prod.fst ↔
    name ∈ summary.functions.map FunctionSummary.name ∨ name ∈ summary.calls.map Call.callee
  external : ∀ entry ∈ graph.names,
    entry.2 = .external ↔ entry.1 ∉ summary.functions.map FunctionSummary.name
  measured : ∀ entry ∈ graph.names, entry.1 ∈ summary.functions.map FunctionSummary.name →
    ∃ function, lastOf summary.functions entry.1 = some function ∧
      entry.2 = .defined function.complexity
  ordered : (graph.names.map Prod.fst).Pairwise fun first second =>
    (summary.functions.map FunctionSummary.name ++ summary.calls.map Call.callee).idxOf first <
      (summary.functions.map FunctionSummary.name ++ summary.calls.map Call.callee).idxOf second
  linked : ∀ caller callee, (∃ edge ∈ graph.edges, edge.caller = caller ∧ edge.callee = callee) ↔
    ∃ call ∈ summary.calls, call.caller = caller ∧ call.callee = callee
  counted : ∀ edge ∈ graph.edges, edge.count =
    summary.calls.countP fun call => call.caller = edge.caller ∧ call.callee = edge.callee
  total : (graph.edges.map CallEdge.count).sum = summary.calls.length
  single : graph.pairs.Nodup
  shown : graph.edgesByCaller.Perm graph.edges

section

variable {summary : Summary}
  (callers : ∀ call ∈ summary.calls, call.caller ∈ summary.functions.map FunctionSummary.name)

include callers

theorem callGraph_names : summary.callGraph.names.map Prod.fst =
    distinct (summary.functions.map FunctionSummary.name ++ summary.calls.map Call.callee) := by
  have known : ∀ call ∈ summary.calls,
      call.caller ∈ distinct (summary.functions.map FunctionSummary.name) :=
    fun call member => (mem_distinct _ _).mpr (callers call member)
  have split (first second : List String) :
      distinct (first ++ second) = second.foldl (addNew []) (distinct first) :=
    List.foldl_append
  rw [(callGraph_follows summary).names, split, split, foldl_addNew_calls known]

theorem callGraph_external {entry : String × Callable} (member : entry ∈ summary.callGraph.names)
    (undefined : entry.1 ∉ summary.functions.map FunctionSummary.name) : entry.2 = .external := by
  rcases (callGraph_follows summary).undefined entry member undefined with external | ⟨-, called⟩
  · exact external
  · obtain ⟨call, made, same⟩ := List.mem_map.mp called
    exact absurd (same ▸ callers call made) undefined

theorem callGraph_shown : summary.callGraph.edgesByCaller.Perm summary.callGraph.edges := by
  have follows := callGraph_follows summary
  have edges : summary.callGraph.edges.Nodup := List.Nodup.of_map _ follows.nodup_pairs
  have shown : summary.callGraph.edgesByCaller.Nodup := by
    rw [CallGraph.edgesByCaller, List.nodup_flatMap]
    refine ⟨fun _ _ => edges.filter _, ?_⟩
    have apart := List.pairwise_map.mp follows.nodup_names
    refine apart.imp fun {first second} differ edge inFirst inSecond => differ ?_
    rw [List.mem_filter, beq_iff_eq] at inFirst inSecond
    exact inFirst.2.symm.trans inSecond.2
  rw [List.perm_ext_iff_of_nodup shown edges]
  intro edge
  simp only [CallGraph.edgesByCaller, List.mem_flatMap, List.mem_filter, beq_iff_eq]
  constructor
  · rintro ⟨-, -, member, -⟩
    exact member
  · intro member
    obtain ⟨call, made, same⟩ := List.mem_map.mp
      (follows.mem_pairs.mp (List.mem_map_of_mem member))
    have caller : call.caller = edge.caller := congrArg Prod.fst same
    obtain ⟨entry, listed, named⟩ := List.mem_map.mp (follows.known (callers call made))
    exact ⟨entry, listed, member, caller.symm.trans named.symm⟩

end

theorem callGraph_aggregates (program : Except Failure Program) (metadata : Json)
    (timestamp : Int) (summary : Summary)
    (made : Summary.ofProgram program metadata timestamp = .ok summary) :
    summary.callGraph.Aggregates summary := by
  have callers := ofProgram_callers made
  have follows := callGraph_follows summary
  have names := callGraph_names callers
  have measured : ∀ entry ∈ summary.callGraph.names,
      entry.1 ∈ summary.functions.map FunctionSummary.name →
        ∃ function, lastOf summary.functions entry.1 = some function ∧
          entry.2 = .defined function.complexity := by
    intro entry member defined
    obtain ⟨function, last⟩ := exists_lastOf defined
    exact ⟨function, last, follows.defined entry member function last⟩
  constructor
  case known =>
    intro name
    rw [names, mem_distinct, List.mem_append]
  case external =>
    intro entry member
    refine ⟨fun external defined => ?_, callGraph_external callers member⟩
    obtain ⟨function, -, same⟩ := measured entry member defined
    cases external.symm.trans same
  case measured => exact measured
  case ordered =>
    rw [names]
    exact distinct_ordered _
  case linked =>
    intro caller callee
    have same : (caller, callee) ∈ summary.callGraph.pairs ↔
        (caller, callee) ∈ summary.calls.map Call.ends := follows.mem_pairs
    simpa [CallGraph.pairs, CallEdge.ends, Call.ends, List.mem_map] using same
  case counted =>
    intro edge member
    rw [follows.counts edge member, List.count, List.countP_map]
    refine List.countP_congr fun call _ => ?_
    simp [Call.ends, CallEdge.ends]
  case total => exact follows.total
  case single => exact follows.nodup_pairs
  case shown => exact callGraph_shown callers

def repeatedProgram : Program :=
  ⟨[.function "f" [] [.expression "g(1)" .unknown] none .unknown,
    .function "h" [] [.expression "k()" .unknown, .expression "f()" .unknown] none .unknown,
    .function "f" [] [.whileLoop "x" [.expression "g(2)" .unknown] .unknown] none .unknown], none⟩

def someMetadata : Json :=
  .obj [("language", .str "L"), ("file", .str "F")]

theorem callGraph_aggregates_repeated_name :
    ∃ summary, Summary.ofProgram (.ok repeatedProgram) someMetadata 0 = .ok summary ∧
      summary.callGraph.Aggregates summary ∧
      summary.callGraph.names =
        [("f", .defined 2), ("h", .defined 1), ("g", .external), ("k", .external)] ∧
      summary.callGraph.edges = [⟨"f", "g", 2⟩, ⟨"h", "k", 1⟩, ⟨"h", "f", 1⟩] :=
  ⟨_, rfl, callGraph_aggregates (.ok repeatedProgram) someMetadata 0 _ rfl, by decide +kernel,
    by decide +kernel⟩

end ControlFlow
