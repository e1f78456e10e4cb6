import ControlFlow.Proofs.Component
import ControlFlow.Proofs.Summary.CallGraph

set_option autoImplicit false

namespace ControlFlow

/-- Calls of a summary, each made by the callee of the one before. -/
structure Summary.CallChain (summary : Summary) (source target : String)
    (chain : List Call) : Prop where
  made : ∀ call ∈ chain, call ∈ summary.calls
  linked : chain.IsChain fun call next => call.callee = next.caller
  leaves : chain.head?.map Call.caller = some source
  arrives : chain.getLast?.map Call.callee = some target

section

variable {summary : Summary} {source target : String}

theorem mem_callPairs :
    (source, target) ∈ summary.callPairs ↔
      ∃ call ∈ summary.calls, call.caller = source ∧ call.callee = target := by
  simp [Summary.callPairs, Call.ends]

theorem transGen_of_callChain {chain : List Call} (follows : summary.CallChain source target chain) :
    Relation.TransGen (fun a b => (a, b) ∈ summary.callPairs) source target := by
  obtain ⟨made, linked, leaves, arrives⟩ := follows
  induction chain generalizing source with
  | nil => cases leaves
  | cons call rest ih =>
    obtain rfl : call.caller = source := by simpa using leaves
    have step : (call.caller, call.callee) ∈ summary.callPairs :=
      mem_callPairs.mpr ⟨call, made call List.mem_cons_self, rfl, rfl⟩
    cases rest with
    | nil =>
      obtain rfl : call.callee = target := by simpa using arrives
      exact .single step
    | cons next others =>
      rw [List.isChain_cons_cons] at linked
      refine .head step (ih ?_ linked.2 ?_ ?_)
      · exact fun inner member => made inner (List.mem_cons_of_mem call member)
      · simp [linked.1]
      · simpa using arrives

theorem callChain_of_transGen
    (reaches : Relation.TransGen (fun a b => (a, b) ∈ summary.callPairs) source target) :
    ∃ chain, summary.CallChain source target chain := by
  induction reaches using Relation.TransGen.head_induction_on with
  | single step =>
    obtain ⟨call, made, rfl, rfl⟩ := mem_callPairs.mp step
    exact ⟨[call], by simpa using made, .singleton call, rfl, rfl⟩
  | head step _ ih =>
    obtain ⟨call, made, rfl, rfl⟩ := mem_callPairs.mp step
    obtain ⟨chain, follows⟩ := ih
    obtain ⟨next, others, rfl⟩ : ∃ next others, chain = next :: others := by
      cases chain with
      | nil => cases follows.leaves
      | cons next others => exact ⟨next, others, rfl⟩
    have link : next.caller = call.callee := by simpa using follows.leaves
    refine ⟨call :: next :: others, ?_, ?_, rfl, ?_⟩
    · simpa using ⟨made, by simpa using follows.made⟩
    · exact List.isChain_cons_cons.mpr ⟨link.symm, follows.linked⟩
    · simpa using follows.arrives

end

theorem CallGraph.isCyclic_iff {graph : CallGraph} {group : List String} {name : String}
    (member : name ∈ group) :
    graph.isCyclic group = true ↔ (group = [name] → (name, name) ∈ graph.pairs) := by
  match group, member with
  | [only], member =>
    obtain rfl := List.mem_singleton.mp member
    simp [isCyclic]
  | first :: second :: rest, _ => simp [isCyclic]

theorem callGraph_closed (summary : Summary) : ∀ pair ∈ summary.callGraph.pairs,
    pair.1 ∈ summary.callGraph.names.map Prod.fst ∧
      pair.2 ∈ summary.callGraph.names.map Prod.fst := by
  have follows := callGraph_follows summary
  intro pair member
  obtain ⟨call, made, rfl⟩ := List.mem_map.mp (follows.mem_pairs.mp member)
  have both : ∀ name ∈ [call.callee, call.caller],
      name ∈ summary.callGraph.names.map Prod.fst := by
    intro name named
    rw [follows.names, mem_distinct]
    exact List.mem_append_right _ (List.mem_flatMap.mpr ⟨call, made, named⟩)
  exact ⟨both call.caller (by simp), both call.callee (by simp)⟩

theorem circles_callGraph (summary : Summary) (name : String) :
    Circles summary.callGraph.pairs name ↔ ∃ chain, summary.CallChain name name chain := by
  have same : (fun a b => (a, b) ∈ summary.callGraph.pairs) =
      fun a b => (a, b) ∈ summary.callPairs := by
    funext a b
    exact propext (callGraph_follows summary).mem_pairs
  rw [Circles, same]
  constructor
  · exact callChain_of_transGen
  · rintro ⟨chain, follows⟩
    exact transGen_of_callChain follows

theorem recursiveNames_eq (summary : Summary) :
    summary.recursiveNames =
      ((components summary.callGraph.pairs (summary.callGraph.names.map Prod.fst)).filter
        summary.callGraph.isCyclic).flatten.toFinset.sort := by
  rw [Summary.recursiveNames, sortTexts_eq_sort (nodup_distinct _)]
  congr 1
  ext name
  rw [List.mem_toFinset, List.mem_toFinset, mem_distinct]

theorem mem_recursiveNames (summary : Summary) (name : String) :
    name ∈ summary.recursiveNames ↔ ∃ chain, summary.CallChain name name chain := by
  rw [← circles_callGraph, ← circles_iff (callGraph_follows summary).nodup_names
    (callGraph_closed summary)]
  simp only [recursiveNames_eq, Finset.mem_sort, List.mem_toFinset, List.mem_flatten,
    List.mem_filter]
  constructor
  · rintro ⟨group, ⟨found, cyclic⟩, member⟩
    exact ⟨group, found, member, (CallGraph.isCyclic_iff member).mp cyclic⟩
  · rintro ⟨group, found, member, single⟩
    exact ⟨group, ⟨found, (CallGraph.isCyclic_iff member).mpr single⟩, member⟩

theorem recursive_names_on_cycles (summary : Summary) :
    summary.recursiveNames.Pairwise (· < ·) ∧
    (∀ name, name ∈ summary.recursiveNames ↔ ∃ chain, summary.CallChain name name chain) ∧
    ∀ program metadata timestamp, Summary.ofProgram program metadata timestamp = .ok summary →
      ∀ name ∈ summary.recursiveNames, ∃ function ∈ summary.functions, function.name = name := by
  refine ⟨?_, mem_recursiveNames summary, ?_⟩
  · rw [recursiveNames_eq]
    exact (Finset.sortedLT_sort _).pairwise
  · intro program metadata timestamp made name member
    obtain ⟨chain, follows⟩ := (mem_recursiveNames summary name).mp member
    obtain ⟨call, first, rfl⟩ := Option.map_eq_some_iff.mp follows.leaves
    have caller := ofProgram_callers made call (follows.made call (List.mem_of_head? first))
    exact List.mem_map.mp caller

-- Two functions that call each other, one that calls itself, and one that only calls.
def mutualProgram : Program :=
  ⟨[.function "h" [] [.expression "h()" .unknown, .expression "x()" .unknown] none .unknown,
    .function "g" [] [.branch "c" [.expression "f()" .unknown] none .unknown] none .unknown,
    .function "f" [] [.expression "g()" .unknown] none .unknown,
    .function "k" [] [.expression "f()" .unknown] none .unknown], none⟩

theorem recursive_names_on_cycles_mutual :
    ∃ summary, Summary.ofProgram (.ok mutualProgram) someMetadata 0 = .ok summary ∧
      summary.recursiveNames = ["f", "g", "h"] ∧
      ∀ name ∈ summary.recursiveNames, ∃ function ∈ summary.functions, function.name = name := by
  refine ⟨_, rfl, ?_, (recursive_names_on_cycles _).2.2 (.ok mutualProgram) someMetadata 0 rfl⟩
  have sorted : ["f", "g", "h"].toFinset.sort = ["f", "g", "h"] := sort_toFinset (by decide +kernel)
  rw [recursiveNames_eq, ← sorted]
  congr 1
  decide +kernel

end ControlFlow
