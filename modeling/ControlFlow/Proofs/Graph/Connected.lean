import ControlFlow.Proofs.Graph.Successor
import Mathlib.Logic.Relation

set_option autoImplicit false

namespace ControlFlow

def Reaches (arcs : List Arc) : Nat → Nat → Prop :=
  Relation.ReflTransGen (Joined arcs)

theorem reaches_of_mem {arcs : List Arc} {arc : Arc} (member : arc ∈ arcs) :
    Reaches arcs arc.source arc.target :=
  .single ⟨arc, member, rfl, rfl⟩

-- Each of `count` nodes from `first` on lies on a way from `entry` to `exit`.
def Spanned (arcs : List Arc) (first count entry exit : Nat) : Prop :=
  ∀ node, first ≤ node → node < first + count →
    Reaches arcs entry node ∧ Reaches arcs node exit

theorem reaches_through {arcs : List Arc} {block : List Statement} {index : Nat}
    {next : Continuation}
    (spanned : Spanned arcs index (nodeCounts block) (next.before block index).target next.target) :
    Reaches arcs (next.before block index).target next.target := by
  rcases next.before_target block index with same | ⟨first, positive⟩
  · rw [same]
    exact .refl
  · rw [first]
    exact (spanned index (Nat.le_refl _) (by omega)).2

-- One side of a branch: the arc out of the branch leads into the side or past it.
theorem side_spanned {arcs : List Arc} {block : List Statement} {container index : Nat}
    {next : Continuation} {label : Option Label}
    (inward : (next.before block index).arc container label ∈ arcs)
    (spanned : Spanned arcs index (nodeCounts block) (next.before block index).target next.target) :
    Reaches arcs container next.target ∧
      Spanned arcs index (nodeCounts block) container next.target := by
  have entered : Reaches arcs container (next.before block index).target := reaches_of_mem inward
  refine ⟨entered.trans (reaches_through spanned), ?_⟩
  intro node low high
  exact ⟨entered.trans (spanned node low high).1, (spanned node low high).2⟩

theorem arcs_spanned (all : List Arc) :
    (∀ (statement : Statement) (index : Nat) (next : Continuation),
      (∀ arc ∈ statement.arcs index next, arc ∈ all) →
      Spanned all index statement.nodeCount index next.target) ∧
    ∀ (block : List Statement) (index : Nat) (next : Continuation),
      (∀ arc ∈ blockArcs block index next, arc ∈ all) →
      Spanned all index (nodeCounts block) (next.before block index).target next.target := by
  apply flow_induction
  · intro statement flow index next present node low high
    rw [nodeCount_leaf flow] at high
    obtain rfl : node = index := by omega
    exact ⟨.refl, reaches_of_mem (present (next.arc node none) (by simp [arcs_leaf flow]))⟩
  · intro statement yes no flow yesSpanned noSpanned index next present node low high
    simp only [arcs_branch flow, List.mem_append, List.mem_cons] at present
    rw [nodeCount_branch flow] at high
    obtain ⟨past, yesNodes⟩ := side_spanned (present _ (.inl (.inl rfl)))
      (yesSpanned (index + 1) next fun arc inYes => present arc (.inl (.inr inYes)))
    obtain ⟨-, noNodes⟩ := side_spanned (present _ (.inr (.inl rfl)))
      (noSpanned (index + 1 + nodeCounts yes) next fun arc inNo => present arc (.inr (.inr inNo)))
    by_cases self : node = index
    · subst self
      exact ⟨.refl, past⟩
    · by_cases inYes : node < index + 1 + nodeCounts yes
      · exact yesNodes node (by omega) inYes
      · exact noNodes node (by omega) (by omega)
  · intro statement inward outward body flow bodySpanned index next present node low high
    rw [arcs_loop flow] at present
    rw [nodeCount_loop flow] at high
    have past : Reaches all index next.target :=
      reaches_of_mem (present (next.arc index (some outward)) (by simp [loopArcs]))
    by_cases self : node = index
    · subst self
      exact ⟨.refl, past⟩
    · have nonempty : body ≠ [] := by
        intro empty
        rw [empty, nodeCounts] at high
        omega
      simp only [loopArcs_of_ne_nil _ _ _ nonempty, List.mem_append, List.mem_cons] at present
      have inside := bodySpanned (index + 1) (.back index)
        (fun arc inBody => present arc (.inl (.inr inBody))) node (by omega) (by omega)
      rw [Continuation.before_of_ne_nil _ _ nonempty] at inside
      have entered : Reaches all index (index + 1) :=
        reaches_of_mem (present ⟨index, index + 1, some inward⟩ (.inl (.inl rfl)))
      -- A node of the body gets out only by way of the header.
      exact ⟨entered.trans inside.1, inside.2.trans past⟩
  · intro index next _ node low high
    rw [nodeCounts] at high
    omega
  · intro statement rest first others index next present node low high
    simp only [blockArcs, List.mem_append] at present
    rw [nodeCounts] at high
    have positive := nodeCount_pos statement
    have here := first index (next.before rest (index + statement.nodeCount))
      fun arc inFirst => present arc (.inl inFirst)
    have later := others (index + statement.nodeCount) next
      fun arc inRest => present arc (.inr inRest)
    by_cases inFirst : node < index + statement.nodeCount
    · obtain ⟨before, after⟩ := here node low inFirst
      exact ⟨before, after.trans (reaches_through later)⟩
    · obtain ⟨before, after⟩ := later node (by omega) (by omega)
      exact ⟨(here index (Nat.le_refl _) (by omega)).2.trans before, after⟩

theorem function_connected (body : List Statement) (index : Nat) :
    Spanned (functionArcs body index) index (nodeCounts body + 2) index
      (index + 1 + nodeCounts body) := by
  let finish : Continuation := ⟨index + 1 + nodeCounts body, none⟩
  have inside := (arcs_spanned (functionArcs body index)).2 body (index + 1) finish
    fun arc member => List.mem_cons_of_mem _ member
  have entry : (finish.before body (index + 1)).arc index none ∈ functionArcs body index :=
    List.mem_cons_self ..
  obtain ⟨past, nodes⟩ := side_spanned entry inside
  intro node low high
  by_cases self : node = index
  · subst self
    exact ⟨.refl, past⟩
  · by_cases last : node = index + 1 + nodeCounts body
    · subst last
      exact ⟨past, .refl⟩
    · exact nodes node (by omega) (by omega)

end ControlFlow
