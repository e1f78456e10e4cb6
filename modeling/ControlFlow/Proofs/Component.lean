import ControlFlow.Proofs.Reach

set_option autoImplicit false

namespace ControlFlow

variable {α : Type} [BEq α] [LawfulBEq α] {pairs : List (α × α)} {names : List α} {name other : α}

def Circles (pairs : List (α × α)) (name : α) : Prop :=
  Relation.TransGen (fun a b => (a, b) ∈ pairs) name name

theorem mem_component :
    other ∈ component pairs names name ↔
      other ∈ names ∧ Leads pairs name other ∧ Leads pairs other name := by
  simp [component, mem_reachable, leads_reversed]

omit [BEq α] [LawfulBEq α] in
theorem circles_of_apart (onward : Leads pairs name other) (back : Leads pairs other name)
    (apart : name ≠ other) : Circles pairs name := by
  rcases Relation.reflTransGen_iff_eq_or_transGen.mp onward with same | ahead
  · exact absurd same.symm apart
  · exact ahead.trans_left back

-- A cycle through a name whose component holds nothing else has only one step.
theorem self_pair_of_circles (closed : ∀ pair ∈ pairs, pair.2 ∈ names)
    (alone : component pairs names name = [name]) (circles : Circles pairs name) :
    (name, name) ∈ pairs := by
  obtain ⟨next, step, back⟩ := Relation.TransGen.head'_iff.mp circles
  have inside : next ∈ component pairs names name :=
    mem_component.mpr ⟨closed _ step, .single step, back⟩
  rw [alone, List.mem_singleton] at inside
  rwa [inside] at step

omit [BEq α] [LawfulBEq α] in
theorem exists_apart {group : List α} (nodup : group.Nodup) (member : name ∈ group)
    (more : group ≠ [name]) : ∃ other ∈ group, name ≠ other := by
  by_contra none
  push Not at none
  have only : ∀ other ∈ group, other = name := fun other inside => (none other inside).symm
  obtain ⟨first, rest, rfl⟩ := List.exists_cons_of_ne_nil (List.ne_nil_of_mem member)
  have head : first = name := only first List.mem_cons_self
  cases rest with
  | nil => exact more (by rw [head])
  | cons second rest =>
    have same : second = name := only second (by simp)
    rw [head, same] at nodup
    simp at nodup

theorem circles_iff (nodup : names.Nodup)
    (closed : ∀ pair ∈ pairs, pair.1 ∈ names ∧ pair.2 ∈ names) :
    (∃ group ∈ components pairs names,
      name ∈ group ∧ (group = [name] → (name, name) ∈ pairs)) ↔ Circles pairs name := by
  simp only [components, mem_distinct, List.mem_map]
  constructor
  · rintro ⟨-, ⟨root, -, rfl⟩, member, single⟩
    by_cases alone : component pairs names root = [name]
    · exact .single (single alone)
    · obtain ⟨other, inside, apart⟩ := exists_apart (nodup.filter _) member alone
      obtain ⟨-, fromRoot, toRoot⟩ := mem_component.mp member
      obtain ⟨-, onward, back⟩ := mem_component.mp inside
      exact circles_of_apart (toRoot.trans onward) (back.trans fromRoot) apart
  · intro circles
    obtain ⟨next, step, -⟩ := Relation.TransGen.head'_iff.mp circles
    have present : name ∈ names := (closed _ step).1
    refine ⟨_, ⟨name, present, rfl⟩, mem_component.mpr ⟨present, .refl, .refl⟩, ?_⟩
    intro alone
    exact self_pair_of_circles (fun pair member => (closed pair member).2) alone circles

end ControlFlow
