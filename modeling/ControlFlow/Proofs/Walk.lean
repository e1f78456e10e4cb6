import Mathlib.Computability.Language

set_option autoImplicit false

namespace ControlFlow

open scoped Computability

variable {α β : Type}

def walks (follows : α → α → Prop) (source target : α) : Language α :=
  {nodes | nodes.head? = some source ∧ nodes.getLast? = some target ∧ nodes.IsChain follows}

theorem mem_walks {follows : α → α → Prop} {source target : α} {nodes : List α} :
    nodes ∈ walks follows source target ↔
      nodes.head? = some source ∧ nodes.getLast? = some target ∧ nodes.IsChain follows :=
  Iff.rfl

theorem nil_notMem_walks (follows : α → α → Prop) (source target : α) :
    [] ∉ walks follows source target := by
  simp [mem_walks]

theorem cons_mem_walks {follows : α → α → Prop} {source target node : α} {rest : List α} :
    node :: rest ∈ walks follows source target ↔
      node = source ∧ (rest = [] ∧ source = target ∨
        ∃ next, follows source next ∧ rest ∈ walks follows next target) := by
  cases rest with
  | nil =>
    simp only [mem_walks, List.head?_cons, List.getLast?_singleton, Option.some.injEq]
    constructor
    · rintro ⟨rfl, rfl, -⟩
      exact ⟨rfl, .inl ⟨trivial, rfl⟩⟩
    · rintro ⟨rfl, ⟨-, rfl⟩ | ⟨next, -, absent, -⟩⟩
      · exact ⟨rfl, rfl, .singleton _⟩
      · simp at absent
  | cons following rest =>
    simp only [mem_walks, List.head?_cons, List.getLast?_cons_cons, Option.some.injEq,
      List.isChain_cons_cons, reduceCtorEq, false_and, false_or]
    constructor
    · rintro ⟨rfl, last, step, chain⟩
      exact ⟨rfl, following, step, rfl, last, chain⟩
    · rintro ⟨rfl, next, step, rfl, last, chain⟩
      exact ⟨rfl, last, step, chain⟩

theorem mem_singleton_mul {node : α} {tails : Language α} {nodes : List α} :
    nodes ∈ ({[node]} : Language α) * tails ↔ ∃ rest ∈ tails, nodes = node :: rest := by
  rw [Language.mem_mul]
  constructor
  · rintro ⟨_, rfl, rest, member, rfl⟩
    exact ⟨rest, member, rfl⟩
  · rintro ⟨rest, member, rfl⟩
    exact ⟨[node], rfl, rest, member, rfl⟩

theorem walks_step {follows : α → α → Prop} {source target left right : α}
    (differ : source ≠ target)
    (onward : ∀ next, follows source next ↔ next = left ∨ next = right) :
    walks follows source target =
      {[source]} * (walks follows left target + walks follows right target) := by
  ext nodes
  rw [mem_singleton_mul]
  cases nodes with
  | nil => simp [nil_notMem_walks]
  | cons node rest =>
    simp only [cons_mem_walks, onward, differ, and_false, false_or, Language.mem_add,
      List.cons.injEq]
    constructor
    · rintro ⟨rfl, next, rfl | rfl, member⟩
      · exact ⟨rest, .inl member, rfl, rfl⟩
      · exact ⟨rest, .inr member, rfl, rfl⟩
    · rintro ⟨_, member, rfl, rfl⟩
      rcases member with inLeft | inRight
      · exact ⟨rfl, left, .inl rfl, inLeft⟩
      · exact ⟨rfl, right, .inr rfl, inRight⟩

theorem walks_end {follows : α → α → Prop} {target : α} (last : ∀ next, ¬ follows target next) :
    walks follows target target = {[target]} := by
  ext nodes
  cases nodes with
  | nil =>
    simp only [nil_notMem_walks, false_iff]
    exact (List.cons_ne_nil target []).symm
  | cons node rest =>
    simp only [cons_mem_walks, last, false_and, exists_false, or_false, and_true]
    constructor
    · rintro ⟨rfl, rfl⟩
      rfl
    · intro same
      obtain ⟨rfl, rfl⟩ := List.cons.inj same
      exact ⟨rfl, rfl⟩

theorem loop_language {header : α} {round after whole : Language α}
    (equation : whole = {[header]} * (round * whole + after)) :
    whole = {[header]} * (round * {[header]})∗ * after := by
  have proper : [] ∉ ({[header]} : Language α) * round := by
    simp [mem_singleton_mul]
  have first : whole = {[header]} * round * whole + {[header]} * after := by
    rw [mul_assoc, ← mul_add]
    exact equation
  have second : ({[header]} * (round * {[header]})∗ * after : Language α) =
      {[header]} * round * ({[header]} * (round * {[header]})∗ * after) + {[header]} * after := by
    conv_lhs => rw [← Language.one_add_self_mul_kstar_eq_kstar]
    simp only [mul_add, add_mul, mul_one, mul_assoc]
    rw [add_comm]
  -- Each round takes at least one step, so the equation has one solution only.
  rw [(Language.self_eq_mul_add_iff proper).mp first,
    (Language.self_eq_mul_add_iff proper).mp second]

theorem walks_map {follows : α → α → Prop} {linked : β → β → Prop} {name : α → β}
    (injective : Function.Injective name)
    (image : ∀ x y, linked x y ↔ ∃ a b, name a = x ∧ name b = y ∧ follows a b)
    (source target : α) :
    walks linked (name source) (name target) = Language.map name (walks follows source target) := by
  ext nodes
  change nodes ∈ walks linked (name source) (name target) ↔
    ∃ original ∈ walks follows source target, original.map name = nodes
  induction nodes generalizing source with
  | nil => simp [nil_notMem_walks]
  | cons node rest ih =>
    rw [cons_mem_walks]
    constructor
    · rintro ⟨rfl, ⟨rfl, same⟩ | ⟨next, step, member⟩⟩
      · exact ⟨[source], cons_mem_walks.mpr ⟨rfl, .inl ⟨rfl, injective same⟩⟩, rfl⟩
      · obtain ⟨before, after, same, rfl, follow⟩ := (image _ _).mp step
        obtain rfl := injective same
        obtain ⟨original, walk, rfl⟩ := (ih after).mp member
        exact ⟨before :: original, cons_mem_walks.mpr ⟨rfl, .inr ⟨after, follow, walk⟩⟩, rfl⟩
    · rintro ⟨original, walk, same⟩
      cases original with
      | nil => simp at same
      | cons first others =>
        obtain ⟨rfl, rfl⟩ := List.cons.inj same
        obtain ⟨rfl, ⟨rfl, rfl⟩ | ⟨next, follow, onward⟩⟩ := cons_mem_walks.mp walk
        · exact ⟨rfl, .inl ⟨rfl, rfl⟩⟩
        · exact ⟨rfl, .inr ⟨name next, (image _ _).mpr ⟨_, _, rfl, rfl, follow⟩,
            (ih next).mpr ⟨others, onward, rfl⟩⟩⟩

-- A walk from outside into a part of the nodes passes through the gate of that part.
theorem gate_mem_walk {follows : α → α → Prop} (inside : α → Prop) {gate source target : α}
    {nodes : List α} (entered : ∀ a b, follows a b → ¬ inside a → inside b → b = gate)
    (outside : ¬ inside source) (within : inside target)
    (walk : nodes ∈ walks follows source target) : gate ∈ nodes := by
  induction nodes generalizing source with
  | nil => exact absurd walk (nil_notMem_walks _ _ _)
  | cons node rest ih =>
    obtain ⟨rfl, ⟨-, rfl⟩ | ⟨next, step, onward⟩⟩ := cons_mem_walks.mp walk
    · exact absurd within outside
    · apply List.mem_cons_of_mem
      by_cases inner : inside next
      · obtain rfl := entered _ _ step outside inner
        exact List.mem_of_mem_head? onward.1
      · exact ih inner onward

end ControlFlow
