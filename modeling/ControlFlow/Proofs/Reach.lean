import ControlFlow.Reach
import Mathlib.Data.Finset.Card
import Mathlib.Data.Finset.Dedup
import Mathlib.Data.Finset.Sort
import Mathlib.Data.String.Basic
import Mathlib.Logic.Relation

set_option autoImplicit false

namespace ControlFlow

variable {α : Type} [BEq α] [LawfulBEq α]

def addNew (seen found : List α) (item : α) : List α :=
  if seen.contains item || found.contains item then found else found ++ [item]

theorem mem_addNew (seen found : List α) (added item : α) :
    item ∈ addNew seen found added ↔ item ∈ found ∨ item = added ∧ item ∉ seen := by
  unfold addNew
  split
  · next known =>
    have present : added ∈ seen ∨ added ∈ found := by simpa using known
    constructor
    · exact .inl
    · rintro (member | ⟨rfl, absent⟩)
      · exact member
      · exact present.resolve_left absent
  · next fresh =>
    have absent : added ∉ seen ∧ added ∉ found := by simpa using fresh
    rw [List.mem_append, List.mem_singleton]
    constructor
    · rintro (member | rfl)
      · exact .inl member
      · exact .inr ⟨rfl, absent.1⟩
    · rintro (member | ⟨rfl, -⟩)
      · exact .inl member
      · exact .inr rfl

theorem nodup_addNew (seen found : List α) (item : α) (nodup : found.Nodup) :
    (addNew seen found item).Nodup := by
  unfold addNew
  split
  · exact nodup
  · next fresh =>
    have absent : item ∉ seen ∧ item ∉ found := by simpa using fresh
    refine List.nodup_append.mpr ⟨nodup, by simp, ?_⟩
    intro a member b added same
    rw [List.mem_singleton] at added
    exact absent.2 (added ▸ same ▸ member)

theorem mem_foldl_addNew (seen items found : List α) (item : α) :
    item ∈ items.foldl (addNew seen) found ↔ item ∈ found ∨ item ∈ items ∧ item ∉ seen := by
  induction items generalizing found with
  | nil => simp
  | cons head rest ih =>
    rw [List.foldl_cons, ih, mem_addNew, List.mem_cons]
    tauto

theorem nodup_foldl_addNew (seen items found : List α) (nodup : found.Nodup) :
    (items.foldl (addNew seen) found).Nodup := by
  induction items generalizing found with
  | nil => exact nodup
  | cons head rest ih => exact ih _ (nodup_addNew seen found head nodup)

theorem mem_newTargets (pairs : List (α × α)) (seen : List α) (name target : α) :
    target ∈ newTargets pairs seen name ↔ (name, target) ∈ pairs ∧ target ∉ seen := by
  change target ∈ List.foldl (addNew seen) [] _ ↔ _
  simp [mem_foldl_addNew]

theorem nodup_newTargets (pairs : List (α × α)) (seen : List α) (name : α) :
    (newTargets pairs seen name).Nodup :=
  nodup_foldl_addNew seen _ [] List.nodup_nil

theorem foldl_addNew_eq_append (items found : List α) (nodup : (found ++ items).Nodup) :
    items.foldl (addNew []) found = found ++ items := by
  induction items generalizing found with
  | nil => simp
  | cons head rest ih =>
    have fresh : head ∉ found := by
      intro present
      exact (List.nodup_append.mp nodup).2.2 head present head (by simp) rfl
    have added : addNew [] found head = found ++ [head] := by
      simp [addNew, fresh]
    rw [List.foldl_cons, added, ih _ (by simpa using nodup)]
    simp

theorem distinct_eq_self (items : List α) (nodup : items.Nodup) : distinct items = items :=
  foldl_addNew_eq_append items [] nodup

theorem mem_distinct (items : List α) (item : α) : item ∈ distinct items ↔ item ∈ items := by
  change item ∈ items.foldl (addNew []) [] ↔ _
  simp [mem_foldl_addNew]

theorem nodup_distinct (items : List α) : (distinct items).Nodup :=
  nodup_foldl_addNew [] items [] List.nodup_nil

omit [LawfulBEq α] in
theorem distinct_concat (items : List α) (item : α) :
    distinct (items ++ [item]) = addNew [] (distinct items) item :=
  List.foldl_concat (addNew []) [] item items

theorem addNew_of_mem {found : List α} {item : α} (known : item ∈ found) :
    addNew [] found item = found := by
  simp [addNew, known]

theorem addNew_of_notMem {found : List α} {item : α} (fresh : item ∉ found) :
    addNew [] found item = found ++ [item] := by
  simp [addNew, fresh]

theorem addNew_cons_of_ne {first item : α} (apart : first ≠ item) (found : List α) :
    addNew [] (first :: found) item = first :: addNew [] found item := by
  by_cases known : item ∈ found
  · rw [addNew_of_mem known, addNew_of_mem (List.mem_cons_of_mem first known)]
  · rw [addNew_of_notMem known, addNew_of_notMem (by simp [known, Ne.symm apart])]
    rfl

theorem distinct_ordered (items : List α) :
    (distinct items).Pairwise fun a b => items.idxOf a < items.idxOf b := by
  induction items using List.reverseRecOn with
  | nil => exact .nil
  | append_singleton items item ih =>
    have kept : (distinct items).Pairwise fun a b =>
        (items ++ [item]).idxOf a < (items ++ [item]).idxOf b := by
      refine ih.imp_of_mem fun {a b} left right lower => ?_
      rw [mem_distinct] at left right
      rwa [List.idxOf_append_of_mem left, List.idxOf_append_of_mem right]
    rw [distinct_concat]
    by_cases known : item ∈ distinct items
    · rwa [addNew_of_mem known]
    · rw [addNew_of_notMem known, List.pairwise_append]
      refine ⟨kept, List.pairwise_singleton _ _, ?_⟩
      intro a member b added
      rw [mem_distinct] at member known
      rw [List.mem_singleton.mp added, List.idxOf_append_of_mem member,
        List.idxOf_append_of_notMem known]
      exact Nat.lt_add_right _ (List.idxOf_lt_length_of_mem member)

theorem sort_toFinset {texts : List String} (ordered : texts.Pairwise (· < ·)) :
    texts.toFinset.sort = texts := by
  have nodup : texts.Nodup := ordered.imp fun before => ne_of_lt before
  rw [List.toFinset_sort (· ≤ ·) nodup]
  exact ordered.imp fun before => le_of_lt before

theorem sortTexts_eq_sort {texts : List String} (nodup : texts.Nodup) :
    sortTexts texts = texts.toFinset.sort := by
  have inOrder (a b : String) : (!decide (b < a)) = true ↔ a ≤ b := by
    rw [Bool.not_eq_true', decide_eq_false_iff_not, not_lt]
  have perm : (sortTexts texts).Perm texts := List.mergeSort_perm _ _
  have ordered : (sortTexts texts).Pairwise fun a b => (!decide (b < a)) = true := by
    apply List.pairwise_mergeSort
    · intro a b c
      rw [inOrder, inOrder, inOrder]
      exact le_trans
    · intro a b
      rw [Bool.or_eq_true, inOrder, inOrder]
      exact le_total a b
  have sorted := ordered.imp fun {a b} => (inOrder a b).mp
  rw [← List.toFinset_eq_of_perm _ _ perm]
  exact ((List.toFinset_sort _ (perm.nodup_iff.mpr nodup)).mpr sorted).symm

def Leads (pairs : List (α × α)) : α → α → Prop :=
  Relation.ReflTransGen (fun a b => (a, b) ∈ pairs)

-- What is seen includes what is to do, and of everything else that is seen the targets too.
structure Explored (pairs : List (α × α)) (todo seen : List α) : Prop where
  todo_seen : ∀ name ∈ todo, name ∈ seen
  closed : ∀ name ∈ seen, name ∉ todo → ∀ target, (name, target) ∈ pairs → target ∈ seen

open Classical in
noncomputable def unseen (pairs : List (α × α)) (seen : List α) : Nat :=
  ((pairs.map Prod.snd).toFinset \ seen.toFinset).card

theorem explored_step {pairs : List (α × α)} {name : α} {todo seen : List α}
    (explored : Explored pairs (name :: todo) seen) :
    Explored pairs (todo ++ newTargets pairs seen name) (seen ++ newTargets pairs seen name) := by
  constructor
  · intro item member
    rcases List.mem_append.mp member with old | new
    · exact List.mem_append_left _ (explored.todo_seen item (List.mem_cons_of_mem _ old))
    · exact List.mem_append_right _ new
  · intro item member done target pair
    rw [List.mem_append] at member done ⊢
    have old : item ∈ seen := member.resolve_right (fun new => done (.inr new))
    by_cases known : target ∈ seen
    · exact .inl known
    · by_cases same : item = name
      · subst same
        exact .inr ((mem_newTargets pairs seen item target).mpr ⟨pair, known⟩)
      · have passed : item ∉ name :: todo := by
          simp only [List.mem_cons, same, false_or]
          exact fun waiting => done (.inl waiting)
        exact .inl (explored.closed item old passed target pair)

theorem unseen_step (pairs : List (α × α)) (name : α) (seen : List α) :
    unseen pairs (seen ++ newTargets pairs seen name) + (newTargets pairs seen name).length =
      unseen pairs seen := by
  classical
  have fresh : (newTargets pairs seen name).toFinset ⊆
      (pairs.map Prod.snd).toFinset \ seen.toFinset := by
    intro target member
    rw [List.mem_toFinset, mem_newTargets] at member
    rw [Finset.mem_sdiff, List.mem_toFinset, List.mem_toFinset]
    exact ⟨List.mem_map.mpr ⟨(name, target), member.1, rfl⟩, member.2⟩
  have count := Finset.card_sdiff_add_card_eq_card fresh
  rw [List.toFinset_card_of_nodup (nodup_newTargets pairs seen name), sdiff_sdiff_left] at count
  rw [unseen, unseen, List.toFinset_append]
  exact count

-- Every round visits one name and turns its new targets from unseen ones into ones to do, so what
-- is to do and what is unseen together bound the rounds that are left.
theorem explore_closed {pairs : List (α × α)} (fuel : Nat) {todo seen : List α}
    (explored : Explored pairs todo seen) (bound : todo.length + unseen pairs seen ≤ fuel) :
    Explored pairs [] (explore pairs fuel todo seen) ∧
      ∀ name ∈ seen, name ∈ explore pairs fuel todo seen := by
  induction fuel generalizing todo seen with
  | zero =>
    obtain rfl : todo = [] := List.length_eq_zero_iff.mp (by omega)
    exact ⟨explored, fun name member => member⟩
  | succ fuel ih =>
    cases todo with
    | nil => exact ⟨explored, fun name member => member⟩
    | cons name todo =>
      have left := unseen_step pairs name seen
      have step := ih (explored_step explored) (by
        rw [List.length_append]
        rw [List.length_cons] at bound
        omega)
      exact ⟨step.1, fun item member => step.2 item (List.mem_append_left _ member)⟩

theorem explore_sound (pairs : List (α × α)) (fuel : Nat) (todo seen : List α)
    (sources : ∀ name ∈ todo, name ∈ seen) :
    ∀ name ∈ explore pairs fuel todo seen, ∃ source ∈ seen, Leads pairs source name := by
  induction fuel generalizing todo seen with
  | zero => exact fun name member => ⟨name, member, .refl⟩
  | succ fuel ih =>
    cases todo with
    | nil => exact fun name member => ⟨name, member, .refl⟩
    | cons visited todo =>
      intro name member
      have onward : ∀ item ∈ todo ++ newTargets pairs seen visited,
          item ∈ seen ++ newTargets pairs seen visited := by
        intro item waiting
        rcases List.mem_append.mp waiting with old | new
        · exact List.mem_append_left _ (sources item (List.mem_cons_of_mem _ old))
        · exact List.mem_append_right _ new
      obtain ⟨source, found, leads⟩ := ih _ _ onward name member
      rcases List.mem_append.mp found with old | new
      · exact ⟨source, old, leads⟩
      · have pair := ((mem_newTargets pairs seen visited source).mp new).1
        exact ⟨visited, sources visited (by simp), .head pair leads⟩

omit [BEq α] [LawfulBEq α] in
theorem unseen_le (pairs : List (α × α)) (seen : List α) : unseen pairs seen ≤ pairs.length := by
  classical
  calc
    unseen pairs seen ≤ (pairs.map Prod.snd).toFinset.card :=
      Finset.card_le_card Finset.sdiff_subset
    _ ≤ (pairs.map Prod.snd).length := List.toFinset_card_le _
    _ = pairs.length := List.length_map _

theorem mem_reachableFrom (pairs : List (α × α)) (names : List α) (name : α) :
    name ∈ reachableFrom pairs names ↔ ∃ source ∈ names, Leads pairs source name := by
  constructor
  · exact explore_sound pairs _ names names (fun _ member => member) name
  · rintro ⟨source, given, leads⟩
    have begun : Explored pairs names names :=
      ⟨fun _ member => member, fun _ member absent => absurd member absent⟩
    have bound := unseen_le pairs names
    have run := explore_closed (names.length + pairs.length) begun (by omega)
    induction leads with
    | refl => exact run.2 source given
    | tail _ pair ih => exact run.1.closed _ ih (by simp) _ pair

theorem mem_reachable (pairs : List (α × α)) (source name : α) :
    name ∈ reachable pairs source ↔ Leads pairs source name := by
  simp [reachable, mem_reachableFrom]

instance decidableLeads (pairs : List (α × α)) (source name : α) :
    Decidable (Leads pairs source name) :=
  decidable_of_iff _ (mem_reachable pairs source name)

omit [BEq α] [LawfulBEq α] in
theorem leads_reversed (pairs : List (α × α)) (source name : α) :
    Leads (reversed pairs) source name ↔ Leads pairs name source := by
  have swapped : (fun a b => (a, b) ∈ reversed pairs) =
      Function.swap (fun a b => (a, b) ∈ pairs) := by
    funext a b
    simp [reversed, Function.swap]
  rw [Leads, swapped, Relation.reflTransGen_swap]
  rfl

end ControlFlow
