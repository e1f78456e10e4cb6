
set_option autoImplicit false

namespace ControlFlow

def upsert {α β : Type} [DecidableEq α] (key : α) (value : β) : List (α × β) → List (α × β)
  | [] => [(key, value)]
  | (k, v) :: rest => if k = key then (key, value) :: rest else (k, v) :: upsert key value rest

theorem mem_keys_upsert {α β : Type} [DecidableEq α] (key : α) (value : β)
    (entries : List (α × β)) (k : α) :
    k ∈ (upsert key value entries).map Prod.fst ↔ k = key ∨ k ∈ entries.map Prod.fst := by
  induction entries with
  | nil => simp [upsert]
  | cons entry rest ih =>
      by_cases same : entry.1 = key
      · simp [upsert, same]
      · simp only [upsert, same, if_false, List.map_cons, List.mem_cons, ih]
        grind

theorem nodup_keys_upsert {α β : Type} [DecidableEq α] (key : α) (value : β)
    (entries : List (α × β)) (distinct : (entries.map Prod.fst).Nodup) :
    ((upsert key value entries).map Prod.fst).Nodup := by
  induction entries with
  | nil => simp [upsert]
  | cons entry rest ih =>
      rw [List.map_cons, List.nodup_cons] at distinct
      by_cases same : entry.1 = key
      · simpa [upsert, same] using ⟨by simpa [same] using distinct.1, distinct.2⟩
      · simp only [upsert, same, if_false, List.map_cons, List.nodup_cons]
        exact ⟨by rw [mem_keys_upsert]; grind, ih distinct.2⟩

theorem mem_upsert {α β : Type} [DecidableEq α] (key : α) (value : β) {entries : List (α × β)}
    (distinct : (entries.map Prod.fst).Nodup) (entry : α × β) :
    entry ∈ upsert key value entries ↔
      entry = (key, value) ∨ entry ∈ entries ∧ entry.1 ≠ key := by
  induction entries with
  | nil => simp [upsert]
  | cons first rest ih =>
    rw [List.map_cons, List.nodup_cons] at distinct
    by_cases same : first.1 = key
    · have later : entry ∈ rest → entry.1 ≠ key := by
        rintro member rfl
        exact distinct.1 (same ▸ List.mem_map_of_mem member)
      simp only [upsert, same, if_true, List.mem_cons]
      grind
    · simp only [upsert, same, if_false, List.mem_cons, ih distinct.2]
      grind

theorem find?_upsert {α β : Type} [DecidableEq α] (key place : α) (value : β)
    (entries : List (α × β)) :
    ((upsert key value entries).find? (fun entry => entry.1 = place)).map Prod.snd =
      if place = key then some value
      else (entries.find? (fun entry => entry.1 = place)).map Prod.snd := by
  induction entries with
  | nil => by_cases same : place = key <;> simp [upsert, same, Ne.symm]
  | cons entry rest ih =>
    by_cases replaced : entry.1 = key
    · by_cases same : place = key
      · simp [upsert, replaced, same]
      · simp [upsert, replaced, same, Ne.symm same]
    · by_cases here : entry.1 = place
      · have other : place ≠ key := fun same => replaced (here.trans same)
        simp [upsert, here, other]
      · simp only [upsert, replaced, if_false, List.find?_cons, here, decide_false, ih]

end ControlFlow
