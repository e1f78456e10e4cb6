import ControlFlow.Json.Text

set_option autoImplicit false

namespace ControlFlow.Json

def LegibleItems (items : List Json) : Prop :=
  ∀ item ∈ items, item.isLegible = true

def LegibleFields (fields : List (String × Json)) : Prop :=
  ∀ field ∈ fields, field.2.isLegible = true

theorem areLegible_iff (items : List Json) :
    areLegible items = true ↔ LegibleItems items := by
  induction items with
  | nil => simp [areLegible, LegibleItems]
  | cons item rest ih => simp [areLegible, LegibleItems, ih]

theorem areFieldsLegible_iff (fields : List (String × Json)) :
    areFieldsLegible fields = true ↔ LegibleFields fields := by
  induction fields with
  | nil => simp [areFieldsLegible, LegibleFields]
  | cons field rest ih => simp [areFieldsLegible, LegibleFields, ih]

theorem put_legible {fields : List (String × Json)} {value : Json}
    (legible : LegibleFields fields) (key : String) (given : value.isLegible = true) :
    LegibleFields (put fields key value) := by
  rw [put]
  split
  · intro field member
    obtain ⟨old, listed, rfl⟩ := List.mem_map.mp member
    split
    · exact given
    · exact legible old listed
  · intro field member
    rcases List.mem_append.mp member with old | new
    · exact legible field old
    · rw [List.mem_singleton.mp new]
      exact given

theorem legible_fields {fields : List (String × Json)}
    (legible : (Json.obj fields).isLegible = true) : LegibleFields fields := by
  rwa [isLegible, areFieldsLegible_iff] at legible

theorem legible_items {items : List Json} (legible : (Json.arr items).isLegible = true) :
    LegibleItems items := by
  rwa [isLegible, areLegible_iff] at legible

theorem get_legible {fields : List (String × Json)} (legible : LegibleFields fields)
    (key : String) : (get fields key).isLegible = true := by
  rw [get]
  cases found : lookup fields key with
  | none => simp [isLegible]
  | some value =>
    obtain ⟨field, first, rfl⟩ := Option.map_eq_some_iff.mp found
    exact legible field (List.mem_of_find?_eq_some first)

theorem text_of_legible {value : Json} (legible : value.isLegible = true) :
    value.text = .ok value.shown := by
  rw [Json.text, if_pos legible]

end ControlFlow.Json
