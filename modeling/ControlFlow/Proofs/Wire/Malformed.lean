import ControlFlow.Proofs.Json.Reader
import ControlFlow.Proofs.Wire.Fault
import Mathlib.Logic.Basic

set_option autoImplicit false

namespace ControlFlow

def Json.IsBadPosition (value : Json) : Prop :=
  (value.truthy ∧ ∀ fields, value ≠ .obj fields) ∨
    ∃ fields, value = .obj fields ∧ ∃ key ∈ ["line", "column"], ∃ given,
      Json.lookup fields key = some given ∧ ∀ number, given.toInteger ≠ .ok number

/-- An object with a bad position in its location, or a function whose parameters cannot be walked
through. -/
def Malformed (fields : List (String × Json)) : Prop :=
  (∃ location, Json.get fields "location" = .obj location ∧
    ((Json.get location "start").IsBadPosition ∨ (Json.get location "end").IsBadPosition)) ∨
  (Json.get fields "type" = .str "FunctionDeclaration" ∧
    (Json.get fields "parameters").truthy ∧ (Json.get fields "parameters").kind ∈ scalarKinds)

theorem coordinateFaults_eq_nil (fields : List (String × Json)) (key : String) :
    coordinateFaults fields key = [] ↔
      ¬ ∃ given, Json.lookup fields key = some given ∧ ∀ number, given.toInteger ≠ .ok number := by
  rw [coordinateFaults]
  cases Json.lookup fields key with
  | none => simp
  | some value => cases made : value.toInteger <;> simp [made]

theorem positionFaults_eq_nil (value : Json) :
    positionFaults value = [] ↔ ¬ value.IsBadPosition := by
  cases value with
  | obj fields =>
    simp [positionFaults, Json.IsBadPosition, coordinateFaults_eq_nil]
  | null | bool | int | float | str | arr =>
    simp [positionFaults, Json.IsBadPosition]

theorem tagOf_eq_iff (fields : List (String × Json)) (tag : String) :
    tagOf fields = some tag ↔ Json.get fields "type" = .str tag := by
  rw [tagOf]
  split <;> simp_all

theorem faultsOf_eq_nil (fields : List (String × Json)) :
    faultsOf fields = [] ↔ ¬ Malformed fields := by
  have located : locationFaults (Json.get fields "location") = [] ↔
      ¬ ∃ location, Json.get fields "location" = .obj location ∧
        ((Json.get location "start").IsBadPosition ∨ (Json.get location "end").IsBadPosition) := by
    cases Json.get fields "location" with
    | obj location => simp [locationFaults, positionFaults_eq_nil]
    | null | bool | int | float | str | arr => simp [locationFaults]
  rw [faultsOf, List.append_eq_nil_iff, located, Malformed, not_or, parameterFaults,
    ← tagOf_eq_iff]
  simp

def faultCategories : List String :=
  ["AttributeError", "TypeError", "ValueError", "OverflowError"]

theorem toInteger_category {value : Json} {failure : Failure}
    (made : value.toInteger = .error failure) : failure.category ∈ faultCategories := by
  cases value with
  | int | bool => cases made
  | float number => cases number <;> cases made <;> simp [Failure.category, faultCategories]
  | str text =>
    rw [Json.toInteger] at made
    cases read : Json.integerText text.toList with
    | number n => simp [read] at made
    | tooLong | other =>
      rw [read] at made
      cases made
      simp [Failure.category, faultCategories]
  | null | arr | obj =>
    cases made
    simp [Failure.category, faultCategories]

theorem coordinateFaults_category {fields : List (String × Json)} {key : String} {failure : Failure}
    (member : failure ∈ coordinateFaults fields key) : failure.category ∈ faultCategories := by
  rw [coordinateFaults] at member
  split at member
  · rename_i refused
    obtain ⟨value, -, made⟩ := Option.map_eq_some_iff.mp refused
    rw [List.mem_singleton.mp member]
    exact toInteger_category made
  · simp at member

theorem positionFaults_category {value : Json} {failure : Failure}
    (member : failure ∈ positionFaults value) : failure.category ∈ faultCategories := by
  cases value with
  | obj fields =>
    rcases List.mem_append.mp member with line | column
    · exact coordinateFaults_category line
    · exact coordinateFaults_category column
  | null | bool | int | float | str | arr =>
    simp only [positionFaults] at member
    split at member
    · rw [List.mem_singleton.mp member]
      simp [Failure.category, faultCategories]
    · simp at member

theorem faultsOf_category {fields : List (String × Json)} {failure : Failure}
    (member : failure ∈ faultsOf fields) : failure.category ∈ faultCategories := by
  rcases List.mem_append.mp member with located | walked
  · cases location : Json.get fields "location" with
    | obj places =>
      rw [location, locationFaults] at located
      rcases List.mem_append.mp located with start | stop
      · exact positionFaults_category start
      · exact positionFaults_category stop
    | null | bool | int | float | str | arr => simp [location, locationFaults] at located
  · simp only [parameterFaults] at walked
    split at walked
    · rw [List.mem_singleton.mp walked]
      simp [Failure.category, faultCategories]
    · simp at walked

/-- The failure is the first fault of the first malformed object, in pre-order. -/
def FirstFault (items : List Json) (failure : Failure) : Prop :=
  ∃ before object after, items.flatMap Json.objects = before ++ object :: after ∧
    (∀ earlier ∈ before, ¬ Malformed earlier) ∧ (faultsOf object).head? = some failure

theorem firstFault_iff (items : List Json) (failure : Failure) :
    FirstFault items failure ↔
      ((items.flatMap Json.objects).flatMap faultsOf).head? = some failure := by
  simp only [List.head?_flatMap, List.findSome?_eq_some_iff, List.head?_eq_none_iff,
    faultsOf_eq_nil, FirstFault]
  constructor
  · rintro ⟨before, object, after, split, sound, first⟩
    exact ⟨before, object, after, split, first, sound⟩
  · rintro ⟨before, object, after, split, first, sound⟩
    exact ⟨before, object, after, split, sound, first⟩

theorem FirstFault.category {items : List Json} {failure : Failure}
    (first : FirstFault items failure) : failure.category ∈ faultCategories := by
  obtain ⟨before, object, after, -, -, head⟩ := first
  exact faultsOf_category (List.mem_of_head? head)

theorem load_eq_error_iff {tree : Json} {items : List Json} (holds : tree.IsProgram items)
    (legible : tree.isLegible = true) (failure : Failure) :
    Program.load tree = .error failure ↔ FirstFault items failure := by
  rw [firstFault_iff]
  exact (Program.load_raises holds legible).eq_error_iff failure

/-- Not an object, of another type, or with a body that is no list. -/
def Json.IsBadRoot (tree : Json) : Prop :=
  tree = .null ∨ (∀ fields, tree ≠ .obj fields) ∨
    ∃ fields, tree = .obj fields ∧ (Json.get fields "type" ≠ .str "Program" ∨
      ∃ body, Json.lookup fields "body" = some body ∧ ∀ items, body ≠ .arr items)

theorem badRoot_load {tree : Json} (bad : tree.IsBadRoot) :
    ∃ failure, Program.load tree = .error failure ∧ failure.category = "InvalidInputError" := by
  rcases bad with rfl | notObject | ⟨fields, rfl, type | ⟨body, given, notList⟩⟩
  · exact ⟨_, rfl, rfl⟩
  · cases tree with
    | obj fields => exact absurd rfl (notObject fields)
    | null | bool | int | float | str | arr => exact ⟨_, rfl, rfl⟩
  · exact ⟨.rootNotProgram, by simp only [Program.load], rfl⟩
  · simp only [Program.load, given, Option.getD_some]
    split
    · cases body with
      | arr items => exact absurd rfl (notList items)
      | null | bool | int | float | str | obj => exact ⟨_, rfl, rfl⟩
    · exact ⟨_, rfl, rfl⟩

theorem badRoot_or_program (tree : Json) : tree.IsBadRoot ∨ ∃ items, tree.IsProgram items := by
  cases tree with
  | obj fields =>
    by_cases type : Json.get fields "type" = .str "Program"
    · cases given : Json.lookup fields "body" with
      | none => exact .inr ⟨[], fields, rfl, type, by simp [given]⟩
      | some body =>
        cases body with
        | arr items => exact .inr ⟨items, fields, rfl, type, by simp [given]⟩
        | null | bool | int | float | str | obj =>
          exact .inl (.inr (.inr ⟨fields, rfl, .inr ⟨_, given, by simp⟩⟩))
    · exact .inl (.inr (.inr ⟨fields, rfl, .inl type⟩))
  | null | bool | int | float | str | arr => exact .inl (.inr (.inl (by simp)))

end ControlFlow
