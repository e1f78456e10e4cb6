import ControlFlow.Proofs.Json.Legible
import ControlFlow.Statement.Wire

set_option autoImplicit false

namespace ControlFlow

/-! Results by their faults -/

/-- A result that depends on checks made in turn: the first fault is what it fails with. -/
def Raises {α : Type} (result : Except Failure α) : List Failure → Prop
  | [] => ∃ value, result = .ok value
  | failure :: _ => result = .error failure

theorem raises_ok {α : Type} (value : α) : Raises (.ok value) [] := ⟨value, rfl⟩

theorem Raises.bind {α β : Type} {first : Except Failure α} {next : α → Except Failure β}
    {early late : List Failure} (raised : Raises first early)
    (continued : ∀ value, Raises (next value) late) : Raises (first >>= next) (early ++ late) := by
  cases early with
  | nil =>
    obtain ⟨value, rfl⟩ := raised
    exact continued value
  | cons failure rest =>
    obtain rfl : first = .error failure := raised
    rfl

-- What follows can no longer fail.
theorem Raises.map {α β : Type} {first : Except Failure α} {faults : List Failure}
    (raised : Raises first faults) (next : α → β) :
    Raises (first >>= fun value => .ok (next value)) faults := by
  have whole := raised.bind fun value => raises_ok (next value)
  rwa [List.append_nil] at whole

theorem Raises.eq_error_iff {α : Type} {result : Except Failure α} {faults : List Failure}
    (raised : Raises result faults) (failure : Failure) :
    result = .error failure ↔ faults.head? = some failure := by
  cases faults with
  | nil =>
    obtain ⟨value, rfl⟩ := raised
    simp
  | cons first rest =>
    obtain rfl : result = .error first := raised
    simp

/-! Faults of an object -/

def tagOf (fields : List (String × Json)) : Option String :=
  match Json.get fields "type" with
  | .str tag => some tag
  | _ => none

def coordinateFaults (fields : List (String × Json)) (key : String) : List Failure :=
  match (Json.lookup fields key).map Json.toInteger with
  | some (.error failure) => [failure]
  | _ => []

def positionFaults : Json → List Failure
  | .obj fields => coordinateFaults fields "line" ++ coordinateFaults fields "column"
  | value => if value.truthy then [.noMember value.kind.name "get"] else []

def locationFaults : Json → List Failure
  | .obj fields =>
      positionFaults (Json.get fields "start") ++ positionFaults (Json.get fields "end")
  | _ => []

def scalarKinds : List Json.Kind := [.bool, .int, .float]

def parameterFaults (fields : List (String × Json)) : List Failure :=
  let parameters := Json.get fields "parameters"
  if tagOf fields = some "FunctionDeclaration" ∧ parameters.truthy ∧
      parameters.kind ∈ scalarKinds then
    [.notIterable parameters.kind]
  else []

-- The faults of an object itself, in the order in which they are looked for.
def faultsOf (fields : List (String × Json)) : List Failure :=
  locationFaults (Json.get fields "location") ++ parameterFaults fields

/-! Objects of a tree -/

def Json.items : Json → List Json
  | .arr items => items
  | _ => []

def innerKeys : Option String → List String
  | some "FunctionDeclaration" | some "ForStatement" | some "WhileStatement" => ["body"]
  | some "IfStatement" => ["thenBranch", "elseBranch"]
  | _ => []

def innerItems (fields : List (String × Json)) : List Json :=
  (innerKeys (tagOf fields)).flatMap fun key => (Json.get fields key).items

theorem mem_of_lookup {fields : List (String × Json)} {key : String} {value : Json}
    (found : Json.lookup fields key = some value) : (key, value) ∈ fields := by
  rw [Json.lookup, Option.map_eq_some_iff] at found
  obtain ⟨field, first, rfl⟩ := found
  have same : field.1 = key := by simpa using List.find?_some first
  rw [← same]
  exact List.mem_of_find?_eq_some first

theorem sizeOf_innerItems {fields : List (String × Json)} {item : Json}
    (member : item ∈ innerItems fields) : sizeOf item < sizeOf (Json.obj fields) := by
  obtain ⟨key, -, inside⟩ := List.mem_flatMap.mp member
  cases found : Json.lookup fields key with
  | none => simp [Json.get, found, Json.items] at inside
  | some value =>
    cases value with
    | arr items =>
      have inList : item ∈ items := by simpa [Json.get, found, Json.items] using inside
      have inner := List.sizeOf_lt_of_mem inList
      have outer := List.sizeOf_lt_of_mem (mem_of_lookup found)
      simp only [Prod.mk.sizeOf_spec, Json.arr.sizeOf_spec] at outer
      simp only [Json.obj.sizeOf_spec]
      omega
    | null | bool | int | float | str | obj => simp [Json.get, found, Json.items] at inside

/-- The objects that are loaded as statements, in pre-order. -/
def Json.objects : Json → List (List (String × Json))
  | .obj fields => fields :: (innerItems fields).attach.flatMap fun item => item.1.objects
  | _ => []
termination_by value => sizeOf value
decreasing_by exact sizeOf_innerItems item.2

@[simp] theorem objects_obj (fields : List (String × Json)) :
    (Json.obj fields).objects = fields :: (innerItems fields).flatMap Json.objects := by
  rw [Json.objects, List.flatMap_subtype (g := Json.objects) (fun _ _ => rfl),
    List.unattach_attach]

/-! Loading by faults -/

theorem coordinate_raises (fields : List (String × Json)) (key : String) :
    Raises (coordinate fields key) (coordinateFaults fields key) := by
  rw [coordinate, coordinateFaults]
  cases Json.lookup fields key with
  | none => exact raises_ok 0
  | some value =>
    simp only [Option.map_some]
    cases value.toInteger with
    | ok number => exact raises_ok number
    | error failure => rfl

theorem Position.load_raises (value : Json) :
    Raises (Position.load value) (positionFaults value) := by
  rw [Position.load]
  cases value with
  | obj fields =>
    exact (coordinate_raises fields "line").bind fun line =>
      (coordinate_raises fields "column").map (Position.mk line)
  | null | bool | int | float | str | arr =>
    simp only [positionFaults, positionFields]
    split
    · rfl
    · exact ⟨_, rfl⟩

theorem Location.load_raises (value : Json) :
    Raises (Location.load value) (locationFaults value) := by
  cases value with
  | obj fields =>
    exact (Position.load_raises _).bind fun start =>
      (Position.load_raises _).map (Location.mk start)
  | null | bool | int | float | str | arr => exact raises_ok _

theorem optionalText_raises {value : Json} (legible : value.isLegible = true) :
    Raises (optionalText value) [] := by
  rw [optionalText.eq_def]
  split
  · exact raises_ok none
  · rw [Json.text_of_legible legible]
    exact raises_ok _

section

variable {fields : List (String × Json)} (legible : Json.LegibleFields fields)

include legible

theorem requiredText_raises (key : String) : Raises (requiredText fields key) [] := by
  have given := Json.get_legible legible key
  rw [Json.get] at given
  rw [requiredText]
  cases found : Json.lookup fields key with
  | none => exact raises_ok ""
  | some value =>
    rw [found] at given
    exact ⟨_, Json.text_of_legible given⟩

theorem functionName_raises (key : String) :
    Raises (functionName (Json.get fields key)) [] := by
  rw [functionName]
  split
  · exact ⟨_, Json.text_of_legible (Json.get_legible legible key)⟩
  · exact raises_ok "anonymous"

theorem Parameter.load_raises : Raises (Parameter.load fields) [] :=
  (requiredText_raises legible "name").bind fun name =>
    (optionalText_raises (Json.get_legible legible "type")).map (Parameter.mk name)

end

theorem Parameter.loadEach_raises {items : List Json} (legible : Json.LegibleItems items) :
    Raises (Parameter.loadEach items) [] := by
  induction items with
  | nil => exact raises_ok []
  | cons item rest ih =>
    have others := ih fun other member => legible other (List.mem_cons_of_mem item member)
    cases item with
    | obj fields =>
      have own := Parameter.load_raises (Json.legible_fields (legible _ List.mem_cons_self))
      exact own.bind fun parameter => others.map (parameter :: ·)
    | null | bool | int | float | str | arr => exact others

theorem loadParameters_raises {fields : List (String × Json)}
    (tagged : tagOf fields = some "FunctionDeclaration") (legible : Json.LegibleFields fields) :
    Raises (loadParameters (Json.get fields "parameters")) (parameterFaults fields) := by
  have given := Json.get_legible legible "parameters"
  simp only [parameterFaults, tagged, true_and]
  cases parameters : Json.get fields "parameters" with
  | arr items =>
    rw [parameters] at given
    simpa [scalarKinds, Json.kind, loadParameters] using
      Parameter.loadEach_raises (Json.legible_items given)
  | null | str | obj => simp [scalarKinds, Json.kind, loadParameters, Raises]
  | bool | int | float =>
    simp only [scalarKinds, Json.kind, loadParameters]
    split <;> simp_all [Raises]

theorem blockOf_loadBlocks (fields : List (String × Json)) (key : String) :
    blockOf (loadBlocks fields) key = loadBlock (Json.get fields key) := by
  induction fields with
  | nil => rfl
  | cons field rest ih =>
    by_cases same : field.1 = key
    · simp [loadBlocks, blockOf, Json.get, Json.lookup, same]
    · simpa [loadBlocks, blockOf, Json.get, Json.lookup, same] using ih

theorem loadStatements_raises {items : List Json} {faults : Json → List Failure}
    (each : ∀ item ∈ items, Raises (Statement.load item) (faults item)) :
    Raises (loadStatements items) (items.flatMap faults) := by
  induction items with
  | nil =>
    rw [loadStatements]
    exact raises_ok []
  | cons item rest ih =>
    rw [loadStatements, List.flatMap_cons]
    refine (each item List.mem_cons_self).bind fun statement => ?_
    have others := ih fun other member => each other (List.mem_cons_of_mem item member)
    exact others.map (statement :: ·)

theorem loadBlock_raises {value : Json} {faults : Json → List Failure}
    (each : ∀ item ∈ value.items, Raises (Statement.load item) (faults item)) :
    Raises (loadBlock value) (value.items.flatMap faults) := by
  cases value with
  | arr items =>
    rw [loadBlock]
    exact loadStatements_raises each
  | null | bool | int | float | str | obj => exact raises_ok []

/-! Loading an object, tag by tag -/

def knownTags : List String :=
  ["FunctionDeclaration", "IfStatement", "ForStatement", "WhileStatement", "VariableDeclaration",
    "ReturnStatement", "ExpressionStatement"]

section

variable {fields : List (String × Json)} {faults : Json → List Failure}

theorem tagOf_eq {tag : String} (type : Json.get fields "type" = .str tag) :
    tagOf fields = some tag := by
  simp [tagOf, type]

theorem tagOf_unknown (unknown : ∀ tag ∈ knownTags, Json.get fields "type" ≠ .str tag) :
    ∀ tag ∈ knownTags, tagOf fields ≠ some tag := by
  intro tag known same
  cases type : Json.get fields "type" with
  | str text =>
    obtain rfl : text = tag := by simpa [tagOf, type] using same
    exact unknown text known type
  | null | bool | int | float | arr | obj => simp [tagOf, type] at same

theorem innerKeys_unknown {tag : Option String} (unknown : ∀ known ∈ knownTags, tag ≠ some known) :
    innerKeys tag = [] := by
  simp only [knownTags, List.forall_mem_cons] at unknown
  rw [innerKeys] <;> simp_all

theorem parameterFaults_of_ne (other : tagOf fields ≠ some "FunctionDeclaration") :
    parameterFaults fields = [] := by
  simp [parameterFaults, other]

-- An object that holds no statements and is no function has the faults of its location only.
theorem leaf_faults (other : tagOf fields ≠ some "FunctionDeclaration")
    (hollow : innerKeys (tagOf fields) = []) :
    parameterFaults fields ++ (innerItems fields).flatMap faults = [] := by
  simp [parameterFaults_of_ne other, innerItems, hollow]

theorem single_faults {key : String} (other : tagOf fields ≠ some "FunctionDeclaration")
    (single : innerKeys (tagOf fields) = [key]) :
    parameterFaults fields ++ (innerItems fields).flatMap faults =
      (Json.get fields key).items.flatMap faults := by
  simp [parameterFaults_of_ne other, innerItems, single]

-- The faults of an object itself come first, then those of what it holds, key by key.
theorem assemble_raises (legible : Json.LegibleFields fields)
    (each : ∀ item ∈ innerItems fields, Raises (Statement.load item) (faults item)) :
    Raises (Statement.assemble fields (loadBlocks fields))
      (faultsOf fields ++ (innerItems fields).flatMap faults) := by
  have block : ∀ key ∈ innerKeys (tagOf fields),
      Raises (loadBlock (Json.get fields key)) ((Json.get fields key).items.flatMap faults) := by
    intro key member
    apply loadBlock_raises
    intro item inside
    exact each item (List.mem_flatMap.mpr ⟨key, member, inside⟩)
  rw [Statement.assemble, faultsOf, List.append_assoc]
  refine (Location.load_raises (Json.get fields "location")).bind fun location => ?_
  simp only [blockOf_loadBlocks]
  split
  case h_1 type =>
    have tagged := tagOf_eq type
    simp only [innerItems, tagged, innerKeys, List.flatMap_singleton] at block ⊢
    refine (loadParameters_raises tagged legible).bind fun parameters => ?_
    refine (functionName_raises legible "name").bind fun name => ?_
    have whole := (block "body" (by simp)).bind fun body =>
      (optionalText_raises (Json.get_legible legible "returnType")).map fun returnType =>
        Statement.function name parameters body returnType location
    rwa [List.append_nil] at whole
  case h_2 type =>
    have tagged := tagOf_eq type
    rw [parameterFaults_of_ne (by simp [tagged]), List.nil_append]
    simp only [innerItems, tagged, innerKeys, List.flatMap_cons, List.flatMap_nil, List.append_nil,
      List.flatMap_append] at block ⊢
    refine (requiredText_raises legible "condition").bind fun condition => ?_
    refine (block "thenBranch" (by simp)).bind fun yes => ?_
    have no := block "elseBranch" (by simp)
    split
    · rename_i absent
      rw [absent]
      exact raises_ok _
    · exact no.map fun no => Statement.branch condition yes (some no) location
  case h_3 type =>
    have tagged := tagOf_eq type
    rw [single_faults (by simp [tagged]) (by rw [tagged]; rfl)]
    have text (key : String) : Raises (optionalText (Json.get fields key)) [] :=
      optionalText_raises (Json.get_legible legible key)
    have whole := (block "body" (by simp [tagged, innerKeys])).bind fun body =>
      (text "initializer").bind fun initializer => (text "condition").bind fun condition =>
        (text "incrementor").map fun incrementor =>
          Statement.forLoop initializer condition incrementor body location
    rwa [List.nil_append, List.nil_append, List.append_nil] at whole
  case h_4 type =>
    have tagged := tagOf_eq type
    rw [single_faults (by simp [tagged]) (by rw [tagged]; rfl)]
    refine (requiredText_raises legible "condition").bind fun condition => ?_
    exact (block "body" (by simp [tagged, innerKeys])).map fun body =>
      Statement.whileLoop condition body location
  case h_5 type =>
    have tagged := tagOf_eq type
    rw [leaf_faults (by simp [tagged]) (by rw [tagged]; rfl)]
    have text (key : String) : Raises (optionalText (Json.get fields key)) [] :=
      optionalText_raises (Json.get_legible legible key)
    exact (requiredText_raises legible "name").bind fun name => (text "varType").bind fun type =>
      (text "initializer").map fun initializer =>
        Statement.declaration name type initializer location
  case h_6 type =>
    have tagged := tagOf_eq type
    rw [leaf_faults (by simp [tagged]) (by rw [tagged]; rfl)]
    exact (optionalText_raises (Json.get_legible legible "value")).map fun value =>
      Statement.ret value location
  case h_7 type =>
    have tagged := tagOf_eq type
    rw [leaf_faults (by simp [tagged]) (by rw [tagged]; rfl)]
    exact (requiredText_raises legible "expression").map fun text =>
      Statement.expression text location
  case h_8 =>
    have unknown : ∀ tag ∈ knownTags, tagOf fields ≠ some tag :=
      tagOf_unknown (by simp_all [knownTags])
    rw [leaf_faults (unknown _ (by simp [knownTags])) (innerKeys_unknown unknown),
      Json.text_of_legible (Json.get_legible legible "type")]
    exact raises_ok _

end

theorem items_legible {value : Json} (legible : value.isLegible = true) :
    Json.LegibleItems value.items := by
  cases value with
  | arr items => exact Json.legible_items legible
  | null | bool | int | float | str | obj => simp [Json.items, Json.LegibleItems]

theorem innerItems_legible {fields : List (String × Json)} (legible : Json.LegibleFields fields) :
    Json.LegibleItems (innerItems fields) := by
  intro item member
  obtain ⟨key, -, inside⟩ := List.mem_flatMap.mp member
  exact items_legible (Json.get_legible legible key) item inside

theorem Statement.load_raises (value : Json) (legible : value.isLegible = true) :
    Raises (Statement.load value) (value.objects.flatMap faultsOf) := by
  cases value with
  | obj fields =>
    have inside := Json.legible_fields legible
    have each : ∀ item ∈ innerItems fields,
        Raises (Statement.load item) (item.objects.flatMap faultsOf) := by
      intro item member
      exact Statement.load_raises item (innerItems_legible inside item member)
    rw [Statement.load, objects_obj, List.flatMap_cons, List.flatMap_assoc]
    exact assemble_raises inside each
  | null | bool | int | float | str | arr =>
    simp only [Json.objects]
    exact raises_ok _
termination_by sizeOf value
decreasing_by
  subst_vars
  exact sizeOf_innerItems member

/-! Loading a program -/

def Json.IsProgram (tree : Json) (items : List Json) : Prop :=
  ∃ fields, tree = .obj fields ∧ Json.get fields "type" = .str "Program" ∧
    (Json.lookup fields "body").getD (.arr []) = .arr items

theorem Json.IsProgram.legible {tree : Json} {items : List Json} (holds : tree.IsProgram items)
    (legible : tree.isLegible = true) : Json.LegibleItems items := by
  obtain ⟨fields, rfl, -, body⟩ := holds
  have given := Json.get_legible (Json.legible_fields legible) "body"
  cases found : Json.lookup fields "body" with
  | none =>
    rw [found] at body
    cases body
    simp [Json.LegibleItems]
  | some value =>
    rw [found] at body
    cases body
    rw [Json.get, found] at given
    exact Json.legible_items given

theorem Program.load_raises {tree : Json} {items : List Json} (holds : tree.IsProgram items)
    (legible : tree.isLegible = true) :
    Raises (Program.load tree) ((items.flatMap Json.objects).flatMap faultsOf) := by
  have inside := holds.legible legible
  obtain ⟨fields, rfl, type, body⟩ := holds
  rw [List.flatMap_assoc]
  simp only [Program.load, type, body]
  have statements := loadStatements_raises fun item member =>
    Statement.load_raises item (inside item member)
  have whole := statements.bind fun body =>
    (optionalText_raises (Json.get_legible (Json.legible_fields legible) "sourceFile")).map
      (Program.mk body)
  rwa [List.append_nil] at whole

end ControlFlow
