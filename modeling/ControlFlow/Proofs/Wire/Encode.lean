import ControlFlow.Proofs.Wire.Fault

set_option autoImplicit false

namespace ControlFlow

inductive Absence where
  | omitted
  | null
  deriving DecidableEq, Repr

section

variable (absent : String → Absence)

def absentField (key : String) : List (String × Json) :=
  match absent key with
  | .omitted => []
  | .null => [(key, .null)]

def textField (key : String) : Option String → List (String × Json)
  | none => absentField absent key
  | some text => [(key, .str text)]

def Parameter.encode (parameter : Parameter) : Json :=
  .obj (("name", .str parameter.name) :: textField absent "type" parameter.type)

mutual

/-- The wire form of a statement; an unknown one is written by its tag and location. -/
def Statement.encode : Statement → Json
  | .function name parameters body returnType location =>
      .obj ([("type", .str "FunctionDeclaration"), ("location", location.toJson),
        ("name", .str name), ("parameters", .arr (parameters.map (Parameter.encode absent))),
        ("body", .arr (encodeAll body))] ++ textField absent "returnType" returnType)
  | .branch condition yes no location =>
      .obj ([("type", .str "IfStatement"), ("location", location.toJson),
        ("condition", .str condition), ("thenBranch", .arr (encodeAll yes))] ++ encodeElse no)
  | .forLoop initializer condition incrementor body location =>
      .obj ([("type", .str "ForStatement"), ("location", location.toJson),
        ("body", .arr (encodeAll body))] ++ textField absent "initializer" initializer ++
        textField absent "condition" condition ++ textField absent "incrementor" incrementor)
  | .whileLoop condition body location =>
      .obj [("type", .str "WhileStatement"), ("location", location.toJson),
        ("condition", .str condition), ("body", .arr (encodeAll body))]
  | .declaration name type initializer location =>
      .obj ([("type", .str "VariableDeclaration"), ("location", location.toJson),
        ("name", .str name)] ++ textField absent "varType" type ++
        textField absent "initializer" initializer)
  | .ret value location =>
      .obj ([("type", .str "ReturnStatement"), ("location", location.toJson)] ++
        textField absent "value" value)
  | .expression text location =>
      .obj [("type", .str "ExpressionStatement"), ("location", location.toJson),
        ("expression", .str text)]
  | .unknown tag _ location => .obj [("type", .str tag), ("location", location.toJson)]

def encodeAll : List Statement → List Json
  | [] => []
  | statement :: rest => statement.encode :: encodeAll rest

-- A missing other side is absent, an empty one is an empty list.
def encodeElse : Option (List Statement) → List (String × Json)
  | none => absentField absent "elseBranch"
  | some body => [("elseBranch", .arr (encodeAll body))]

end

def Program.encode (program : Program) : Json :=
  .obj ([("type", .str "Program"), ("body", .arr (encodeAll absent program.body))] ++
    textField absent "sourceFile" program.sourceFile)

end

mutual

-- A statement without the payloads of unknown statements.
def Statement.core : Statement → Statement
  | .function name parameters body returnType location =>
      .function name parameters (coreAll body) returnType location
  | .branch condition yes no location => .branch condition (coreAll yes) (coreElse no) location
  | .forLoop initializer condition incrementor body location =>
      .forLoop initializer condition incrementor (coreAll body) location
  | .whileLoop condition body location => .whileLoop condition (coreAll body) location
  | .unknown tag _ location => .unknown tag [] location
  | statement => statement

def coreAll : List Statement → List Statement
  | [] => []
  | statement :: rest => statement.core :: coreAll rest

def coreElse : Option (List Statement) → Option (List Statement)
  | none => none
  | some body => some (coreAll body)

end

def Program.core (program : Program) : Program :=
  { program with body := coreAll program.body }

mutual

/-- Every function has a name, and the tag of an unknown statement is not a known one. -/
def Statement.Expressible : Statement → Prop
  | .function name _ body _ _ => name ≠ "" ∧ AllExpressible body
  | .branch _ yes no _ => AllExpressible yes ∧ ElseExpressible no
  | .forLoop _ _ _ body _ => AllExpressible body
  | .whileLoop _ body _ => AllExpressible body
  | .unknown tag _ _ => tag ∉ knownTags
  | _ => True

def AllExpressible : List Statement → Prop
  | [] => True
  | statement :: rest => statement.Expressible ∧ AllExpressible rest

def ElseExpressible : Option (List Statement) → Prop
  | none => True
  | some body => AllExpressible body

end

@[simp] theorem lookup_nil (key : String) : Json.lookup [] key = none := rfl

@[simp] theorem lookup_cons (name key : String) (value : Json) (rest : List (String × Json)) :
    Json.lookup ((name, value) :: rest) key =
      if name = key then some value else Json.lookup rest key := by
  by_cases same : name = key <;> simp [Json.lookup, same]

@[simp] theorem lookup_append (left right : List (String × Json)) (key : String) :
    Json.lookup (left ++ right) key = (Json.lookup left key).or (Json.lookup right key) := by
  simp [Json.lookup, List.find?_append, Option.map_or]

section

variable (absent : String → Absence)

@[simp] theorem lookup_absentField {name key : String} (other : name ≠ key) :
    Json.lookup (absentField absent name) key = none := by
  rw [absentField]
  cases absent name <;> simp [other]

@[simp] theorem getD_absentField (key : String) :
    (Json.lookup (absentField absent key) key).getD .null = .null := by
  rw [absentField]
  cases absent key <;> simp

@[simp] theorem lookup_textField {name key : String} (text : Option String) (other : name ≠ key) :
    Json.lookup (textField absent name text) key = none := by
  cases text with
  | none => exact lookup_absentField absent other
  | some text => simp [textField, other]

@[simp] theorem optionalText_textField (key : String) (text : Option String) :
    optionalText ((Json.lookup (textField absent key text) key).getD .null) = .ok text := by
  cases text with
  | none => simp [textField, optionalText]
  | some text => simp [textField, optionalText, Except.map]

@[simp] theorem Location.load_toJson (location : Location) :
    Location.load location.toJson = .ok location := rfl

@[simp] theorem loadParameters_encode (parameters : List Parameter) :
    loadParameters (.arr (parameters.map (Parameter.encode absent))) = .ok parameters := by
  rw [loadParameters]
  induction parameters with
  | nil => rfl
  | cons parameter rest ih =>
    have type := optionalText_textField absent "type" parameter.type
    simp [Parameter.encode, Parameter.loadEach, Parameter.load, requiredText, Json.get, type, ih,
      bind, Except.bind]

@[simp] theorem functionName_str {name : String} (named : name ≠ "") :
    functionName (.str name) = .ok name := by
  simp [functionName, Json.truthy, named]

theorem load_unknown {fields : List (String × Json)} {location : Location} {tag : String}
    (tagged : Json.get fields "type" = .str tag) (unknown : tag ∉ knownTags)
    (located : Location.load (Json.get fields "location") = .ok location) :
    Statement.load (.obj fields) = .ok (.unknown tag fields location) := by
  simp only [Statement.load, Statement.assemble, tagged, located, bind, Except.bind]
  split <;> simp_all [knownTags]

mutual

theorem Statement.load_encode (statement : Statement) (expressible : statement.Expressible) :
    ∃ loaded, Statement.load (statement.encode absent) = .ok loaded ∧
      loaded.core = statement.core := by
  cases statement with
  | function name parameters body returnType location =>
    obtain ⟨named, inside⟩ := expressible
    obtain ⟨inner, loaded, same⟩ := loadStatements_encode body inside
    refine ⟨.function name parameters inner returnType location, ?_, by simp [Statement.core, same]⟩
    simp [Statement.encode, Statement.load, Statement.assemble, blockOf_loadBlocks, Json.get, bind,
      Except.bind, loadBlock, loaded, named]
  | branch condition yes no location =>
    obtain ⟨inYes, inNo⟩ := expressible
    obtain ⟨yesInner, yesLoaded, yesSame⟩ := loadStatements_encode yes inYes
    cases no with
    | none =>
      refine ⟨.branch condition yesInner none location, ?_, by simp [Statement.core, yesSame]⟩
      simp [Statement.encode, encodeElse, Statement.load, Statement.assemble, blockOf_loadBlocks,
        Json.get, bind, Except.bind, loadBlock, yesLoaded, requiredText]
    | some no =>
      obtain ⟨noInner, noLoaded, noSame⟩ := loadStatements_encode no inNo
      refine ⟨.branch condition yesInner (some noInner) location, ?_,
        by simp [Statement.core, coreElse, yesSame, noSame]⟩
      simp [Statement.encode, encodeElse, Statement.load, Statement.assemble, blockOf_loadBlocks,
        Json.get, bind, Except.bind, loadBlock, yesLoaded, noLoaded, requiredText]
  | forLoop initializer condition incrementor body location =>
    obtain ⟨inner, loaded, same⟩ := loadStatements_encode body expressible
    refine ⟨.forLoop initializer condition incrementor inner location, ?_,
      by simp [Statement.core, same]⟩
    simp [Statement.encode, Statement.load, Statement.assemble, blockOf_loadBlocks, Json.get, bind,
      Except.bind, loadBlock, loaded]
  | whileLoop condition body location =>
    obtain ⟨inner, loaded, same⟩ := loadStatements_encode body expressible
    refine ⟨.whileLoop condition inner location, ?_, by simp [Statement.core, same]⟩
    simp [Statement.encode, Statement.load, Statement.assemble, blockOf_loadBlocks, Json.get, bind,
      Except.bind, loadBlock, loaded, requiredText]
  | declaration | ret | expression =>
    refine ⟨_, ?_, rfl⟩
    simp [Statement.encode, Statement.load, Statement.assemble, Json.get, bind, Except.bind,
      requiredText]
  | unknown tag raw location =>
    exact ⟨_, load_unknown rfl expressible (Location.load_toJson location), rfl⟩

theorem loadStatements_encode (block : List Statement) (expressible : AllExpressible block) :
    ∃ loaded, loadStatements (encodeAll absent block) = .ok loaded ∧
      coreAll loaded = coreAll block := by
  cases block with
  | nil => exact ⟨[], rfl, rfl⟩
  | cons statement rest =>
    obtain ⟨first, loaded, same⟩ := Statement.load_encode statement expressible.1
    obtain ⟨others, loadedRest, sameRest⟩ := loadStatements_encode rest expressible.2
    refine ⟨first :: others, ?_, by simp [coreAll, same, sameRest]⟩
    simp [encodeAll, loadStatements, loaded, loadedRest, bind, Except.bind]

end

theorem written_program_loads (program : Program) (expressible : AllExpressible program.body) :
    ∃ loaded, Program.load (program.encode absent) = .ok loaded ∧ loaded.core = program.core := by
  obtain ⟨body, loaded, same⟩ := loadStatements_encode absent program.body expressible
  refine ⟨⟨body, program.sourceFile⟩, ?_, by simp [Program.core, same]⟩
  simp [Program.encode, Program.load, Json.get, loaded, bind, Except.bind]

end

def nestedProgram : Program where
  body :=
    [.branch "ready"
      [.function "inner" [⟨"x", none⟩, ⟨"y", some ""⟩] [.unknown "" [("k", .int 1)] ⟨⟨1, 2⟩, ⟨3, 4⟩⟩]
        none .unknown]
      (some []) .unknown,
    .branch "" [.ret none .unknown] none .unknown]
  sourceFile := none

theorem written_program_loads_nested :
    AllExpressible nestedProgram.body ∧
      ∃ loaded, Program.load (nestedProgram.encode fun _ => .omitted) = .ok loaded ∧
        loaded.core = nestedProgram.core := by
  have expressible : AllExpressible nestedProgram.body := by
    simp [nestedProgram, AllExpressible, ElseExpressible, Statement.Expressible, knownTags]
  exact ⟨expressible, written_program_loads (fun _ => .omitted) nestedProgram expressible⟩

end ControlFlow
