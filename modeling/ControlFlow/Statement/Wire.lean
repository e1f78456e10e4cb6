import ControlFlow.Statement
import ControlFlow.Json.Integer
import ControlFlow.Json.Text

set_option autoImplicit false

namespace ControlFlow

def coordinate (fields : List (String × Json)) (key : String) : Except Failure Int :=
  match Json.lookup fields key with
  | none => .ok 0
  | some value => value.toInteger

-- The fields of a location's start or end; a false value has none.
def positionFields : Json → Except Failure (List (String × Json))
  | .obj fields => .ok fields
  | value => if value.truthy then .error (.noMember value.kind.name "get") else .ok []

def Position.load (value : Json) : Except Failure Position := do
  let fields ← positionFields value
  let line ← coordinate fields "line"
  let column ← coordinate fields "column"
  .ok ⟨line, column⟩

def Location.load : Json → Except Failure Location
  | .obj fields => do
      let start ← Position.load (Json.get fields "start")
      let stop ← Position.load (Json.get fields "end")
      .ok ⟨start, stop⟩
  | _ => .ok .unknown

def optionalText : Json → Except Failure (Option String)
  | .null => .ok none
  | value => value.text.map some

-- The text of a field that is always there; a missing key gives the empty text.
def requiredText (fields : List (String × Json)) (key : String) : Except Failure String :=
  match Json.lookup fields key with
  | none => .ok ""
  | some value => value.text

def Parameter.load (fields : List (String × Json)) : Except Failure Parameter := do
  let name ← requiredText fields "name"
  let type ← optionalText (Json.get fields "type")
  .ok ⟨name, type⟩

-- What is no object is passed over.
def Parameter.loadEach : List Json → Except Failure (List Parameter)
  | [] => .ok []
  | .obj fields :: rest => do
      let parameter ← Parameter.load fields
      let others ← loadEach rest
      .ok (parameter :: others)
  | _ :: rest => loadEach rest

-- The parameters of a function: the objects of a list. Other values that can be walked through hold
-- none; a number or a truth value cannot.
def loadParameters : Json → Except Failure (List Parameter)
  | .arr items => Parameter.loadEach items
  | .str _ | .obj _ | .null => .ok []
  | value => if value.truthy then .error (.notIterable value.kind) else .ok []

def functionName (value : Json) : Except Failure String :=
  if value.truthy then value.text else .ok "anonymous"

def blockOf (blocks : List (String × Except Failure (List Statement))) (key : String) :
    Except Failure (List Statement) :=
  match blocks.find? (fun entry => entry.1 == key) with
  | some (_, block) => block
  | none => .ok []

-- A statement from its fields and from the statement lists that its fields hold.
def Statement.assemble (fields : List (String × Json))
    (blocks : List (String × Except Failure (List Statement))) : Except Failure Statement := do
  let location ← Location.load (Json.get fields "location")
  let text (key : String) : Except Failure (Option String) := optionalText (Json.get fields key)
  match Json.get fields "type" with
  | .str "FunctionDeclaration" =>
      let parameters ← loadParameters (Json.get fields "parameters")
      let name ← functionName (Json.get fields "name")
      let body ← blockOf blocks "body"
      let returnType ← text "returnType"
      .ok (.function name parameters body returnType location)
  | .str "IfStatement" =>
      let condition ← requiredText fields "condition"
      let thenBranch ← blockOf blocks "thenBranch"
      match Json.get fields "elseBranch" with
      | .null => .ok (.branch condition thenBranch none location)
      | _ =>
          let elseBranch ← blockOf blocks "elseBranch"
          .ok (.branch condition thenBranch (some elseBranch) location)
  | .str "ForStatement" =>
      let body ← blockOf blocks "body"
      let initializer ← text "initializer"
      let condition ← text "condition"
      let incrementor ← text "incrementor"
      .ok (.forLoop initializer condition incrementor body location)
  | .str "WhileStatement" =>
      let condition ← requiredText fields "condition"
      let body ← blockOf blocks "body"
      .ok (.whileLoop condition body location)
  | .str "VariableDeclaration" =>
      let name ← requiredText fields "name"
      let type ← text "varType"
      let initializer ← text "initializer"
      .ok (.declaration name type initializer location)
  | .str "ReturnStatement" =>
      let value ← text "value"
      .ok (.ret value location)
  | .str "ExpressionStatement" =>
      let text ← requiredText fields "expression"
      .ok (.expression text location)
  | tag =>
      let tag ← tag.text
      .ok (.unknown tag fields location)

mutual

def Statement.load : Json → Except Failure Statement
  | .obj fields => Statement.assemble fields (loadBlocks fields)
  | value => .ok (.unknown value.kind.name [] .unknown)

def loadStatements : List Json → Except Failure (List Statement)
  | [] => .ok []
  | item :: rest => do
      let statement ← Statement.load item
      let statements ← loadStatements rest
      .ok (statement :: statements)

def loadBlock : Json → Except Failure (List Statement)
  | .arr items => loadStatements items
  | _ => .ok []

def loadBlocks : List (String × Json) → List (String × Except Failure (List Statement))
  | [] => []
  | (key, value) :: rest => (key, loadBlock value) :: loadBlocks rest

end

def Program.load : Json → Except Failure Program
  | .null => .error .missingRoot
  | .obj fields =>
      match Json.get fields "type" with
      | .str "Program" =>
          match (Json.lookup fields "body").getD (.arr []) with
          | .arr items => do
              let body ← loadStatements items
              let sourceFile ← optionalText (Json.get fields "sourceFile")
              .ok ⟨body, sourceFile⟩
          | _ => .error .rootBodyNotList
      | _ => .error .rootNotProgram
  | _ => .error .rootNotProgram

end ControlFlow
