import ControlFlow.Metadata
import ControlFlow.Graph.Wire
import ControlFlow.Summary.Callee
import ControlFlow.Summary.Metrics

set_option autoImplicit false

namespace ControlFlow

structure FunctionSummary where
  id : String
  name : String
  parameters : List String
  lineCount : Int
  complexity : Int
  hasLoops : Bool
  hasConditionals : Bool
  returnType : Option String
  location : Location
  deriving DecidableEq, Repr

structure Call where
  id : String
  caller : String
  callee : String
  location : Location
  deriving DecidableEq, Repr

structure Summary where
  stamp : Stamp
  functions : List FunctionSummary
  calls : List Call
  deriving DecidableEq, Repr

def FunctionDecl.summarize (function : FunctionDecl) (index : Nat) : FunctionSummary where
  id := "func_" ++ toString index
  name := function.name
  parameters := function.parameters.map Parameter.render
  lineCount := function.location.lineSpan
  complexity := ControlFlow.complexity function.body
  hasLoops := ControlFlow.hasLoops function.body
  hasConditionals := ControlFlow.hasConditionals function.body
  returnType := function.returnType
  location := function.location

mutual

def Statement.callees : Statement → List (String × Location)
  | .expression text location =>
      match callee? text.toList with
      | some name => [(String.ofList name, location)]
      | none => []
  | .branch _ thenBranch elseBranch _ => callees thenBranch ++ elseCallees elseBranch
  | .forLoop _ _ _ body _ => callees body
  | .whileLoop _ body _ => callees body
  | _ => []

def callees : List Statement → List (String × Location)
  | [] => []
  | statement :: rest => statement.callees ++ callees rest

def elseCallees : Option (List Statement) → List (String × Location)
  | none => []
  | some body => callees body

end

def callSites (functions : List FunctionDecl) : List (String × String × Location) :=
  functions.flatMap fun function =>
    (callees function.body).map fun site => (function.name, site.1, site.2)

def Program.summarize (program : Program) (stamp : Stamp) : Summary where
  stamp := stamp
  functions := program.functions.mapIdx (fun index function => function.summarize index)
  calls :=
    (callSites program.functions).mapIdx fun index site =>
      ⟨"call_" ++ toString index, site.1, site.2.1, site.2.2⟩

def Summary.ofProgram (program : Except Failure Program) (metadata : Json) (timestamp : Int) :
    Except Failure Summary := do
  let program ← program
  let metadata ← Metadata.load metadata
  .ok (program.summarize (metadata.stamp timestamp))

def Summary.function? (summary : Summary) (name : String) : Option FunctionSummary :=
  summary.functions.find? (fun f => f.name == name)

def FunctionSummary.toJson (function : FunctionSummary) : Json :=
  .obj ([("id", .str function.id), ("name", .str function.name),
      ("parameters", texts function.parameters)] ++
    optionalField "returnType" function.returnType ++
    [("lineCount", .int function.lineCount), ("complexity", .int function.complexity),
     ("hasLoops", .bool function.hasLoops), ("hasConditionals", .bool function.hasConditionals),
     ("location", function.location.toJson)])

def Call.toJson (call : Call) : Json :=
  .obj [("id", .str call.id), ("caller", .str call.caller), ("callee", .str call.callee),
    ("location", call.location.toJson)]

def Summary.toJson (summary : Summary) : Json :=
  .obj [("metadata", summary.stamp.toJson),
    ("functions", .arr (summary.functions.map FunctionSummary.toJson)),
    ("callGraph", .arr (summary.calls.map Call.toJson))]

end ControlFlow
