import ControlFlow.Location

set_option autoImplicit false

namespace ControlFlow

structure Parameter where
  name : String
  type : Option String
  deriving DecidableEq, Repr

def Parameter.render (parameter : Parameter) : String :=
  match parameter.type with
  | none => parameter.name
  | some type => if type.isEmpty then parameter.name else parameter.name ++ ": " ++ type

inductive Statement where
  | function (name : String) (parameters : List Parameter) (body : List Statement)
      (returnType : Option String) (location : Location)
  | branch (condition : String) (thenBranch : List Statement) (elseBranch : Option (List Statement))
      (location : Location)
  | forLoop (initializer condition incrementor : Option String) (body : List Statement)
      (location : Location)
  | whileLoop (condition : String) (body : List Statement) (location : Location)
  | declaration (name : String) (type initializer : Option String) (location : Location)
  | ret (value : Option String) (location : Location)
  | expression (text : String) (location : Location)
  | unknown (tag : String) (raw : List (String × Json)) (location : Location)
  deriving Inhabited

structure FunctionDecl where
  name : String
  parameters : List Parameter
  body : List Statement
  returnType : Option String
  location : Location
  deriving Inhabited

structure Program where
  body : List Statement
  sourceFile : Option String
  deriving Inhabited

def Statement.function? : Statement → Option FunctionDecl
  | .function name parameters body returnType location =>
      some ⟨name, parameters, body, returnType, location⟩
  | _ => none

def Program.functions (program : Program) : List FunctionDecl :=
  program.body.filterMap Statement.function?

def Program.findFunction (program : Program) (name : String) : Option FunctionDecl :=
  program.functions.find? (fun f => f.name == name)

end ControlFlow
