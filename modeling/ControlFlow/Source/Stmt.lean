import ControlFlow.Source.Expr

set_option autoImplicit false

namespace ControlFlow.Source

structure Alias where
  name : String
  given : Option String
  deriving DecidableEq, Repr

inductive Leaf where
  | pass
  | break
  | continue
  | augment (target : Expr) (op : BinaryOp) (value : Expr)
  | delete (targets : List Expr)
  | raise (exception cause : Option Expr)
  | assert (test : Expr) (message : Option Expr)
  | import (modules : List Alias)
  -- An import from a module; `dots` counts the points in front of its name.
  | importFrom (dots : Nat) (source : Option String) (names : List Alias)
  | global (names : List String)
  | nonlocal (names : List String)

structure WithItem where
  context : Expr
  target : Option Expr

mutual

inductive Stmt where
  | function (isAsync : Bool) (decorators : List Expr) (name : String) (formals : Formals)
      (returns : Option Expr) (body : List Stmt) (location : Location)
  | classDef (decorators : List Expr) (name : String) (bases : List Expr) (keywords : List Keyword)
      (body : List Stmt) (location : Location)
  | branch (test : Expr) (body otherwise : List Stmt) (location : Location)
  | forLoop (isAsync : Bool) (target source : Expr) (body otherwise : List Stmt)
      (location : Location)
  | whileLoop (test : Expr) (body otherwise : List Stmt) (location : Location)
  | withBlock (isAsync : Bool) (items : List WithItem) (body : List Stmt) (location : Location)
  | tryBlock (body : List Stmt) (handlers : List Handler) (otherwise final : List Stmt)
      (location : Location)
  | tryGroup (body : List Stmt) (handlers : List Handler) (otherwise final : List Stmt)
      (location : Location)
  | matchBlock (subject : Expr) (cases : List Case) (location : Location)
  | assign (targets : List Expr) (value : Expr) (valueLocation : Location) (location : Location)
  | annotate (target hint : Expr) (value : Option Expr) (location : Location)
  | ret (value : Option Expr) (location : Location)
  | expression (value : Expr) (location : Location)
  | leaf (leaf : Leaf) (location : Location)

inductive Handler where
  | mk (type : Option Expr) (name : Option String) (body : List Stmt)

inductive Case where
  | mk (values : List Expr) (guard : Option Expr) (body : List Stmt)

end

instance : Inhabited Stmt := ⟨.leaf .pass .unknown⟩

def Stmt.location : Stmt → Location
  | .function _ _ _ _ _ _ location | .classDef _ _ _ _ _ location | .branch _ _ _ location
  | .forLoop _ _ _ _ _ location | .whileLoop _ _ _ location | .withBlock _ _ _ location
  | .tryBlock _ _ _ _ location | .tryGroup _ _ _ _ location | .matchBlock _ _ location
  | .assign _ _ _ location | .annotate _ _ _ location | .ret _ location | .expression _ location
  | .leaf _ location => location

end ControlFlow.Source
