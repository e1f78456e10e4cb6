import ControlFlow.Location
import ControlFlow.Number.Double

set_option autoImplicit false

namespace ControlFlow.Source

inductive Constant where
  | none
  | true
  | false
  | ellipsis
  | int (value : Nat)
  | float (value : Double)
  | imaginary (value : Double)
  | text (points : List Nat) (marked : Bool)
  | bytes (values : List Nat)
  deriving DecidableEq, Repr

inductive UnaryOp where
  | not
  | invert
  | plus
  | minus
  deriving DecidableEq, Repr

inductive BinaryOp where
  | add
  | sub
  | mul
  | matmul
  | div
  | mod
  | floorDiv
  | pow
  | shiftLeft
  | shiftRight
  | bitOr
  | bitXor
  | bitAnd
  deriving DecidableEq, Repr

inductive BoolOp where
  | and
  | or
  deriving DecidableEq, Repr

inductive Comparator where
  | eq
  | ne
  | lt
  | le
  | gt
  | ge
  | is
  | isNot
  | isIn
  | notIn
  deriving DecidableEq, Repr

inductive Collection where
  | list
  | set
  | generator
  deriving DecidableEq, Repr

mutual

inductive Expr where
  | name (id : String)
  | constant (value : Constant)
  | joined (parts : List Expr)
  | field (value : Expr) (conversion : Option Char) (spec : Option Expr)
  | boolean (op : BoolOp) (operands : List Expr)
  | named (target : String) (value : Expr)
  | binary (op : BinaryOp) (left right : Expr)
  | unary (op : UnaryOp) (operand : Expr)
  | lambda (formals : Formals) (body : Expr) (bodyLocation : Location)
  | conditional (test body otherwise : Expr)
  | dict (entries : List Entry)
  | set (items : List Expr)
  | list (items : List Expr)
  | tuple (items : List Expr)
  | comprehension (collection : Collection) (element : Expr) (clauses : List Clause)
  | dictComprehension (key value : Expr) (clauses : List Clause)
  | await (value : Expr)
  | yield (value : Option Expr)
  | yieldFrom (value : Expr)
  | compare (first : Expr) (rest : List Comparison)
  | call (function : Expr) (arguments : List Expr) (keywords : List Keyword)
  | attribute (value : Expr) (name : String)
  | subscript (value index : Expr)
  | starred (value : Expr)
  | slice (lower upper step : Option Expr)

inductive Comparison where
  | mk (op : Comparator) (operand : Expr)

inductive Entry where
  | pair (key value : Expr)
  | unpack (value : Expr)

inductive Keyword where
  | named (name : String) (value : Expr)
  | unpack (value : Expr)

inductive Clause where
  | mk (isAsync : Bool) (target source : Expr) (conditions : List Expr)

inductive Formal where
  | mk (name : String) (hint default : Option Expr)

inductive Formals where
  | mk (positionalOnly positional : List Formal) (rest : Option Formal) (keywordOnly : List Formal)
      (keywords : Option Formal)

end

instance : Inhabited Expr := ⟨.constant .none⟩

def Formals.empty : Formals := .mk [] [] none [] none

def Formal.name : Formal → String
  | .mk name _ _ => name

def Formal.hint : Formal → Option Expr
  | .mk _ hint _ => hint

def Formal.default : Formal → Option Expr
  | .mk _ _ default => default

def Expr.isText : Expr → Bool
  | .constant (.text _ _) => true
  | _ => false

def UnaryOp.text : UnaryOp → String
  | .not => "not"
  | .invert => "~"
  | .plus => "+"
  | .minus => "-"

def BinaryOp.text : BinaryOp → String
  | .add => "+"
  | .sub => "-"
  | .mul => "*"
  | .matmul => "@"
  | .div => "/"
  | .mod => "%"
  | .floorDiv => "//"
  | .pow => "**"
  | .shiftLeft => "<<"
  | .shiftRight => ">>"
  | .bitOr => "|"
  | .bitXor => "^"
  | .bitAnd => "&"

def BoolOp.text : BoolOp → String
  | .and => "and"
  | .or => "or"

def Comparator.text : Comparator → String
  | .eq => "=="
  | .ne => "!="
  | .lt => "<"
  | .le => "<="
  | .gt => ">"
  | .ge => ">="
  | .is => "is"
  | .isNot => "is not"
  | .isIn => "in"
  | .notIn => "not in"

end ControlFlow.Source
