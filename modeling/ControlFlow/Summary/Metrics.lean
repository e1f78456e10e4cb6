import ControlFlow.Statement

set_option autoImplicit false

namespace ControlFlow

mutual

def Statement.decisions : Statement → Nat
  | .branch _ thenBranch elseBranch _ => 1 + decisions thenBranch + elseDecisions elseBranch
  | .forLoop _ _ _ body _ => 1 + decisions body
  | .whileLoop _ body _ => 1 + decisions body
  | _ => 0

def decisions : List Statement → Nat
  | [] => 0
  | statement :: rest => statement.decisions + decisions rest

def elseDecisions : Option (List Statement) → Nat
  | none => 0
  | some body => decisions body

end

def complexity (body : List Statement) : Nat :=
  1 + decisions body

mutual

def Statement.hasLoops : Statement → Bool
  | .forLoop .. => true
  | .whileLoop .. => true
  | .branch _ thenBranch elseBranch _ => hasLoops thenBranch || elseHasLoops elseBranch
  | _ => false

def hasLoops : List Statement → Bool
  | [] => false
  | statement :: rest => statement.hasLoops || hasLoops rest

def elseHasLoops : Option (List Statement) → Bool
  | none => false
  | some body => hasLoops body

end

mutual

def Statement.hasConditionals : Statement → Bool
  | .branch .. => true
  | .forLoop _ _ _ body _ => hasConditionals body
  | .whileLoop _ body _ => hasConditionals body
  | _ => false

def hasConditionals : List Statement → Bool
  | [] => false
  | statement :: rest => statement.hasConditionals || hasConditionals rest

end

end ControlFlow
