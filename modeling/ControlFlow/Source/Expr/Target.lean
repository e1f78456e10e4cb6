import ControlFlow.Source.Expr

set_option autoImplicit false

namespace ControlFlow.Source

def Expr.isSingleTarget : Expr → Bool
  | .name _ | .attribute _ _ | .subscript _ _ => true
  | _ => false

mutual

def Expr.isTarget : Expr → Bool
  | .name _ | .attribute _ _ | .subscript _ _ => true
  | .tuple items | .list items => areStarTargets items
  | _ => false

def areStarTargets : List Expr → Bool
  | [] => true
  | .starred value :: rest => value.isTarget && areStarTargets rest
  | item :: rest => item.isTarget && areStarTargets rest

end

def Expr.isStarTarget : Expr → Bool
  | .starred value => value.isTarget
  | expr => expr.isTarget

mutual

def Expr.isDeletable : Expr → Bool
  | .name _ | .attribute _ _ | .subscript _ _ => true
  | .tuple items | .list items => areDeletable items
  | _ => false

def areDeletable : List Expr → Bool
  | [] => true
  | item :: rest => item.isDeletable && areDeletable rest

end

end ControlFlow.Source
