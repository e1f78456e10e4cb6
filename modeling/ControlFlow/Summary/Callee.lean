import ControlFlow.Failure
import ControlFlow.Text.Blank
import ControlFlow.Text.Word

set_option autoImplicit false

namespace ControlFlow

def isCalleeStart (c : Char) : Bool :=
  ('A' ≤ c && c ≤ 'Z') || ('a' ≤ c && c ≤ 'z') || c = '_' || c = '$'

def isCalleePart (c : Char) : Bool :=
  Text.isWord c || c = '$'

def callee? (expression : List Char) : Option (List Char) :=
  match expression.dropWhile Text.isBlank with
  | [] => none
  | c :: rest =>
      if isCalleeStart c && (rest.dropWhile isCalleePart).head? = some '(' then
        some (c :: rest.takeWhile isCalleePart)
      else none

def calleeOfValue : Json → Except Failure (Option String)
  | .str text => .ok ((callee? text.toList).map String.ofList)
  | value => if value.truthy then .error (.notText value.kind) else .ok none

end ControlFlow
