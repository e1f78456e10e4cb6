import ControlFlow.Failure
import ControlFlow.Json.Writer

set_option autoImplicit false

namespace ControlFlow.Json

mutual

-- No integer in a value is longer than integers are written.
def isLegible : Json → Bool
  | .int n => n.natAbs < Nat.pow 10 digitLimit
  | .arr items => areLegible items
  | .obj fields => areFieldsLegible fields
  | _ => true

def areLegible : List Json → Bool
  | [] => true
  | item :: rest => item.isLegible && areLegible rest

def areFieldsLegible : List (String × Json) → Bool
  | [] => true
  | (_, value) :: rest => value.isLegible && areFieldsLegible rest

end

def text (value : Json) : Except Failure String :=
  if value.isLegible then .ok value.shown else .error .longInteger

def written (value : Json) : Except Failure String :=
  if value.isLegible then .ok value.write else .error .longInteger

@[simp] theorem text_str (text : String) : (Json.str text).text = .ok text := by
  simp [Json.text, isLegible, shown]

end ControlFlow.Json
