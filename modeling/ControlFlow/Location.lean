import ControlFlow.Json.Value

set_option autoImplicit false

namespace ControlFlow

structure Position where
  line : Int
  column : Int
  deriving DecidableEq, Repr, Inhabited

structure Location where
  start : Position
  stop : Position
  deriving DecidableEq, Repr, Inhabited

namespace Location

def unknown : Location := ⟨⟨0, 0⟩, ⟨0, 0⟩⟩

-- How many lines a location covers, the first and the last included.
def lineSpan (location : Location) : Int :=
  location.stop.line - location.start.line + 1

end Location

def Position.toJson (position : Position) : Json :=
  .obj [("line", .int position.line), ("column", .int position.column)]

def Location.toJson (location : Location) : Json :=
  .obj [("start", location.start.toJson), ("end", location.stop.toJson)]

end ControlFlow
