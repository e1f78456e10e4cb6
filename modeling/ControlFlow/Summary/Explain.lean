import ControlFlow.Summary.CallGraph

set_option autoImplicit false

namespace ControlFlow

def complexityBand (complexity : Int) : String :=
  if complexity ≤ 5 then "low (easy to understand)"
  else if complexity ≤ 10 then "moderate (some branching)"
  else "high (complex, consider refactoring)"

def bodyShape : Bool → Bool → String
  | true, true => "loops and conditional branches"
  | true, false => "loops but no conditional branches"
  | false, true => "conditional branches but no loops"
  | false, false => "straight-line code only"

def Summary.calledBy (summary : Summary) (caller : String) : List String :=
  distinct ((summary.callPairs.filter (fun pair => pair.1 == caller)).map Prod.snd)

def callSentence (called : List String) : String :=
  if called.isEmpty then "" else " It calls " ++ ", ".intercalate (called.take 5) ++ "."

def isLarge (function : FunctionSummary) : Bool :=
  function.complexity > 12 || function.lineCount > 60

def FunctionSummary.explain (function : FunctionSummary) (called : List String)
    (recursive : Bool) : String :=
  "Function `" ++ function.name ++ "()` has complexity **" ++ toString function.complexity ++
    "** (" ++ complexityBand function.complexity ++ "), contains " ++
    bodyShape function.hasLoops function.hasConditionals ++ ", and spans **" ++
    toString function.lineCount ++ "** lines." ++
    callSentence called ++
    (if recursive then " It is recursive (directly or through other functions)." else "") ++
    (if isLarge function then " ⚠️ This function may be hard to maintain." else "")

/-- The explanation of every name, in order of first definition; the last definition of a name is
the one explained. -/
def Summary.explain (summary : Summary) : List (String × String) :=
  let recursive := summary.recursiveNames
  summary.functions.foldl
    (fun found function =>
      let text :=
        function.explain (summary.calledBy function.name) (recursive.contains function.name)
      if found.any (fun entry => entry.1 == function.name) then
        found.map (fun entry => if entry.1 == function.name then (entry.1, text) else entry)
      else found ++ [(function.name, text)])
    []

end ControlFlow
