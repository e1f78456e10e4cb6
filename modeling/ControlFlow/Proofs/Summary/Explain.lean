import ControlFlow.Proofs.Summary.Recursion
import ControlFlow.Summary.Explain

set_option autoImplicit false

namespace ControlFlow

def Summary.textOf (summary : Summary) (function : FunctionSummary) : String :=
  function.explain (summary.calledBy function.name) (summary.recursiveNames.contains function.name)

section

variable {summary : Summary} {functions : List FunctionSummary} {found : List (String × String)}

end

/-- The items of a list in order of their first appearance, each of them once. -/
structure FirstMentions (items found : List String) : Prop where
  mem_iff : ∀ item, item ∈ found ↔ item ∈ items
  nodup : found.Nodup
  ordered : found.Pairwise fun first second => items.idxOf first < items.idxOf second

/-- A part of a text that is a sentence if a condition holds, and else is missing. -/
def SaidIf (condition : Prop) (sentence part : String) : Prop :=
  (condition → part = sentence) ∧ (¬condition → part = "")

structure Explanation where
  band : String
  shape : String
  called : List String
  calls : String
  recursion : String
  warning : String

namespace Explanation

def text (explanation : Explanation) (function : FunctionSummary) : String :=
  "Function `" ++ function.name ++ "()` has complexity **" ++ toString function.complexity ++
    "** (" ++ explanation.band ++ "), contains " ++ explanation.shape ++ ", and spans **" ++
    toString function.lineCount ++ "** lines." ++ explanation.calls ++ explanation.recursion ++
    explanation.warning

structure Fits (explanation : Explanation) (summary : Summary) (function : FunctionSummary) :
    Prop where
  low : function.complexity ≤ 5 → explanation.band = "low (easy to understand)"
  moderate : 5 < function.complexity → function.complexity ≤ 10 →
    explanation.band = "moderate (some branching)"
  high : 10 < function.complexity → explanation.band = "high (complex, consider refactoring)"
  mixed : function.hasLoops = true → function.hasConditionals = true →
    explanation.shape = "loops and conditional branches"
  looping : function.hasLoops = true → function.hasConditionals = false →
    explanation.shape = "loops but no conditional branches"
  branching : function.hasLoops = false → function.hasConditionals = true →
    explanation.shape = "conditional branches but no loops"
  straight : function.hasLoops = false → function.hasConditionals = false →
    explanation.shape = "straight-line code only"
  called : FirstMentions
    ((summary.calls.filter fun call => call.caller = function.name).map Call.callee)
    explanation.called
  calls : SaidIf (∃ call ∈ summary.calls, call.caller = function.name)
    (" It calls " ++ ", ".intercalate (explanation.called.take 5) ++ ".") explanation.calls
  recursion : SaidIf (∃ chain, summary.CallChain function.name function.name chain)
    " It is recursive (directly or through other functions)." explanation.recursion
  warning : SaidIf (12 < function.complexity ∨ 60 < function.lineCount)
    " ⚠️ This function may be hard to maintain." explanation.warning

end Explanation

section

variable (summary : Summary) (function : FunctionSummary)

def Summary.explanation : Explanation where
  band := complexityBand function.complexity
  shape := bodyShape function.hasLoops function.hasConditionals
  called := summary.calledBy function.name
  calls := callSentence (summary.calledBy function.name)
  recursion := if summary.recursiveNames.contains function.name then
    " It is recursive (directly or through other functions)." else ""
  warning := if isLarge function then " ⚠️ This function may be hard to maintain." else ""

end

end ControlFlow
