import ControlFlow.Summary

set_option autoImplicit false

namespace ControlFlow

structure Counters where
  functions : Nat
  calls : Nat
  deriving DecidableEq, Repr

-- Work with counters. What was counted before a failure stays counted.
abbrev Counting := EStateM Failure Counters

namespace Counters

def zero : Counters := ⟨0, 0⟩

def function (decl : FunctionDecl) : Counting FunctionSummary := do
  let counters ← get
  set { counters with functions := counters.functions + 1 }
  return decl.summarize counters.functions

def call (caller callee : String) (location : Location) : Counting Call := do
  let counters ← get
  set { counters with calls := counters.calls + 1 }
  return ⟨"call_" ++ toString counters.calls, caller, callee, location⟩

end Counters

mutual

def Statement.findCalls (caller : String) : Statement → List Call → Counting (List Call)
  | .expression text location, found =>
      match callee? text.toList with
      | some name => do
          let call ← Counters.call caller (String.ofList name) location
          return found ++ [call]
      | none => return found
  | .branch _ thenBranch elseBranch _, found => do
      let found ← findAllCalls caller thenBranch found
      findElseCalls caller elseBranch found
  | .forLoop _ _ _ body _, found => findAllCalls caller body found
  | .whileLoop _ body _, found => findAllCalls caller body found
  | _, found => return found

def findAllCalls (caller : String) : List Statement → List Call → Counting (List Call)
  | [], found => return found
  | statement :: rest, found => do
      let found ← statement.findCalls caller found
      findAllCalls caller rest found

def findElseCalls (caller : String) :
    Option (List Statement) → List Call → Counting (List Call)
  | none, found => return found
  | some body, found => findAllCalls caller body found

end

namespace Counters

def summaries : List FunctionDecl → Counting (List FunctionSummary × List Call)
  | [] => return ([], [])
  | decl :: rest => do
      let summary ← function decl
      let calls ← findAllCalls decl.name decl.body []
      let (others, more) ← summaries rest
      return (summary :: others, calls ++ more)

-- The clock is looked at when all else is done.
def count (program : Program) (metadata : Metadata) (clock : Moment) : Counting Summary := do
  set zero
  let (functions, calls) ← summaries program.functions
  let timestamp ← liftExcept clock.milliseconds
  return ⟨metadata.stamp timestamp, functions, calls⟩

def summarize (program : Except Failure Program) (metadata : Json) (clock : Moment) :
    Counting Summary := do
  let program ← liftExcept program
  let metadata ← liftExcept (Metadata.load metadata)
  count program metadata clock

end Counters

end ControlFlow
