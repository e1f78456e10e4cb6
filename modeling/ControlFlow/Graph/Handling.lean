import ControlFlow.Statement

set_option autoImplicit false

namespace ControlFlow

inductive Label where
  | yes
  | no
  | again
  | enter
  | leave
  deriving DecidableEq, Repr

def Label.text : Label → String
  | .yes => "true"
  | .no => "false"
  | .again => "loop"
  | .enter => "loop-continue"
  | .leave => "loop-exit"

-- The empty text counts as absent.
def shownPart (text : Option String) : Option String :=
  text.filter (fun s => !s.isEmpty)

def variableLabel (name : String) (initializer : Option String) : String :=
  match shownPart initializer with
  | some text => name ++ " = " ++ text
  | none => name

def returnLabel (value : Option String) : String :=
  match shownPart value with
  | some text => "return " ++ text
  | none => "return"

def functionLabel (name : String) (parameters : List Parameter) : String :=
  "function " ++ name ++ "(" ++ ", ".intercalate (parameters.map Parameter.render) ++ ")"

def placeholderKind (tag : String) : String :=
  if tag.isEmpty then "UnknownStatement" else tag

/-- What is to be done at each statement, given what is done inside it. -/
structure Handling (σ : Type) where
  process : Statement → (type label : String) → (details : Option String) → Location → σ
  placeholder : Statement → (kind : String) → Location → σ
  branch : Statement → (condition : String) → Location → (yes no : σ) → σ
  loop : Statement → (type : String) → (condition : Option String) → (entering leaving : Label) →
    Location → (body : σ) → σ
  nothing : σ
  andThen : σ → σ → σ

section

variable {σ : Type} (how : Handling σ)

mutual

def Statement.handle : Statement → σ
  | statement@(.branch condition thenBranch elseBranch location) =>
      how.branch statement condition location (handleAll thenBranch) (handleElse elseBranch)
  | statement@(.forLoop _ condition _ body location) =>
      how.loop statement "for" condition .enter .leave location (handleAll body)
  | statement@(.whileLoop condition body location) =>
      how.loop statement "while" (some condition) .yes .no location (handleAll body)
  | statement@(.declaration name type initializer location) =>
      how.process statement "variable" (variableLabel name initializer) type location
  | statement@(.ret value location) =>
      how.process statement "return" (returnLabel value) none location
  | statement@(.expression text location) => how.process statement "expression" text none location
  -- The body of a nested declaration is not entered.
  | statement@(.function name parameters _ _ location) =>
      how.process statement "expression" (functionLabel name parameters) none location
  | statement@(.unknown tag _ location) => how.placeholder statement (placeholderKind tag) location

def handleAll : List Statement → σ
  | [] => how.nothing
  | statement :: rest => how.andThen statement.handle (handleAll rest)

def handleElse : Option (List Statement) → σ
  | none => how.nothing
  | some statements => handleAll statements

end

end

end ControlFlow
