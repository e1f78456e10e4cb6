import ControlFlow.Failure
import ControlFlow.Source.Stmt.Parse
import ControlFlow.Source.Stmt.Render
import ControlFlow.Statement

set_option autoImplicit false

namespace ControlFlow.Source

def Expr.shown (expr : Expr) : String :=
  expr.text?.getD ""

def Formal.lower (mark : String) (formal : Formal) : Parameter :=
  ⟨mark ++ formal.name, formal.hint.map Expr.shown⟩

def Formals.all : Formals → List (String × Formal)
  | .mk positionalOnly positional rest keywordOnly keywords =>
      (positionalOnly ++ positional).map (fun formal => ("", formal)) ++
        rest.toList.map (fun formal => ("*", formal)) ++
        keywordOnly.map (fun formal => ("", formal)) ++
        keywords.toList.map (fun formal => ("**", formal))

def Formals.lower (formals : Formals) : List Parameter :=
  formals.all.map (fun entry => entry.2.lower entry.1)

def Stmt.isDocumentation : Stmt → Bool
  | .expression value _ => value.isText
  | _ => false

-- The header of a `with` ends before its colon.
def dropColons (text : String) : String :=
  String.ofList (text.toList.reverse.dropWhile (fun c => c = ':')).reverse

def Stmt.shownLine (stmt : Stmt) : String :=
  stmt.firstLine?.getD ""

def assignedText (targets : List Expr) : String :=
  " = ".intercalate (targets.map Expr.shown)

mutual

def Stmt.lower : Stmt → List Statement
  | .function _ _ name formals returns body location =>
      [.function name formals.lower (lowerBody body) (returns.map Expr.shown) location]
  | .branch test body [] location => [.branch test.shown (lowerAll body) none location]
  | .branch test body (first :: rest) location =>
      [.branch test.shown (lowerAll body) (some (first.lower ++ lowerAll rest)) location]
  | .forLoop _ target source body otherwise location =>
      .forLoop none (some (target.shown ++ " in " ++ source.shown)) none (lowerAll body) location ::
        lowerAll otherwise
  | .whileLoop test body otherwise location =>
      .whileLoop test.shown (lowerAll body) location :: lowerAll otherwise
  | .assign targets value _ location =>
      [.declaration (assignedText targets) none (some value.shown) location]
  | .annotate target hint value location =>
      [.declaration target.shown (some hint.shown) (value.map Expr.shown) location]
  | .ret value location => [.ret (value.map Expr.shown) location]
  | .expression value location => [.expression value.shown location]
  | .withBlock isAsync items body location =>
      .expression (dropColons (Stmt.withBlock isAsync items body location).shownLine) location ::
        lowerAll body
  | .tryBlock body _ otherwise final location =>
      .expression "try" location :: (lowerAll body ++ lowerAll otherwise ++ lowerAll final)
  | stmt => [.expression stmt.shownLine stmt.location]

def lowerAll : List Stmt → List Statement
  | [] => []
  | stmt :: rest => stmt.lower ++ lowerAll rest

def lowerBody : List Stmt → List Statement
  | [] => []
  | stmt :: rest => (if stmt.isDocumentation then [] else stmt.lower) ++ lowerAll rest

end

def Stmt.declaration? (owner : String) : Stmt → Option Statement
  | .function _ _ name formals returns body location =>
      some (.function (owner ++ name) formals.lower (lowerBody body) (returns.map Expr.shown)
        location)
  | _ => none

-- What a top-level statement declares: functions, the methods of a class, and functions given by
-- assigning a lambda to a name.
def Stmt.declarations : Stmt → List Statement
  | .classDef _ name _ _ body _ => body.filterMap (Stmt.declaration? (name ++ "."))
  | .assign [.name id] (.lambda formals body bodyLocation) location _ =>
      [.function id formals.lower [.ret (some body.shown) bodyLocation] none location]
  | stmt => (stmt.declaration? "").toList

inductive Event where
  | handlersLeftOut (line : Int)
  | noText
  deriving DecidableEq, Repr

def Event.ofText (hasText : Bool) : List Event :=
  if hasText then [] else [.noText]

def Expr.events (expr : Expr) : List Event :=
  Event.ofText expr.text?.isSome

def optionEvents (value : Option Expr) : List Event :=
  value.toList.flatMap Expr.events

def Formals.events (formals : Formals) : List Event :=
  formals.all.flatMap (fun entry => optionEvents entry.2.hint)

mutual

def Stmt.events : Stmt → List Event
  | .function _ _ _ formals returns body _ =>
      formals.events ++ bodyEvents body ++ optionEvents returns
  | .branch test body otherwise _ => test.events ++ allEvents body ++ allEvents otherwise
  | .forLoop _ target source body otherwise _ =>
      allEvents body ++ target.events ++ source.events ++ allEvents otherwise
  | .whileLoop test body otherwise _ => test.events ++ allEvents body ++ allEvents otherwise
  | .assign targets value _ _ => targets.flatMap Expr.events ++ value.events
  | .annotate target hint value _ => target.events ++ hint.events ++ optionEvents value
  | .ret value _ => optionEvents value
  | .expression value _ => value.events
  | .withBlock isAsync items body location =>
      Event.ofText (Stmt.withBlock isAsync items body location).firstLine?.isSome ++
        allEvents body
  | .tryBlock body handlers otherwise final location =>
      (if handlers.isEmpty then [] else [.handlersLeftOut location.start.line]) ++
        allEvents body ++ allEvents otherwise ++ allEvents final
  | stmt => Event.ofText stmt.firstLine?.isSome

def allEvents : List Stmt → List Event
  | [] => []
  | stmt :: rest => stmt.events ++ allEvents rest

def bodyEvents : List Stmt → List Event
  | [] => []
  | stmt :: rest => (if stmt.isDocumentation then [] else stmt.events) ++ allEvents rest

end

def Stmt.isFunction : Stmt → Bool
  | .function .. => true
  | _ => false

def Stmt.declarationEvents : Stmt → List Event
  | .classDef _ _ _ _ body _ => (body.filter Stmt.isFunction).flatMap Stmt.events
  | .assign [.name _] (.lambda formals body _) _ _ => formals.events ++ body.events
  | stmt => if stmt.isFunction then stmt.events else []

-- The lines whose handlers were left out before anything was found to have no text.
def notedLines : List Event → List Int
  | [] => []
  | .handlersLeftOut line :: rest => line :: notedLines rest
  | .noText :: _ => []

structure Reading where
  program : Except Failure Program
  leftOut : List Int

def read (code : List Char) (file : Option String) : Reading :=
  if code.contains (Char.ofNat 0) then ⟨.error .nullCharacter, []⟩
  else
    match parseModule code with
    | none => ⟨.error .invalidSource, []⟩
    | some stmts =>
        let events := stmts.flatMap Stmt.declarationEvents
        if events.contains .noText then ⟨.error .unprintableField, notedLines events⟩
        else ⟨.ok ⟨stmts.flatMap Stmt.declarations, file⟩, notedLines events⟩

end ControlFlow.Source
