import ControlFlow.Source.Expr.Render
import ControlFlow.Source.Stmt
import ControlFlow.Text.Line

set_option autoImplicit false

namespace ControlFlow.Source

def Alias.text (item : Alias) : String :=
  match item.given with
  | none => item.name
  | some given => item.name ++ " as " ++ given

def aliasesText (items : List Alias) : String :=
  commaList (items.map Alias.text)

def textOption (value : Option Expr) : Option (Option String) :=
  renderOption false Level.test value

def pointsText (count : Nat) : String :=
  String.ofList (List.replicate count '.')

def Leaf.text? : Leaf → Option String
  | .pass => some "pass"
  | .break => some "break"
  | .continue => some "continue"
  | .augment target op value => do
      let target ← target.text?
      let value ← value.text?
      some (target ++ " " ++ op.text ++ "= " ++ value)
  | .delete targets => do
      let targets ← renderAll false targets
      some ("del " ++ commaList targets)
  | .raise exception cause => do
      let exception ← textOption exception
      let cause ← textOption cause
      match exception, cause with
      | none, _ => some "raise"
      | some exception, none => some ("raise " ++ exception)
      | some exception, some cause => some ("raise " ++ exception ++ " from " ++ cause)
  | .assert test message => do
      let test ← test.text?
      let message ← textOption message
      match message with
      | none => some ("assert " ++ test)
      | some message => some ("assert " ++ test ++ ", " ++ message)
  | .import modules => some ("import " ++ aliasesText modules)
  | .importFrom dots source names =>
      some ("from " ++ pointsText dots ++ source.getD "" ++ " import " ++ aliasesText names)
  | .global names => some ("global " ++ commaList names)
  | .nonlocal names => some ("nonlocal " ++ commaList names)

def WithItem.text? (item : WithItem) : Option String := do
  let context ← item.context.text?
  let target ← textOption item.target
  match target with
  | none => some context
  | some target => some (context ++ " as " ++ target)

def hasText (expr : Expr) : Bool := expr.text?.isSome

mutual

def Stmt.isPrintable : Stmt → Bool
  | .function _ decorators _ formals returns body _ =>
      decorators.all hasText && (renderFormals false formals).isSome && returns.all hasText &&
        allPrintable body
  | .classDef decorators _ bases keywords body _ =>
      decorators.all hasText && bases.all hasText && (renderKeywords false keywords).isSome &&
        allPrintable body
  | .branch test body otherwise _ => hasText test && allPrintable body && allPrintable otherwise
  | .forLoop _ target source body otherwise _ =>
      hasText target && hasText source && allPrintable body && allPrintable otherwise
  | .whileLoop test body otherwise _ => hasText test && allPrintable body && allPrintable otherwise
  | .withBlock _ items body _ => items.all (fun item => item.text?.isSome) && allPrintable body
  | .tryBlock body handlers otherwise final _ =>
      allPrintable body && handlersPrintable handlers && allPrintable otherwise &&
        allPrintable final
  | .tryGroup body handlers otherwise final _ =>
      allPrintable body && handlersPrintable handlers && allPrintable otherwise &&
        allPrintable final
  | .matchBlock subject cases _ => hasText subject && casesPrintable cases
  | .assign targets value _ _ => targets.all hasText && hasText value
  | .annotate target hint value _ => hasText target && hasText hint && value.all hasText
  | .ret value _ => value.all hasText
  | .expression value _ => hasText value
  | .leaf simple _ => simple.text?.isSome

def allPrintable : List Stmt → Bool
  | [] => true
  | stmt :: rest => stmt.isPrintable && allPrintable rest

def handlersPrintable : List Handler → Bool
  | [] => true
  | .mk type _ body :: rest => type.all hasText && allPrintable body && handlersPrintable rest

def casesPrintable : List Case → Bool
  | [] => true
  | .mk values guard body :: rest =>
      values.all hasText && guard.all hasText && allPrintable body && casesPrintable rest

end

def classHeader (name : String) (arguments : List String) : String :=
  "class " ++ name ++ (if arguments.isEmpty then "" else "(" ++ commaList arguments ++ ")") ++ ":"

def Stmt.opening? : Stmt → Option String
  | .classDef (decorator :: _) _ _ _ _ _ => do
      let text ← decorator.text?
      some ("@" ++ text)
  | .classDef [] name bases keywords _ _ => do
      let bases ← renderAll false bases
      let keywords ← renderKeywords false keywords
      some (classHeader name (bases ++ keywords))
  | .withBlock isAsync items _ _ => do
      let items ← items.mapM WithItem.text?
      some ((if isAsync then "async with " else "with ") ++ commaList items ++ ":")
  | .matchBlock subject _ _ => do
      let subject ← subject.text?
      some ("match " ++ subject ++ ":")
  | .tryGroup .. => some "try:"
  | .leaf simple _ => simple.text?
  | _ => none

def lineLimit : Int := 80

def Stmt.firstLine? (stmt : Stmt) : Option String :=
  if stmt.isPrintable then
    stmt.opening?.map fun text =>
      String.ofList (Text.ellipsize lineLimit (Text.firstLine text.toList))
  else none

end ControlFlow.Source
