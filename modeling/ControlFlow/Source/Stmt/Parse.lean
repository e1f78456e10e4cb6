import ControlFlow.Source.Pattern
import ControlFlow.Source.Stmt

set_option autoImplicit false

namespace ControlFlow.Source

namespace Parser

structure Grammar where
  rules : Rules
  pattern : Pattern

namespace Grammar

def top (g : Grammar) : Parser Located := starExpressions g.rules

def value (g : Grammar) : Parser Located := do
  if ← onKeyword "yield" then yieldExpr g.rules g.top else g.top

end Grammar

/-! Simple statements -/

def augmentSymbols : List (String × BinaryOp) :=
  [("+=", .add), ("-=", .sub), ("*=", .mul), ("@=", .matmul), ("/=", .div), ("%=", .mod),
   ("&=", .bitAnd), ("|=", .bitOr), ("^=", .bitXor), ("<<=", .shiftLeft), (">>=", .shiftRight),
   ("**=", .pow), ("//=", .floorDiv)]

def splitLast (first : Located) : List Located → List Expr × Located
  | [] => ([], first)
  | next :: rest =>
      let (before, last) := splitLast next rest
      (first.expr :: before, last)

def expressionStmt (g : Grammar) : Parser Stmt := do
  let start ← here
  let first ← g.value
  if ← onSymbol "=" then
    let more ← many1 (do symbol "="; g.value)
    let (targets, last) := splitLast first more
    if targets.all Expr.isStarTarget then
      return .assign targets last.expr last.location (← since start)
    else refuse
  else if ← onSymbol ":" then
    if !first.expr.isSingleTarget then refuse
    symbol ":"
    let hint ← expr g.rules
    if ← tookSymbol "=" then
      let value ← g.value
      return .annotate first.expr hint (some value.expr) (← since start)
    else return .annotate first.expr hint none (← since start)
  else
    match ← attempt (oneOf augmentSymbols) with
    | some op =>
        if !first.expr.isSingleTarget then refuse
        let value ← g.value
        return .leaf (.augment first.expr op value.expr) (← since start)
    | none => return .expression first.expr (← since start)

def dottedName : Parser String := do
  let parts ← separated "." name
  return ".".intercalate parts

def renamed (p : Parser String) : Parser Alias := do
  let id ← p
  if ← tookKeyword "as" then return ⟨id, some (← name)⟩ else return ⟨id, none⟩

def dots : Parser Nat := do
  let found ← many (oneOf [(".", 1), ("...", 3)])
  return found.foldl (· + ·) 0

def importedNames : Parser (List Alias) := do
  if ← tookSymbol "*" then return [⟨"*", none⟩]
  else if ← tookSymbol "(" then
    let (names, _) ← commaSeparated (renamed name)
    symbol ")"
    return names
  else separated "," (renamed name)

def importFrom : Parser Leaf := do
  keyword "from"
  let level ← dots
  if level != 0 && (← onKeyword "import") then
    keyword "import"
    return .importFrom level none (← importedNames)
  else
    let source ← dottedName
    keyword "import"
    return .importFrom level (some source) (← importedNames)

def deleteTarget (g : Grammar) : Parser Located := do
  let target ← g.rules .factor
  if target.expr.isDeletable then return target else refuse

def leafStmt (g : Grammar) (word : String) : Parser Leaf := do
  match word with
  | "pass" =>
      keyword word
      return .pass
  | "break" =>
      keyword word
      return .break
  | "continue" =>
      keyword word
      return .continue
  | "del" =>
      keyword word
      let (targets, _) ← commaSeparated (deleteTarget g)
      return .delete (targets.map Located.expr)
  | "raise" =>
      keyword word
      match ← optionalExpr g.rules with
      | none => return .raise none none
      | some exception =>
          if ← tookKeyword "from" then return .raise (some exception) (some (← expr g.rules))
          else return .raise (some exception) none
  | "assert" =>
      keyword word
      let test ← expr g.rules
      if ← tookSymbol "," then return .assert test (some (← expr g.rules))
      else return .assert test none
  | "import" =>
      keyword word
      return .import (← separated "," (renamed dottedName))
  | "from" => importFrom
  | "global" =>
      keyword word
      return .global (← separated "," name)
  | "nonlocal" =>
      keyword word
      return .nonlocal (← separated "," name)
  | _ => refuse

def leafWords : List String :=
  ["pass", "break", "continue", "del", "raise", "assert", "import", "from", "global", "nonlocal"]

def simpleStmt (g : Grammar) : Parser Stmt := do
  let start ← here
  let token ← peek
  if token.kind = .keyword && token.text == "return" then
    keyword "return"
    let value ← attempt g.top
    return .ret (value.map Located.expr) (← since start)
  else if token.kind = .keyword && leafWords.contains token.text then
    let leaf ← leafStmt g token.text
    return .leaf leaf (← since start)
  else expressionStmt g

def simpleLine (g : Grammar) : Parser (List Stmt) := do
  let found ← separated ";" (simpleStmt g)
  let _ ← tookSymbol ";"
  let _ ← kind .newline
  return found

/-! Compound statements. The parser `line` reads one line of statements or one compound one. -/

def block (g : Grammar) (line : Parser (List Stmt)) : Parser (List Stmt) := do
  symbol ":"
  if ← next (isKind .newline) then
    let _ ← kind .newline
    let _ ← kind .indent
    let lines ← many1 line
    let _ ← kind .dedent
    return lines.flatten
  else simpleLine g

def optionalBlock (g : Grammar) (line : Parser (List Stmt)) (word : String) :
    Parser (List Stmt) := do
  if ← tookKeyword word then block g line else return []

-- A branch from its further conditions; all of them end where the last does.
def chainBranches (stop : Position) (otherwise : List Stmt) :
    List (Position × Expr × List Stmt) → List Stmt
  | [] => otherwise
  | (start, test, body) :: rest =>
      [.branch test body (chainBranches stop otherwise rest) ⟨start, stop⟩]

def condition (g : Grammar) (line : Parser (List Stmt)) (word : String) :
    Parser (Position × Expr × List Stmt) := do
  let start ← here
  keyword word
  let test ← named g.rules
  let body ← block g line
  return (start, test.expr, body)

def ifStmt (g : Grammar) (line : Parser (List Stmt)) : Parser (List Stmt) := do
  let first ← condition g line "if"
  let rest ← many (condition g line "elif")
  let otherwise ← optionalBlock g line "else"
  let location ← since first.1
  return chainBranches location.stop otherwise (first :: rest)

def whileStmt (g : Grammar) (line : Parser (List Stmt)) : Parser Stmt := do
  let (start, test, body) ← condition g line "while"
  let otherwise ← optionalBlock g line "else"
  return .whileLoop test body otherwise (← since start)

def forStmt (g : Grammar) (line : Parser (List Stmt)) (start : Position) (isAsync : Bool) :
    Parser Stmt := do
  keyword "for"
  let target ← starTargets (g.rules .factor)
  keyword "in"
  let source ← g.top
  let body ← block g line
  let otherwise ← optionalBlock g line "else"
  return .forLoop isAsync target.expr source.expr body otherwise (← since start)

def withItem (g : Grammar) : Parser WithItem := do
  let context ← expr g.rules
  if ← tookKeyword "as" then
    let target ← starTarget (g.rules .factor)
    return ⟨context, some target.expr⟩
  else return ⟨context, none⟩

def enclosedItems (g : Grammar) : Parser (List WithItem) := do
  symbol "("
  let (items, _) ← commaSeparated (withItem g)
  symbol ")"
  if ← onSymbol ":" then return items else refuse

def withStmt (g : Grammar) (line : Parser (List Stmt)) (start : Position) (isAsync : Bool) :
    Parser Stmt := do
  keyword "with"
  let items ← enclosedItems g <|> separated "," (withItem g)
  let body ← block g line
  return .withBlock isAsync items body (← since start)

def handler (g : Grammar) (line : Parser (List Stmt)) (grouped : Bool) : Parser Handler := do
  keyword "except"
  if grouped then symbol "*"
  if !grouped && (← onSymbol ":") then
    return .mk none none (← block g line)
  else
    let type ← expr g.rules
    let id ← if ← tookKeyword "as" then some <$> name else pure none
    return .mk (some type) id (← block g line)

def tryStmt (g : Grammar) (line : Parser (List Stmt)) : Parser Stmt := do
  let start ← here
  keyword "try"
  let body ← block g line
  if ← onKeyword "finally" then
    let final ← optionalBlock g line "finally"
    return .tryBlock body [] [] final (← since start)
  else
    let grouped ← nextTwo (isKeyword "except") (isSymbol "*")
    let handlers ← many1 (handler g line grouped)
    let otherwise ← optionalBlock g line "else"
    let final ← optionalBlock g line "finally"
    let location ← since start
    if grouped then return .tryGroup body handlers otherwise final location
    else return .tryBlock body handlers otherwise final location

def functionStmt (g : Grammar) (line : Parser (List Stmt)) (decorators : List Expr)
    (start : Position) (isAsync : Bool) : Parser Stmt := do
  keyword "def"
  let id ← name
  symbol "("
  let formals ← formals g.rules (starExpression g.rules) true
  symbol ")"
  let returns ← if ← tookSymbol "->" then some <$> expr g.rules else pure none
  let body ← block g line
  return .function isAsync decorators id formals returns body (← since start)

def classStmt (g : Grammar) (line : Parser (List Stmt)) (decorators : List Expr) :
    Parser Stmt := do
  let start ← here
  keyword "class"
  let id ← name
  let (bases, keywords) ← if ← tookSymbol "(" then arguments g.rules else pure ([], [])
  let body ← block g line
  return .classDef decorators id bases keywords body (← since start)

def asyncStmt (g : Grammar) (line : Parser (List Stmt)) : Parser Stmt := do
  let start ← here
  keyword "async"
  if ← onKeyword "for" then forStmt g line start true
  else if ← onKeyword "with" then withStmt g line start true
  else functionStmt g line [] start true

def decorator (g : Grammar) : Parser Expr := do
  symbol "@"
  let found ← named g.rules
  let _ ← kind .newline
  return found.expr

def decoratedStmt (g : Grammar) (line : Parser (List Stmt)) : Parser Stmt := do
  let decorators ← many1 (decorator g)
  if ← onKeyword "class" then classStmt g line decorators
  else
    let start ← here
    let isAsync ← tookKeyword "async"
    functionStmt g line decorators start isAsync

def subject (g : Grammar) : Parser Expr := do
  let first ← starNamed g.rules
  if ← tookSymbol "," then
    let rest ← attempt (commaSeparated (starNamed g.rules))
    let items := match rest with
      | none => []
      | some (found, _) => found.map Located.expr
    return .tuple (first.expr :: items)
  else if first.expr.isStarred then refuse
  else return first.expr

def caseBlock (g : Grammar) (line : Parser (List Stmt)) : Parser Case := do
  word "case"
  let values ← casePattern g.pattern
  let guard ← if ← tookKeyword "if" then some <$> (Located.expr <$> named g.rules) else pure none
  let body ← block g line
  return .mk values guard body

def matchStmt (g : Grammar) (line : Parser (List Stmt)) : Parser Stmt := do
  let start ← here
  word "match"
  let found ← subject g
  symbol ":"
  let _ ← kind .newline
  let _ ← kind .indent
  let cases ← many1 (caseBlock g line)
  let _ ← kind .dedent
  return .matchBlock found cases (← since start)

def lineStep (g : Grammar) (line : Parser (List Stmt)) : Parser (List Stmt) := do
  let token ← peek
  let one (p : Parser Stmt) : Parser (List Stmt) := do return [← p]
  match token.kind, token.text with
  | .keyword, "if" => ifStmt g line
  | .keyword, "while" => one (whileStmt g line)
  | .keyword, "for" => one (do forStmt g line (← here) false)
  | .keyword, "with" => one (do withStmt g line (← here) false)
  | .keyword, "try" => one (tryStmt g line)
  | .keyword, "def" => one (do functionStmt g line [] (← here) false)
  | .keyword, "class" => one (classStmt g line [])
  | .keyword, "async" => one (asyncStmt g line)
  | .symbol, "@" => one (decoratedStmt g line)
  | .name, "match" => one (matchStmt g line) <|> simpleLine g
  | _, _ => simpleLine g

-- Lines of statements; every round of them opens a block.
def lineRule (g : Grammar) : Nat → Parser (List Stmt)
  | 0 => refuse
  | fuel + 1 => lineStep g (lineRule g fuel)

def module (g : Grammar) (fuel : Nat) : Parser (List Stmt) := do
  let lines ← many (lineRule g fuel)
  let _ ← kind .finish
  return lines.flatten

end Parser

def parseModule (source : List Char) : Option (List Stmt) := do
  let tokens ← scan source
  let fuel := 4 * source.length + 16
  let rules := Parser.rules fuel
  let grammar : Parser.Grammar := ⟨rules, Parser.patternRule (Parser.starExpressions rules) fuel⟩
  let (found, _) ← (Parser.module grammar fuel).run (Cursor.ofTokens tokens)
  some found

end ControlFlow.Source
