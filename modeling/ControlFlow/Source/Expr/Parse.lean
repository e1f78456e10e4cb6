import ControlFlow.Source.Expr.Formals
import ControlFlow.Source.Expr.Target
import ControlFlow.Source.Literal
import ControlFlow.Source.Parser
import ControlFlow.Source.Token.Scan

set_option autoImplicit false

namespace ControlFlow.Source

structure Located where
  expr : Expr
  location : Location

inductive Goal where
  | expression
  | inversion
  | factor
  deriving DecidableEq, Repr

abbrev Rules := Goal → Parser Located

def Expr.isStarred : Expr → Bool
  | .starred _ => true
  | _ => false

namespace Parser

def finish (start : Position) (expr : Expr) : Parser Located := do
  let location ← since start
  return ⟨expr, location⟩

def expr (rules : Rules) : Parser Expr := do
  let found ← rules .expression
  return found.expr

def leftChain (table : List (String × BinaryOp)) (operand : Parser Located) : Parser Located := do
  let start ← here
  let first ← operand
  let rest ← many (do
    let op ← oneOf table
    let right ← operand
    return (op, right.expr))
  if rest.isEmpty then return first
  else finish start (rest.foldl (fun left step => .binary step.1 left step.2) first.expr)

def boolChain (op : BoolOp) (operand : Parser Located) : Parser Located := do
  let start ← here
  let first ← operand
  let rest ← many (do keyword op.text; operand)
  if rest.isEmpty then return first
  else finish start (.boolean op (first.expr :: rest.map Located.expr))

-- Items with commas between them; a single item without a comma stands for itself.
def tupled (item : Parser Located) : Parser Located := do
  let start ← here
  let (items, trailing) ← commaSeparated item
  match items, trailing with
  | [only], false => return only
  | items, _ => finish start (.tuple (items.map Located.expr))

/-! Fields of formatted strings are expressions of their own. -/

def fieldExpr (top : Parser Located) (source : List Char) : Option Expr := do
  let tokens ← scan ('(' :: source ++ [')'])
  let (found, cursor) ← top.run (Cursor.ofTokens tokens)
  if cursor.rest.head?.any (isKind .newline) then some found.expr else none

/-! Primaries -/

def strings (top : Parser Located) : Parser Expr := do
  let texts ← many1 (kind .string)
  match stringsExpr (fieldExpr top) (texts.map String.toList) with
  | some expr => return expr
  | none => refuse

def number : Parser Expr := do
  let text ← kind .number
  match numberConstant text.toList with
  | some value => return .constant value
  | none => refuse

def named (rules : Rules) : Parser Located := do
  let start ← here
  if ← nextTwo isName (isSymbol ":=") then
    let target ← name
    symbol ":="
    let value ← expr rules
    finish start (.named target value)
  else rules .expression

def onClauses : Parser Bool :=
  next (fun token => isKeyword "for" token || isKeyword "async" token)

def maybeStarred (starred plain : Parser Located) : Parser Located := do
  let start ← here
  if ← tookSymbol "*" then
    let value ← starred
    finish start (.starred value.expr)
  else plain

def starTarget (primary : Parser Located) : Parser Located := do
  let target ← maybeStarred primary primary
  if target.expr.isStarTarget then return target else refuse

def starTargets (primary : Parser Located) : Parser Located :=
  tupled (starTarget primary)

def clause (primary disjunction : Parser Located) : Parser Clause := do
  let isAsync ← tookKeyword "async"
  keyword "for"
  let target ← starTargets primary
  keyword "in"
  let source ← disjunction
  let conditions ← many (do keyword "if"; disjunction)
  return .mk isAsync target.expr source.expr (conditions.map Located.expr)

def formalItem (rules : Rules) (starHint : Parser Located) (hinted : Bool) : Parser FormalItem := do
  let hint (p : Parser Located) : Parser (Option Expr) := do
    if !hinted then return none
    if ← tookSymbol ":" then
      let found ← p
      return some found.expr
    else return none
  if ← tookSymbol "/" then return .slash
  if ← tookSymbol "**" then
    let id ← name
    let hint ← hint (rules .expression)
    return .keywords (.mk id hint none)
  if ← tookSymbol "*" then
    if ← next isName then
      let id ← name
      let hint ← hint starHint
      return .rest (.mk id hint none)
    else return .star
  let id ← name
  let hint ← hint (rules .expression)
  if ← tookSymbol "=" then
    let default ← expr rules
    return .plain (.mk id hint (some default))
  else return .plain (.mk id hint none)

def formals (rules : Rules) (starHint : Parser Located) (hinted : Bool) : Parser Formals := do
  match ← attempt (commaSeparated (formalItem rules starHint hinted)) with
  | none => return .empty
  | some (items, _) =>
      match Formals.ofItems items with
      | some found => return found
      | none => refuse

def argument (rules : Rules) : Parser Argument := do
  if ← tookSymbol "*" then
    return .starred (← expr rules)
  if ← tookSymbol "**" then
    return .unpack (← expr rules)
  if ← nextTwo isName (isSymbol "=") then
    let id ← name
    symbol "="
    return .keyword id (← expr rules)
  let value ← named rules
  return .plain value.expr

def moreArguments (rules : Rules) (first : Argument) : Parser (List Expr × List Keyword) := do
  let rest ← many (do symbol ","; argument rules)
  let _ ← tookSymbol ","
  symbol ")"
  let all := first :: rest
  if argumentsInOrder false false all then
    return (all.filterMap Argument.expr?, all.filterMap Argument.keyword?)
  else refuse

def arguments (rules : Rules) : Parser (List Expr × List Keyword) := do
  if ← tookSymbol ")" then return ([], [])
  else
    let first ← argument rules
    moreArguments rules first

def callArguments (rules : Rules) (clause : Parser Clause) : Parser (List Expr × List Keyword) := do
  if ← tookSymbol ")" then return ([], [])
  else
    let first ← argument rules
    match first, ← onClauses with
    | .plain element, true =>
        let clauses ← many1 clause
        symbol ")"
        return ([.comprehension .generator element clauses], [])
    | first, _ => moreArguments rules first

def optionalExpr (rules : Rules) : Parser (Option Expr) :=
  attempt (expr rules)

def sliceTail (rules : Rules) (lower : Option Expr) : Parser Expr := do
  symbol ":"
  let upper ← optionalExpr rules
  if ← tookSymbol ":" then
    let step ← optionalExpr rules
    return .slice lower upper step
  else return .slice lower upper none

def sliceItem (rules : Rules) : Parser Located := do
  let start ← here
  if ← tookSymbol "*" then
    let value ← expr rules
    finish start (.starred value)
  else if ← onSymbol ":" then
    let slice ← sliceTail rules none
    finish start slice
  else if ← nextTwo isName (isSymbol ":=") then named rules
  else
    let value ← rules .expression
    if ← onSymbol ":" then
      let slice ← sliceTail rules (some value.expr)
      finish start slice
    else return value

def index (rules : Rules) : Parser Expr := do
  let (items, trailing) ← commaSeparated (sliceItem rules)
  match items, trailing with
  | [only], false => return if only.expr.isStarred then .tuple [only.expr] else only.expr
  | items, _ => return .tuple (items.map Located.expr)

def trailer (rules : Rules) (clause : Parser Clause) : Parser (Expr → Expr) :=
  (do symbol "."
      let id ← name
      return fun value => .attribute value id) <|>
  (do symbol "("
      let (arguments, keywords) ← callArguments rules clause
      return fun value => .call value arguments keywords) <|>
  (do symbol "["
      let found ← index rules
      symbol "]"
      return fun value => .subscript value found)

def moreItems (item : Parser Located) (closing : String) : Parser (List Expr) := do
  let rest ← many (do symbol ","; item)
  let _ ← tookSymbol ","
  symbol closing
  return rest.map Located.expr

def yieldExpr (rules : Rules) (top : Parser Located) : Parser Located := do
  let start ← here
  keyword "yield"
  if ← tookKeyword "from" then
    let value ← expr rules
    finish start (.yieldFrom value)
  else
    let value ← attempt top
    finish start (.yield (value.map Located.expr))

-- What begins with an opening parenthesis: a tuple, a generator, or an expression in parentheses,
-- which keeps its own location.
def parenthesized (rules : Rules) (item top : Parser Located) (clause : Parser Clause) :
    Parser Located := do
  let start ← here
  symbol "("
  if ← tookSymbol ")" then finish start (.tuple [])
  else if ← onKeyword "yield" then
    let value ← yieldExpr rules top
    symbol ")"
    return value
  else
    let first ← item
    if ← onSymbol "," then
      let rest ← moreItems item ")"
      finish start (.tuple (first.expr :: rest))
    else if first.expr.isStarred then refuse
    else if ← onClauses then
      let clauses ← many1 clause
      symbol ")"
      finish start (.comprehension .generator first.expr clauses)
    else
      symbol ")"
      return first

def listDisplay (item : Parser Located) (clause : Parser Clause) : Parser Expr := do
  symbol "["
  if ← tookSymbol "]" then return .list []
  else
    let first ← item
    if !first.expr.isStarred && (← onClauses) then
      let clauses ← many1 clause
      symbol "]"
      return .comprehension .list first.expr clauses
    else
      let rest ← moreItems item "]"
      return .list (first.expr :: rest)

def entry (rules : Rules) (operand : Parser Located) : Parser Entry := do
  if ← tookSymbol "**" then
    let value ← operand
    return .unpack value.expr
  else
    let key ← expr rules
    symbol ":"
    let value ← expr rules
    return .pair key value

def moreEntries (rules : Rules) (operand : Parser Located) (first : Entry) : Parser Expr := do
  let rest ← many (do symbol ","; entry rules operand)
  let _ ← tookSymbol ","
  symbol "\x7d"
  return .dict (first :: rest)

def setTail (item : Parser Located) (clause : Parser Clause) (first : Expr) : Parser Expr := do
  if !first.isStarred && (← onClauses) then
    let clauses ← many1 clause
    symbol "\x7d"
    return .comprehension .set first clauses
  else
    let rest ← moreItems item "\x7d"
    return .set (first :: rest)

def braceDisplay (rules : Rules) (item operand : Parser Located) (clause : Parser Clause) :
    Parser Expr := do
  symbol "\x7b"
  if ← tookSymbol "\x7d" then return .dict []
  else if ← onSymbol "**" then
    let first ← entry rules operand
    moreEntries rules operand first
  else
    let walrus ← nextTwo isName (isSymbol ":=")
    let first ← item
    if !walrus && !first.expr.isStarred && (← tookSymbol ":") then
      let value ← expr rules
      if ← onClauses then
        let clauses ← many1 clause
        symbol "\x7d"
        return .dictComprehension first.expr value clauses
      else moreEntries rules operand (.pair first.expr value)
    else setTail item clause first.expr

structure Surroundings where
  item : Parser Located
  operand : Parser Located
  top : Parser Located
  clause : Parser Clause

def atom (rules : Rules) (around : Surroundings) : Parser Located := do
  let start ← here
  let token ← peek
  match token.kind with
  | .name =>
      let id ← name
      finish start (.name id)
  | .number =>
      let value ← number
      finish start value
  | .string =>
      let value ← strings around.top
      finish start value
  | .keyword =>
      let _ ← satisfy (fun _ => true)
      match token.text with
      | "True" => finish start (.constant .true)
      | "False" => finish start (.constant .false)
      | "None" => finish start (.constant .none)
      | _ => refuse
  | .symbol =>
      match token.text with
      | "(" => parenthesized rules around.item around.top around.clause
      | "[" =>
          let value ← listDisplay around.item around.clause
          finish start value
      | "\x7b" =>
          let value ← braceDisplay rules around.item around.operand around.clause
          finish start value
      | "..." =>
          symbol "..."
          finish start (.constant .ellipsis)
      | _ => refuse
  | _ => refuse

def primary (rules : Rules) (around : Surroundings) : Parser Located := do
  let start ← here
  let first ← atom rules around
  let trailers ← many (trailer rules around.clause)
  if trailers.isEmpty then return first
  else finish start (trailers.foldl (fun value apply => apply value) first.expr)

/-! Operators -/

def power (rules : Rules) (around : Surroundings) : Parser Located := do
  let start ← here
  let base ←
    if ← tookKeyword "await" then
      let value ← primary rules around
      finish start (.await value.expr)
    else primary rules around
  if ← tookSymbol "**" then
    let exponent ← rules .factor
    finish start (.binary .pow base.expr exponent.expr)
  else return base

def unarySymbols : List (String × UnaryOp) :=
  [("+", .plus), ("-", .minus), ("~", .invert)]

def factor (rules : Rules) (around : Surroundings) : Parser Located := do
  let start ← here
  match ← attempt (oneOf unarySymbols) with
  | some op =>
      let operand ← rules .factor
      finish start (.unary op operand.expr)
  | none => power rules around

def bitwiseOr (factor : Parser Located) : Parser Located :=
  let term := leftChain
    [("*", .mul), ("/", .div), ("//", .floorDiv), ("%", .mod), ("@", .matmul)] factor
  let sum := leftChain [("+", .add), ("-", .sub)] term
  let shift := leftChain [("<<", .shiftLeft), (">>", .shiftRight)] sum
  leftChain [("|", .bitOr)] (leftChain [("^", .bitXor)] (leftChain [("&", .bitAnd)] shift))

def comparatorSymbols : List (String × Comparator) :=
  [("==", .eq), ("!=", .ne), ("<=", .le), ("<", .lt), (">=", .ge), (">", .gt)]

def comparator : Parser Comparator :=
  oneOf comparatorSymbols <|>
  (do keyword "not"
      keyword "in"
      return .notIn) <|>
  (do keyword "in"
      return .isIn) <|>
  (do keyword "is"
      if ← tookKeyword "not" then return .isNot else return .is)

def comparison (operand : Parser Located) : Parser Located := do
  let start ← here
  let first ← operand
  let rest ← many (do
    let op ← comparator
    let right ← operand
    return Comparison.mk op right.expr)
  if rest.isEmpty then return first else finish start (.compare first.expr rest)

def inversion (rules : Rules) (operand : Parser Located) : Parser Located := do
  let start ← here
  if ← tookKeyword "not" then
    let value ← rules .inversion
    finish start (.unary .not value.expr)
  else comparison operand

def disjunction (inversion : Parser Located) : Parser Located :=
  boolChain .or (boolChain .and inversion)

def lambda (rules : Rules) : Parser Located := do
  let start ← here
  keyword "lambda"
  let formals ← formals rules refuse false
  symbol ":"
  let body ← rules .expression
  finish start (.lambda formals body.expr body.location)

def conditional (rules : Rules) (disjunction : Parser Located) : Parser Located := do
  let start ← here
  let body ← disjunction
  if ← tookKeyword "if" then
    let test ← disjunction
    keyword "else"
    let otherwise ← expr rules
    finish start (.conditional test.expr body.expr otherwise)
  else return body

/-! The rules in terms of the recursive ones -/

def starNamed (rules : Rules) : Parser Located :=
  maybeStarred (bitwiseOr (rules .factor)) (named rules)

def starExpression (rules : Rules) : Parser Located :=
  maybeStarred (bitwiseOr (rules .factor)) (rules .expression)

def starExpressions (rules : Rules) : Parser Located :=
  tupled (starExpression rules)

def surroundings (rules : Rules) : Surroundings where
  item := starNamed rules
  operand := bitwiseOr (rules .factor)
  top := starExpressions rules
  clause := clause (rules .factor) (disjunction (rules .inversion))

def step (rules : Rules) : Goal → Parser Located
  | .expression => do
      if ← onKeyword "lambda" then lambda rules
      else conditional rules (disjunction (rules .inversion))
  | .inversion => inversion rules (bitwiseOr (rules .factor))
  | .factor => factor rules (surroundings rules)

-- The recursive rules; every round of them but the first few takes a token.
def rules : Nat → Rules
  | 0, _ => refuse
  | fuel + 1, goal => step (rules fuel) goal

end Parser

end ControlFlow.Source
