import ControlFlow.Source.Expr.Parse

set_option autoImplicit false

namespace ControlFlow.Source.Parser

abbrev Pattern := Parser (List Expr)

def capture : Parser Unit := do
  if ← next (isWord "_") then refuse
  let _ ← name
  if ← next (fun token => ["(", ".", "="].any (isSymbol · token)) then refuse

def isImaginary : Expr → Bool
  | .constant (.imaginary _) => true
  | _ => false

def patternNumber : Parser Expr := do
  let negative ← tookSymbol "-"
  let first ← number
  let value : Expr := if negative then .unary .minus first else first
  match ← attempt (oneOf [("+", BinaryOp.add), ("-", BinaryOp.sub)]) with
  | none => return value
  | some op =>
      let second ← number
      if isImaginary first || !isImaginary second then refuse
      return .binary op value second

def patternLiteral (top : Parser Located) : Parser Expr := do
  let token ← peek
  match token.kind with
  | .number => patternNumber
  | .string => strings top
  | .symbol => if token.text == "-" then patternNumber else refuse
  | .keyword =>
      let _ ← satisfy (fun _ => true)
      match token.text with
      | "None" => return .constant .none
      | "True" => return .constant .true
      | "False" => return .constant .false
      | _ => refuse
  | _ => refuse

def path : Parser Expr := do
  let first ← name
  let rest ← many (do symbol "."; name)
  return rest.foldl (fun value id => .attribute value id) (.name first)

def isAttribute : Expr → Bool
  | .attribute _ _ => true
  | _ => false

def isPlainName : Expr → Bool
  | .name _ => true
  | _ => false

def sequenceItem (pattern : Pattern) : Parser (Bool × List Expr) := do
  if ← tookSymbol "*" then
    if ← next (isWord "_") then word "_" else capture
    return (true, [])
  else
    let values ← pattern
    return (false, values)

def sequenceTail (pattern : Pattern) (closing : String) : Pattern := do
  if ← tookSymbol closing then return []
  let (starred, first) ← sequenceItem pattern
  let rest ← many (do symbol ","; sequenceItem pattern)
  let trailing ← tookSymbol ","
  symbol closing
  if closing == ")" && starred && rest.isEmpty && !trailing then refuse
  return first ++ rest.flatMap Prod.snd

def mappingEntry (pattern : Pattern) (top : Parser Located) : Pattern := do
  let key ← if ← next isName then path else patternLiteral top
  if isPlainName key then refuse
  symbol ":"
  let values ← pattern
  return key :: values

def mappingTail (pattern : Pattern) (top : Parser Located) : Pattern := do
  let entries ← attempt (separated "," (mappingEntry pattern top))
  if entries.isNone || (← onSymbol ",") then
    let comma ← if entries.isSome then tookSymbol "," else pure true
    if comma && (← tookSymbol "**") then
      capture
      let _ ← tookSymbol ","
  symbol "\x7d"
  return (entries.getD []).flatten

def classItem (pattern : Pattern) : Parser (Bool × List Expr) := do
  if ← nextTwo isName (isSymbol "=") then
    let _ ← name
    symbol "="
    let values ← pattern
    return (true, values)
  else
    let values ← pattern
    return (false, values)

-- No plain argument follows one that is given by name.
def namedLast : List Bool → Bool
  | [] => true
  | named :: rest => if named then rest.all id else namedLast rest

def classTail (pattern : Pattern) : Pattern := do
  if ← tookSymbol ")" then return []
  let (items, _) ← commaSeparated (classItem pattern)
  symbol ")"
  if namedLast (items.map Prod.fst) then return items.flatMap Prod.snd else refuse

def closedPattern (pattern : Pattern) (top : Parser Located) : Pattern := do
  let token ← peek
  match token.kind, token.text with
  | .name, "_" =>
      word "_"
      return []
  | .name, _ =>
      let value ← path
      if ← tookSymbol "(" then
        let values ← classTail pattern
        return value :: values
      else if ← onSymbol "=" then refuse
      else return if isAttribute value then [value] else []
  | .symbol, "(" =>
      symbol "("
      sequenceTail pattern ")"
  | .symbol, "[" =>
      symbol "["
      sequenceTail pattern "]"
  | .symbol, "\x7b" =>
      symbol "\x7b"
      mappingTail pattern top
  | _, _ =>
      let value ← patternLiteral top
      return [value]

def patternStep (top : Parser Located) (pattern : Pattern) : Pattern := do
  let choices ← separated "|" (closedPattern pattern top)
  if ← tookKeyword "as" then capture
  return choices.flatten

-- Patterns; every round takes a token.
def patternRule (top : Parser Located) : Nat → Pattern
  | 0 => refuse
  | fuel + 1 => patternStep top (patternRule top fuel)

def casePattern (pattern : Pattern) : Pattern := do
  let (starred, first) ← sequenceItem pattern
  let rest ← many (do symbol ","; sequenceItem pattern)
  let trailing ← tookSymbol ","
  if starred && rest.isEmpty && !trailing then refuse
  return first ++ rest.flatMap Prod.snd

end ControlFlow.Source.Parser
