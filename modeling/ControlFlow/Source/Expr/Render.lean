import ControlFlow.Number.Shortest
import ControlFlow.Source.Expr
import ControlFlow.Source.Expr.Quote

set_option autoImplicit false

namespace ControlFlow.Source

abbrev Level := Nat

namespace Level

def named : Level := 1

def tuple : Level := 2

def yield : Level := 3

def test : Level := 4

def disjunction : Level := 5

def conjunction : Level := 6

def negation : Level := 7

def comparison : Level := 8

def bitOr : Level := 9

def bitXor : Level := 10

def bitAnd : Level := 11

def shift : Level := 12

def sum : Level := 13

def term : Level := 14

def factor : Level := 15

def power : Level := 16

def await : Level := 17

def atom : Level := 18

def next (level : Level) : Level := min (level + 1) atom

end Level

def UnaryOp.level : UnaryOp → Level
  | .not => Level.negation
  | _ => Level.factor

def BinaryOp.level : BinaryOp → Level
  | .add | .sub => Level.sum
  | .mul | .matmul | .div | .mod | .floorDiv => Level.term
  | .pow => Level.power
  | .shiftLeft | .shiftRight => Level.shift
  | .bitOr => Level.bitOr
  | .bitXor => Level.bitXor
  | .bitAnd => Level.bitAnd

-- Powers group to the right, everything else to the left.
def BinaryOp.leftLevel (op : BinaryOp) : Level :=
  if op = .pow then op.level.next else op.level

def BinaryOp.rightLevel (op : BinaryOp) : Level :=
  if op = .pow then op.level else op.level.next

def BoolOp.level : BoolOp → Level
  | .and => Level.conjunction
  | .or => Level.disjunction

def around (needed : Bool) (text : String) : String :=
  if needed then "(" ++ text ++ ")" else text

def commaList (texts : List String) : String :=
  ", ".intercalate texts

def tupleText : List String → String
  | [text] => text ++ ","
  | texts => commaList texts

-- An infinite number is written as a literal that is too large.
def numberText (style : Double.Style) : Double → String
  | .infinite _ => "1e309"
  | x => x.render style

def Constant.render (avoidsEscapes : Bool) : Constant → String
  | .none => "None"
  | .true => "True"
  | .false => "False"
  | .ellipsis => "..."
  | .int value => toString value
  | .float value => numberText { keepsPoint := Bool.true } value
  | .imaginary value => numberText { keepsPoint := Bool.false } value ++ "j"
  | .text points marked =>
      (if marked then "u" else "") ++
        (if avoidsEscapes then avoidEscapes points else Text.quotePoints points)
  | .bytes values => "b" ++ Text.quoteBytes values

def Expr.isInteger : Expr → Bool
  | .constant (.int _) | .constant .true | .constant .false => true
  | _ => false

def Expr.isConstant : Expr → Bool
  | .constant _ => true
  | _ => false

def doubleBrace (point : Nat) : List Nat :=
  if point = 0x7b || point = 0x7d then [point, point] else [point]

def conversionText : Option Char → String
  | none => ""
  | some c => "!" ++ String.singleton c

-- A field from the text of its expression; an opening brace is kept apart from the field's own.
def fieldText (value : String) (conversion : Option Char) (spec : Option (List Nat)) :
    Option (List Nat) :=
  if value.toList.contains '\\' then none
  else
    let gap := if value.toList.head? = some '\x7b' then " " else ""
    let tail := match spec with
      | none => []
      | some points => 0x3a :: points
    some (0x7b :: Text.points (gap ++ value ++ conversionText conversion) ++ tail ++ [0x7d])

def Collection.enclose : Collection → String → String
  | .list, text => "[" ++ text ++ "]"
  | .set, text => "\x7b" ++ text ++ "\x7d"
  | .generator, text => "(" ++ text ++ ")"

def withHint (name : String) (hint : Option String) : String :=
  match hint with
  | none => name
  | some text => name ++ ": " ++ text

def withDefault (text : String) (value : Option String) : String :=
  match value with
  | none => text
  | some value => text ++ "=" ++ value

-- Formal parameters from the texts of their groups. A slash follows the positional ones, a star
-- stands before keyword ones if no rest does.
def formalsText (positionalOnly positional : List String) (rest : Option String)
    (keywordOnly : List String) (keywords : Option String) : String :=
  let slash := if positionalOnly.isEmpty then [] else ["/"]
  let star := match rest with
    | some text => ["*" ++ text]
    | none => if keywordOnly.isEmpty then [] else ["*"]
  let double := match keywords with
    | some text => ["**" ++ text]
    | none => []
  commaList (positionalOnly ++ slash ++ positional ++ star ++ keywordOnly ++ double)

mutual

def Expr.render (avoidsEscapes : Bool) (level : Level) : Expr → Option String
  | .name id => some id
  | .constant value => some (value.render avoidsEscapes)
  | .joined parts => do
      let parts ← renderParts parts
      if avoidsEscapes then some ("f" ++ avoidEscapes (parts.flatMap Part.points))
      else some ("f" ++ encloseParts parts)
  | .field _ _ _ => none
  | .boolean op operands => do
      let texts ← renderTighter avoidsEscapes op.level.next operands
      some (around (op.level < level) ((" " ++ op.text ++ " ").intercalate texts))
  | .named target value => do
      let value ← value.render avoidsEscapes Level.atom
      some (around (Level.named < level) (target ++ " := " ++ value))
  | .binary op left right => do
      let left ← left.render avoidsEscapes op.leftLevel
      let right ← right.render avoidsEscapes op.rightLevel
      some (around (op.level < level) (left ++ " " ++ op.text ++ " " ++ right))
  | .unary op operand => do
      let operand ← operand.render avoidsEscapes op.level
      let gap := if op = .not then " " else ""
      some (around (op.level < level) (op.text ++ gap ++ operand))
  | .lambda formals body _ => do
      let formals ← renderFormals avoidsEscapes formals
      let body ← body.render avoidsEscapes Level.test
      let gap := if formals.isEmpty then "" else " "
      some (around (Level.test < level) ("lambda" ++ gap ++ formals ++ ": " ++ body))
  | .conditional test body otherwise => do
      let body ← body.render avoidsEscapes Level.disjunction
      let test ← test.render avoidsEscapes Level.disjunction
      let otherwise ← otherwise.render avoidsEscapes Level.test
      some (around (Level.test < level) (body ++ " if " ++ test ++ " else " ++ otherwise))
  | .dict entries => do
      let entries ← renderEntries avoidsEscapes entries
      some ("\x7b" ++ commaList entries ++ "\x7d")
  | .set items => do
      let items ← renderAll avoidsEscapes items
      some ("\x7b" ++ commaList items ++ "\x7d")
  | .list items => do
      let items ← renderAll avoidsEscapes items
      some ("[" ++ commaList items ++ "]")
  | .tuple items => do
      let items ← renderAll avoidsEscapes items
      some (around (items.isEmpty || Level.tuple < level) (tupleText items))
  | .comprehension collection element clauses => do
      let element ← element.render avoidsEscapes Level.test
      let clauses ← renderClauses avoidsEscapes clauses
      some (collection.enclose (element ++ clauses))
  | .dictComprehension key value clauses => do
      let key ← key.render avoidsEscapes Level.test
      let value ← value.render avoidsEscapes Level.test
      let clauses ← renderClauses avoidsEscapes clauses
      some ("\x7b" ++ key ++ ": " ++ value ++ clauses ++ "\x7d")
  | .await value => do
      let value ← value.render avoidsEscapes Level.atom
      some (around (Level.await < level) ("await " ++ value))
  | .yield value => do
      match ← renderOption avoidsEscapes Level.atom value with
      | none => some (around (Level.yield < level) "yield")
      | some text => some (around (Level.yield < level) ("yield " ++ text))
  | .yieldFrom value => do
      let value ← value.render avoidsEscapes Level.atom
      some (around (Level.yield < level) ("yield from " ++ value))
  | .compare first rest => do
      let first ← first.render avoidsEscapes Level.comparison.next
      let rest ← renderComparisons avoidsEscapes rest
      some (around (Level.comparison < level) (first ++ rest))
  | .call function arguments keywords => do
      let function ← function.render avoidsEscapes Level.atom
      let arguments ← renderAll avoidsEscapes arguments
      let keywords ← renderKeywords avoidsEscapes keywords
      some (function ++ "(" ++ commaList (arguments ++ keywords) ++ ")")
  | .attribute value name => do
      let text ← value.render avoidsEscapes Level.atom
      some (text ++ (if value.isInteger then " ." else ".") ++ name)
  | .subscript value (.tuple items) => do
      -- The items of a tuple stand in an index without parentheses.
      let value ← value.render avoidsEscapes Level.atom
      let items ← renderAll avoidsEscapes items
      some (value ++ "[" ++ (if items.isEmpty then "()" else tupleText items) ++ "]")
  | .subscript value index => do
      let value ← value.render avoidsEscapes Level.atom
      let index ← index.render avoidsEscapes Level.test
      some (value ++ "[" ++ index ++ "]")
  | .starred value => do
      let value ← value.render avoidsEscapes Level.bitOr
      some ("*" ++ value)
  | .slice lower upper step => do
      let lower ← renderOption avoidsEscapes Level.test lower
      let upper ← renderOption avoidsEscapes Level.test upper
      let step ← renderOption avoidsEscapes Level.test step
      some (lower.getD "" ++ ":" ++ upper.getD "" ++
        (match step with | none => "" | some text => ":" ++ text))

def renderAll (avoidsEscapes : Bool) : List Expr → Option (List String)
  | [] => some []
  | item :: rest => do
      let text ← item.render avoidsEscapes Level.test
      let texts ← renderAll avoidsEscapes rest
      some (text :: texts)

-- Operands of a chain, each in a place one level tighter than the one before.
def renderTighter (avoidsEscapes : Bool) (level : Level) : List Expr → Option (List String)
  | [] => some []
  | operand :: rest => do
      let text ← operand.render avoidsEscapes level
      let texts ← renderTighter avoidsEscapes level.next rest
      some (text :: texts)

def renderOption (avoidsEscapes : Bool) (level : Level) : Option Expr → Option (Option String)
  | none => some none
  | some value => do
      let text ← value.render avoidsEscapes level
      some (some text)

def renderComparisons (avoidsEscapes : Bool) : List Comparison → Option String
  | [] => some ""
  | .mk op operand :: rest => do
      let operand ← operand.render avoidsEscapes Level.comparison.next
      let rest ← renderComparisons avoidsEscapes rest
      some (" " ++ op.text ++ " " ++ operand ++ rest)

def renderEntries (avoidsEscapes : Bool) : List Entry → Option (List String)
  | [] => some []
  | .pair key value :: rest => do
      let key ← key.render avoidsEscapes Level.test
      let value ← value.render avoidsEscapes Level.test
      let rest ← renderEntries avoidsEscapes rest
      some ((key ++ ": " ++ value) :: rest)
  | .unpack value :: rest => do
      let value ← value.render avoidsEscapes Level.bitOr
      let rest ← renderEntries avoidsEscapes rest
      some (("**" ++ value) :: rest)

def renderKeywords (avoidsEscapes : Bool) : List Keyword → Option (List String)
  | [] => some []
  | .named name value :: rest => do
      let value ← value.render avoidsEscapes Level.test
      let rest ← renderKeywords avoidsEscapes rest
      some ((name ++ "=" ++ value) :: rest)
  | .unpack value :: rest => do
      let value ← value.render avoidsEscapes Level.test
      let rest ← renderKeywords avoidsEscapes rest
      some (("**" ++ value) :: rest)

def renderConditions (avoidsEscapes : Bool) : List Expr → Option String
  | [] => some ""
  | condition :: rest => do
      let condition ← condition.render avoidsEscapes Level.disjunction
      let rest ← renderConditions avoidsEscapes rest
      some (" if " ++ condition ++ rest)

def renderClauses (avoidsEscapes : Bool) : List Clause → Option String
  | [] => some ""
  | .mk isAsync target source conditions :: rest => do
      let target ← target.render avoidsEscapes Level.tuple
      let source ← source.render avoidsEscapes Level.disjunction
      let conditions ← renderConditions avoidsEscapes conditions
      let rest ← renderClauses avoidsEscapes rest
      some ((if isAsync then " async for " else " for ") ++ target ++ " in " ++ source ++
        conditions ++ rest)

def renderFormal (avoidsEscapes : Bool) : Formal → Option String
  | .mk name hint default => do
      let hint ← renderOption avoidsEscapes Level.test hint
      let default ← renderOption avoidsEscapes Level.test default
      some (withDefault (withHint name hint) default)

def renderFormalList (avoidsEscapes : Bool) : List Formal → Option (List String)
  | [] => some []
  | formal :: rest => do
      let text ← renderFormal avoidsEscapes formal
      let texts ← renderFormalList avoidsEscapes rest
      some (text :: texts)

def renderFormalOption (avoidsEscapes : Bool) : Option Formal → Option (Option String)
  | none => some none
  | some formal => do
      let text ← renderFormal avoidsEscapes formal
      some (some text)

def renderFormals (avoidsEscapes : Bool) : Formals → Option String
  | .mk positionalOnly positional rest keywordOnly keywords => do
      let positionalOnly ← renderFormalList avoidsEscapes positionalOnly
      let positional ← renderFormalList avoidsEscapes positional
      let rest ← renderFormalOption avoidsEscapes rest
      let keywordOnly ← renderFormalList avoidsEscapes keywordOnly
      let keywords ← renderFormalOption avoidsEscapes keywords
      some (formalsText positionalOnly positional rest keywordOnly keywords)

def Expr.inside : Expr → Option (List Nat)
  | .constant (.text points _) => some (points.flatMap doubleBrace)
  | .joined parts => do
      let parts ← renderParts parts
      some (parts.flatMap Part.points)
  | .field value conversion spec => do
      let value ← value.render true Level.disjunction
      let spec ← renderSpec spec
      fieldText value conversion spec
  | _ => none

def renderSpec : Option Expr → Option (Option (List Nat))
  | none => some none
  | some spec => do
      let points ← spec.inside
      some (some points)

def renderParts : List Expr → Option (List Part)
  | [] => some []
  | part :: rest => do
      let points ← part.inside
      let parts ← renderParts rest
      some (⟨points, part.isConstant⟩ :: parts)

end

def Expr.text? (expr : Expr) : Option String :=
  expr.render false Level.test

end ControlFlow.Source
