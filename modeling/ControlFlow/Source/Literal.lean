import ControlFlow.Source.Literal.Formatted

set_option autoImplicit false

namespace ControlFlow.Source

structure StringLiteral where
  isBytes : Bool
  isRaw : Bool
  isFormatted : Bool
  body : List Char

def StringLiteral.ofText (text : List Char) : StringLiteral :=
  let mark := (text.takeWhile Char.isAlpha).map Char.toLower
  let quoted := text.drop mark.length
  let quote := quoted.head?.getD '\''
  let border := if [quote, quote, quote].isPrefixOf quoted && 6 ≤ quoted.length then 3 else 1
  { isBytes := mark.contains 'b'
    isRaw := mark.contains 'r'
    isFormatted := mark.contains 'f'
    body := (quoted.drop border).take (quoted.length - 2 * border) }

namespace StringLiteral

def bytes? (literal : StringLiteral) : Option (List Nat) :=
  if literal.body.all (fun c => c.toNat < 128) then
    if literal.isRaw then some (literal.body.map Char.toNat) else unescapeBytes literal.body
  else none

def pieces? (parse : List Char → Option Expr) (literal : StringLiteral) : Option (List Piece) :=
  if literal.isFormatted then formattedPieces parse literal.isRaw literal.body
  else if literal.isRaw then some [.text (literal.body.map Char.toNat)]
  else do
    let points ← unescape literal.body
    some [.text points]

end StringLiteral

def Piece.points : Piece → List Nat
  | .text points => points
  | .field _ => []

def stringsExpr (parse : List Char → Option Expr) (texts : List (List Char)) : Option Expr := do
  let literals := texts.map StringLiteral.ofText
  if literals.any StringLiteral.isBytes then
    if literals.all StringLiteral.isBytes then
      let parts ← literals.mapM StringLiteral.bytes?
      some (.constant (.bytes parts.flatten))
    else none
  else
    let parts ← literals.mapM (StringLiteral.pieces? parse)
    if literals.any StringLiteral.isFormatted then some (.joined (joinPieces [] parts.flatten))
    else
      let marked := (texts.head?.bind List.head?) == some 'u'
      some (.constant (.text (parts.flatten.flatMap Piece.points) marked))

end ControlFlow.Source
