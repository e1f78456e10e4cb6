import ControlFlow.Source.Expr

set_option autoImplicit false

namespace ControlFlow.Source

def digitOf (c : Char) : Nat :=
  if c.isDigit then c.toNat - '0'.toNat
  else if 'a' ≤ c && c ≤ 'f' then c.toNat - 'a'.toNat + 10
  else if 'A' ≤ c && c ≤ 'F' then c.toNat - 'A'.toNat + 10
  else 0

def digitsValue (base : Nat) (digits : List Char) : Nat :=
  digits.foldl (fun value c => value * base + digitOf c) 0

def mostDigits : Nat := 4300

def signedValue : List Char → Int
  | '-' :: digits => -(digitsValue 10 digits : Int)
  | '+' :: digits => digitsValue 10 digits
  | digits => digitsValue 10 digits

def doubleOf (text : List Char) : Double :=
  let isMark (c : Char) : Bool := c = 'e' || c = 'E'
  let mantissa := text.takeWhile (fun c => !isMark c)
  let exponent := signedValue ((text.dropWhile (fun c => !isMark c)).drop 1)
  let whole := mantissa.takeWhile (fun c => c != '.')
  let fraction := (mantissa.dropWhile (fun c => c != '.')).drop 1
  Double.ofDecimal false (digitsValue 10 (whole ++ fraction)) (exponent - fraction.length)

def numberConstant (text : List Char) : Option Constant :=
  let plain := text.filter (fun c => c != '_')
  match plain with
  | '0' :: 'x' :: digits | '0' :: 'X' :: digits => some (.int (digitsValue 16 digits))
  | '0' :: 'o' :: digits | '0' :: 'O' :: digits => some (.int (digitsValue 8 digits))
  | '0' :: 'b' :: digits | '0' :: 'B' :: digits => some (.int (digitsValue 2 digits))
  | _ =>
      if plain.getLast?.any (fun c => c = 'j' || c = 'J') then
        some (.imaginary (doubleOf plain.dropLast))
      else if plain.all Char.isDigit then
        if mostDigits < plain.length then none else some (.int (digitsValue 10 plain))
      else some (.float (doubleOf plain))

end ControlFlow.Source
