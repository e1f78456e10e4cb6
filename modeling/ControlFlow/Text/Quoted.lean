import ControlFlow.Text.Printable

set_option autoImplicit false

namespace ControlFlow.Text

def hexDigits (width value : Nat) : String :=
  let digits := Nat.toDigits 16 value
  String.ofList (List.replicate (width - digits.length) '0' ++ digits)

def escapePoint (point : Nat) : String :=
  if point = 9 then "\\t"
  else if point = 10 then "\\n"
  else if point = 13 then "\\r"
  else if point = 92 then "\\\\"
  else if point < 0x100 then "\\x" ++ hexDigits 2 point
  else if point < 0x10000 then "\\u" ++ hexDigits 4 point
  else "\\U" ++ hexDigits 8 point

def backslash : Nat := 92

def singleQuote : Nat := 39

def doubleQuote : Nat := 34

def quotePoint (quote point : Nat) : String :=
  if point = quote then "\\" ++ String.singleton (Char.ofNat point)
  else if point = backslash || !isPrintable point then escapePoint point
  else String.singleton (Char.ofNat point)

def chosenQuote (points : List Nat) : Nat :=
  if points.contains singleQuote && !points.contains doubleQuote then doubleQuote else singleQuote

def quotePoints (points : List Nat) : String :=
  let quote := chosenQuote points
  let mark := String.singleton (Char.ofNat quote)
  mark ++ String.join (points.map (quotePoint quote)) ++ mark

def points (text : String) : List Nat :=
  text.toList.map Char.toNat

def quote (text : String) : String :=
  quotePoints (points text)

def quoteByte (mark byte : Nat) : String :=
  if byte = mark then "\\" ++ String.singleton (Char.ofNat byte)
  else if byte = backslash || byte < 32 || 127 ≤ byte then escapePoint byte
  else String.singleton (Char.ofNat byte)

def quoteBytes (bytes : List Nat) : String :=
  let mark := chosenQuote bytes
  let border := String.singleton (Char.ofNat mark)
  border ++ String.join (bytes.map (quoteByte mark)) ++ border

end ControlFlow.Text
