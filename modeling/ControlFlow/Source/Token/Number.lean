
set_option autoImplicit false

namespace ControlFlow.Source

def isDecimal (c : Char) : Bool := c.isDigit

def isOctal (c : Char) : Bool := '0' ≤ c && c ≤ '7'

def isBinary (c : Char) : Bool := c = '0' || c = '1'

def isHexadecimal (c : Char) : Bool :=
  c.isDigit || ('a' ≤ c && c ≤ 'f') || ('A' ≤ c && c ≤ 'F')

-- Characters that a word may hold, seen byte by byte: those beyond ASCII are checked later.
def isWordPart (c : Char) : Bool :=
  c.isAlphanum || c = '_' || 128 ≤ c.toNat

def groupLength (digit : Char → Bool) : List Char → Option Nat
  | [] => some 0
  | c :: rest =>
      if digit c then (groupLength digit rest).map (· + 1)
      else if c = '_' then
        if rest.head?.any digit then (groupLength digit rest).map (· + 1) else none
      else some 0

def followers : List (List Char) :=
  [['a', 'n', 'd'], ['e', 'l', 's', 'e'], ['f', 'o', 'r'], ['i', 'f'], ['i', 'n'], ['i', 's'],
   ['o', 'r'], ['n', 'o', 't']]

def endsNumber (rest : List Char) : Bool :=
  followers.any (fun word => word.isPrefixOf rest) || !rest.head?.any isWordPart

def markedLength (digit : Char → Bool) (rest : List Char) : Option Nat := do
  let skipped := if rest.head? = some '_' then 1 else 0
  let digits := rest.drop skipped
  if digits.head?.any digit then
    let size ← groupLength digit digits
    if endsNumber (digits.drop size) then some (2 + skipped + size) else none
  else none

def exponentLength : List Char → Option Nat
  | [] => some 0
  | c :: rest =>
      if c = 'e' || c = 'E' then
        match rest with
        | [] => some 0
        | sign :: digits =>
            if sign = '+' || sign = '-' then
              if digits.head?.any isDecimal then (groupLength isDecimal digits).map (· + 2)
              else none
            else if isDecimal sign then (groupLength isDecimal rest).map (· + 1)
            else some 0
      else some 0

def fractionLength : List Char → Option Nat
  | '.' :: rest => (groupLength isDecimal rest).map (· + 1)
  | _ => some 0

-- A fraction's digits do not begin with an underscore.
def fractionBegins : List Char → Bool
  | '.' :: '_' :: _ => false
  | _ => true

-- The length of a decimal number. A whole number other than zero does not begin with a zero.
def decimalLength (text : List Char) : Option Nat := do
  let whole ← groupLength isDecimal text
  let afterWhole := text.drop whole
  if !fractionBegins afterWhole then none
  let fraction ← fractionLength afterWhole
  let afterFraction := afterWhole.drop fraction
  let exponent ← exponentLength afterFraction
  let afterExponent := afterFraction.drop exponent
  let unit := if afterExponent.head?.any (fun c => c = 'j' || c = 'J') then 1 else 0
  let padded := text.head? = some '0' && (text.take whole).any (fun c => c != '0' && c != '_')
  if padded && fraction + exponent + unit = 0 then none
  else if endsNumber (afterExponent.drop unit) then some (whole + fraction + exponent + unit)
  else none

def numberLength (text : List Char) : Option Nat :=
  match text with
  | '0' :: c :: rest =>
      if c = 'x' || c = 'X' then markedLength isHexadecimal rest
      else if c = 'o' || c = 'O' then markedLength isOctal rest
      else if c = 'b' || c = 'B' then markedLength isBinary rest
      else decimalLength text
  | _ => decimalLength text

end ControlFlow.Source
