import ControlFlow.Source.Literal.Number

set_option autoImplicit false

namespace ControlFlow.Source

def isOctalDigit (c : Char) : Bool := '0' ≤ c && c ≤ '7'

def isHexDigit (c : Char) : Bool :=
  c.isDigit || ('a' ≤ c && c ≤ 'f') || ('A' ≤ c && c ≤ 'F')

def simpleEscape? (c : Char) : Option Nat :=
  match c with
  | '\\' => some 92
  | '\'' => some 39
  | '"' => some 34
  | 'a' => some 7
  | 'b' => some 8
  | 't' => some 9
  | 'n' => some 10
  | 'v' => some 11
  | 'f' => some 12
  | 'r' => some 13
  | _ => none

def hexValue? (count : Nat) (text : List Char) : Option Nat :=
  let digits := text.take count
  if digits.length = count && digits.all isHexDigit then some (digitsValue 16 digits) else none

def escapeWidth? (isBytes : Bool) (c : Char) : Option Nat :=
  if c = 'x' then some 2
  else if isBytes then none
  else if c = 'u' then some 4
  else if c = 'U' then some 8
  else none

def greatestPoint : Nat := 0x10ffff

-- The values that a text with escapes stands for, given the ones before in reverse; every step
-- takes a character. Characters given by name are not known.
def unescapeFrom (isBytes : Bool) : Nat → List Nat → List Char → Option (List Nat)
  | 0, done, _ => some done.reverse
  | _ + 1, done, [] => some done.reverse
  | fuel + 1, done, '\\' :: c :: rest =>
      match simpleEscape? c, escapeWidth? isBytes c with
      | some value, _ => unescapeFrom isBytes fuel (value :: done) rest
      | none, some width => do
          let value ← hexValue? width rest
          if value ≤ greatestPoint then
            unescapeFrom isBytes fuel (value :: done) (rest.drop width)
          else none
      | none, none =>
          if c = '\n' then unescapeFrom isBytes fuel done rest
          else if isOctalDigit c then
            let digits := c :: (rest.take 2).takeWhile isOctalDigit
            let value := digitsValue 8 digits
            unescapeFrom isBytes fuel ((if isBytes then value % 256 else value) :: done)
              (rest.drop (digits.length - 1))
          else if c = 'N' && !isBytes then none
          else unescapeFrom isBytes fuel (c.toNat :: 92 :: done) rest
  | fuel + 1, done, c :: rest => unescapeFrom isBytes fuel (c.toNat :: done) rest

def unescape (text : List Char) : Option (List Nat) :=
  unescapeFrom false text.length [] text

def unescapeBytes (text : List Char) : Option (List Nat) :=
  unescapeFrom true text.length [] text

end ControlFlow.Source
