
set_option autoImplicit false

namespace ControlFlow.Text

def hexDigitValue (c : Char) : Nat :=
  if c ≤ '9' then c.toNat - 48 else c.toNat - 87

def hexNumber (digits : List Char) : Nat :=
  digits.foldl (fun number c => number * 16 + hexDigitValue c) 0

def splitAt (mark : Char) : List Char → List (List Char)
  | [] => [[]]
  | c :: rest =>
      if c = mark then [] :: splitAt mark rest
      else
        match splitAt mark rest with
        | [] => [[c]]
        | run :: runs => (c :: run) :: runs

def hexNumbers (word : List Char) : List Nat :=
  (splitAt '-' word).map hexNumber

def hexWords (line : String) : List (List Char) :=
  splitAt ' ' line.toList

structure HexEntry where
  first : Nat
  count : Nat
  values : List Nat

def HexEntry.covers (entry : HexEntry) (point : Nat) : Bool :=
  entry.first ≤ point && point < entry.first + entry.count

-- Reads `first:values` or `first+count:values`.
def readHexEntry (word : List Char) : HexEntry :=
  let key := word.takeWhile (· ≠ ':')
  let values := hexNumbers ((word.dropWhile (· ≠ ':')).drop 1)
  match key.dropWhile (· ≠ '+') with
  | [] => ⟨hexNumber key, 1, values⟩
  | _ :: count => ⟨hexNumber (key.takeWhile (· ≠ '+')), hexNumber count, values⟩

def readHexLines (lines : List String) : List HexEntry :=
  (lines.flatMap hexWords).map readHexEntry

-- Reads `points:point`.
def readHexPair (word : List Char) : List Nat × Nat :=
  (hexNumbers (word.takeWhile (· ≠ ':')), hexNumber ((word.dropWhile (· ≠ ':')).drop 1))

end ControlFlow.Text
