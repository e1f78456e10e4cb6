import ControlFlow.Text.Combining
import ControlFlow.Text.Composition
import ControlFlow.Text.Decomposition

set_option autoImplicit false

namespace ControlFlow.Text

namespace Hangul

def leads : Nat := 0x1100

def vowels : Nat := 0x1161

-- One before the first final consonant.
def tails : Nat := 0x11a7

def syllables : Nat := 0xac00

def isSyllable (point : Nat) : Bool :=
  syllables ≤ point && point < syllables + 19 * 21 * 28

def decompose (point : Nat) : List Nat :=
  let index := point - syllables
  let tail := index % 28
  [leads + index / 588, vowels + index % 588 / 28] ++ if tail = 0 then [] else [tails + tail]

def isOpen (point : Nat) : Bool :=
  isSyllable point && (point - syllables) % 28 = 0

def compose? (first second : Nat) : Option Nat :=
  if leads ≤ first && first < leads + 19 && vowels ≤ second && second < vowels + 21 then
    some (syllables + ((first - leads) * 21 + (second - vowels)) * 28)
  else if isOpen first && tails < second && second < tails + 28 then
    some (first + (second - tails))
  else none

end Hangul

def decomposePoint (point : Nat) : List Nat :=
  if Hangul.isSyllable point then Hangul.decompose point
  else
    match decompositions.find? (fun entry => entry.covers point) with
    | some entry => entry.values.map (· + (point - entry.first))
    | none => [point]

-- Puts a mark before the marks at the end of a reversed text that have a greater class.
def placeMark (point : Nat) : List Nat → List Nat
  | [] => [point]
  | last :: before =>
      if combiningClass point < combiningClass last then last :: placeMark point before
      else point :: last :: before

def orderMarks (points : List Nat) : List Nat :=
  (points.foldl
    (fun reversed point =>
      if combiningClass point = 0 then point :: reversed else placeMark point reversed)
    []).reverse

def composePair? (first second : Nat) : Option Nat :=
  match Hangul.compose? first second with
  | some composed => some composed
  | none => (compositions.find? (fun pair => pair.1 = [first, second])).map Prod.snd

/-- Composes a text after `base` and the marks, in reverse, that stayed behind it. A mark reaches the
base if no mark of its class or a greater one stands between. -/
def composeFrom (base : Nat) (marks : List Nat) : List Nat → List Nat
  | [] => base :: marks.reverse
  | point :: rest =>
      let reaches := match marks with
        | [] => true
        | last :: _ => combiningClass last < combiningClass point
      match if reaches then composePair? base point else none with
      | some composed => composeFrom composed marks rest
      | none =>
          if combiningClass point = 0 then base :: marks.reverse ++ composeFrom point [] rest
          else composeFrom base (point :: marks) rest

def composePoints (points : List Nat) : List Nat :=
  match points.dropWhile (fun point => combiningClass point ≠ 0) with
  | [] => points
  | base :: rest =>
      points.takeWhile (fun point => combiningClass point ≠ 0) ++ composeFrom base [] rest

def normalForm (word : List Char) : List Char :=
  if word.all (fun c => c.toNat < 128) then word
  else
    (composePoints (orderMarks (word.flatMap fun c => decomposePoint c.toNat))).map Char.ofNat

end ControlFlow.Text
