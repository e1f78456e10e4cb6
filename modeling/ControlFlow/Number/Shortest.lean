import ControlFlow.Number.Double

set_option autoImplicit false

namespace ControlFlow.Double

-- A positive decimal `0.d₁d₂… * 10 ^ point`, its digits as one number without trailing zeros.
structure Decimal where
  digits : Nat
  point : Int
  deriving DecidableEq, Repr

-- The reals that round to a mantissa and exponent, in units of a quarter of the last place.
structure Interval where
  low : Nat
  middle : Nat
  high : Nat
  closed : Bool

def interval (mantissa : Nat) (exponent : Int) : Interval where
  low :=
    if mantissa = Nat.pow 2 52 && leastExponent < exponent then 4 * mantissa - 1
    else 4 * mantissa - 2
  middle := 4 * mantissa
  high := 4 * mantissa + 2
  closed := mantissa % 2 == 0

-- How often a fraction below one is multiplied by ten before it reaches one.
def leadingZeros : Nat → Nat → Nat → Nat
  | 0, _, _ => 0
  | fuel + 1, n, d => if d ≤ n * 10 then 0 else leadingZeros fuel (n * 10) d + 1

def decimalPoint (n d : Nat) : Int :=
  if d ≤ n then (Nat.toDigits 10 (n / d)).length else -(leadingZeros 400 n d : Int)

def dropTrailingZeros : Nat → Nat → Nat
  | 0, n => n
  | fuel + 1, n => if n % 10 == 0 && n != 0 then dropTrailingZeros fuel (n / 10) else n

-- The neighbour of the value on the grid of `count` digits that reads back, if one does.
def onGrid (range : Interval) (unit : Int) (point : Int) (count : Nat) : Option Decimal :=
  let step : Int := point - count
  -- Every quantity is compared over the common denominator of the unit and the grid.
  let unitTop : Nat := if 0 ≤ unit then Nat.pow 2 unit.toNat else 1
  let unitBottom : Nat := if 0 ≤ unit then 1 else Nat.pow 2 (-unit).toNat
  let gridTop : Nat := if 0 ≤ step then Nat.pow 10 step.toNat else 1
  let gridBottom : Nat := if 0 ≤ step then 1 else Nat.pow 10 (-step).toNat
  let quantity (units : Nat) : Nat := units * unitTop * gridBottom
  let mark (k : Nat) : Nat := k * gridTop * unitBottom
  let below := quantity range.middle / (gridTop * unitBottom)
  let reads (k : Nat) : Bool :=
    if range.closed then quantity range.low ≤ mark k && mark k ≤ quantity range.high
    else quantity range.low < mark k && mark k < quantity range.high
  let gap (k : Nat) : Nat :=
    (quantity range.middle - mark k) + (mark k - quantity range.middle)
  let above := below + 1
  let chosen : Option Nat :=
    match reads below, reads above with
    | true, true =>
        if gap below < gap above then some below
        else if gap above < gap below then some above
        else if below % 2 == 0 then some below else some above
    | true, false => some below
    | false, true => some above
    | false, false => none
  chosen.map fun k =>
    { digits := dropTrailingZeros 20 k
      point := point + ((Nat.toDigits 10 k).length - count : Int) }

def firstHit (range : Interval) (unit : Int) (point : Int) : Nat → Nat → Decimal
  | 0, _ => { digits := 0, point := 0 }
  | fuel + 1, count =>
      match onGrid range unit point count with
      | some found => found
      | none => firstHit range unit point fuel (count + 1)

def shortest (mantissa : Nat) (exponent : Int) : Decimal :=
  let unit := exponent - 2
  let (n, d) := scale (4 * mantissa) 1 (-unit)
  firstHit (interval mantissa exponent) unit (decimalPoint n d) 17 1

-- How a number is written: whether a whole number keeps a decimal `.0`.
structure Style where
  keepsPoint : Bool

def zeroText (count : Nat) : String :=
  String.ofList (List.replicate count '0')

def exponentText (exponent : Int) : String :=
  let size := toString exponent.natAbs
  (if exponent < 0 then "e-" else "e+") ++ (if size.length < 2 then "0" ++ size else size)

def decimalText (style : Style) (value : Decimal) : String :=
  let digits := toString value.digits
  let count : Int := digits.length
  let exponent := value.point - 1
  if exponent < -4 || 16 ≤ exponent then
    let rest := String.ofList (digits.toList.drop 1)
    let first := String.ofList (digits.toList.take 1)
    first ++ (if rest.isEmpty then "" else "." ++ rest) ++ exponentText exponent
  else if value.point ≤ 0 then "0." ++ zeroText (-value.point).toNat ++ digits
  else if count ≤ value.point then
    digits ++ zeroText (value.point - count).toNat ++ (if style.keepsPoint then ".0" else "")
  else
    let whole := value.point.toNat
    String.ofList (digits.toList.take whole) ++ "." ++ String.ofList (digits.toList.drop whole)

def render (style : Style) : Double → String
  | .nan => "nan"
  | .infinite negative => if negative then "-inf" else "inf"
  | .finite negative mantissa exponent =>
      (if negative then "-" else "") ++
        (if mantissa = 0 then (if style.keepsPoint then "0.0" else "0")
         else decimalText style (shortest mantissa exponent))

def text (x : Double) : String :=
  x.render { keepsPoint := true }

end ControlFlow.Double
