
set_option autoImplicit false

namespace ControlFlow

inductive Double where
  | finite (negative : Bool) (mantissa : Nat) (exponent : Int)
  | infinite (negative : Bool)
  | nan
  deriving DecidableEq, Repr, Inhabited

namespace Double

def leastExponent : Int := -1074

def greatestExponent : Int := 971

def zero (negative : Bool) : Double :=
  .finite negative 0 leastExponent

def roundQuotient (n d : Nat) : Nat :=
  let quotient := n / d
  let rest := 2 * (n % d)
  if rest > d || (rest == d && quotient % 2 == 1) then quotient + 1 else quotient

def scale (n d : Nat) (q : Int) : Nat × Nat :=
  if 0 ≤ q then (n, d * Nat.pow 2 q.toNat) else (n * Nat.pow 2 (-q).toNat, d)

def pack (negative : Bool) (mantissa : Nat) (exponent : Int) : Double :=
  let (m, q) :=
    if mantissa = Nat.pow 2 53 then (Nat.pow 2 52, exponent + 1) else (mantissa, exponent)
  if greatestExponent < q then .infinite negative else .finite negative m q

def ofRatio (negative : Bool) (n d : Nat) : Double :=
  if n = 0 then zero negative
  else
    let guess : Int := (n.log2 : Int) - (d.log2 : Int) - 52
    let (gn, gd) := scale n d guess
    let exponent := max leastExponent (if gn < gd * Nat.pow 2 52 then guess - 1 else guess)
    let (sn, sd) := scale n d exponent
    pack negative (roundQuotient sn sd) exponent

-- The number nearest to `digits * 10 ^ exponent`. Far outside the range of the type the answer is
-- known without computing the power.
def ofDecimal (negative : Bool) (digits : Nat) (exponent : Int) : Double :=
  let size : Int := (Nat.toDigits 10 digits).length + exponent
  if digits = 0 || size < -330 then zero negative
  else if size > 310 then .infinite negative
  else if 0 ≤ exponent then ofRatio negative (digits * Nat.pow 10 exponent.toNat) 1
  else ofRatio negative digits (Nat.pow 10 (-exponent).toNat)

def wholePart (negative : Bool) (mantissa : Nat) (exponent : Int) : Int :=
  let size : Nat :=
    if 0 ≤ exponent then mantissa * Nat.pow 2 exponent.toNat
    else mantissa / Nat.pow 2 (-exponent).toNat
  if negative then -(size : Int) else size

def scaleBy (factor : Nat) : Double → Double
  | .finite negative mantissa exponent =>
      if 0 ≤ exponent then ofRatio negative (mantissa * factor * Nat.pow 2 exponent.toNat) 1
      else ofRatio negative (mantissa * factor) (Nat.pow 2 (-exponent).toNat)
  | other => other

def isZero : Double → Bool
  | .finite _ mantissa _ => mantissa == 0
  | _ => false

end Double

end ControlFlow
