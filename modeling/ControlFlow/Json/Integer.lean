import ControlFlow.Failure
import ControlFlow.Text.Blank
import ControlFlow.Text.Digit

set_option autoImplicit false

namespace ControlFlow.Json

structure DigitRun where
  value : Nat
  count : Nat
  rest : List Char

-- Reads digits after those of a run; `expectDigit` says that an underscore or the beginning stands
-- before.
def digitRun (value count : Nat) (expectDigit : Bool) : List Char → Option DigitRun
  | [] => if expectDigit then none else some ⟨value, count, []⟩
  | c :: rest =>
      match Text.digitValue? c with
      | some digit => digitRun (value * 10 + digit) (count + 1) false rest
      | none =>
          if expectDigit then none
          else if c = '_' then digitRun value count true rest
          else some ⟨value, count, c :: rest⟩

inductive IntegerText where
  | number (value : Int)
  | tooLong (digits : Nat)
  | other

def IntegerText.ofDigits (sign : Int) (digits : List Char) : IntegerText :=
  match digitRun 0 0 true digits with
  | none => .other
  | some run =>
      if digitLimit < run.count then .tooLong run.count
      else if run.rest.isEmpty then .number (sign * run.value)
      else .other

-- The separators U+001C to U+001F are blank, but none of them may stand around an integer.
def isIntegerBlank (c : Char) : Bool :=
  Text.isBlank c && !(0x1c ≤ c.toNat && c.toNat ≤ 0x1f)

def integerText (text : List Char) : IntegerText :=
  match Text.stripWhere isIntegerBlank text with
  | '-' :: digits => .ofDigits (-1) digits
  | '+' :: digits => .ofDigits 1 digits
  | digits => .ofDigits 1 digits

def integerOfText? (text : List Char) : Option Int :=
  match integerText text with
  | .number n => some n
  | _ => none

def toInteger : Json → Except Failure Int
  | .int n => .ok n
  | .bool b => .ok (if b then 1 else 0)
  | .float (.finite negative mantissa exponent) =>
      .ok (Double.wholePart negative mantissa exponent)
  | .float (.infinite _) => .error .infiniteInteger
  | .float .nan => .error .nanInteger
  | .str s =>
      match integerText s.toList with
      | .number n => .ok n
      | .tooLong digits => .error (.tooManyDigits digits)
      | .other => .error (.notIntegerText s)
  | value => .error (.notInteger value.kind)

end ControlFlow.Json
