import ControlFlow.Json.Value

set_option autoImplicit false

namespace ControlFlow.Json

inductive Fault where
  | byteOrderMark
  | expectingValue
  | expectingName
  | expectingColon
  | expectingComma
  | unterminatedString
  | controlCharacter
  | invalidEscape
  | invalidUnicodeEscape
  | extraData
  | tooManyDigits (count : Nat)
  | tooDeep (container : Kind)
  deriving DecidableEq, Repr

def digitLimit : Nat := 4300

def digitLimitText (count : Nat) : String :=
  "Exceeds the limit (" ++ toString digitLimit ++
    " digits) for integer string conversion: value has " ++ toString count ++
    " digits; use sys.set_int_max_str_digits() to increase the limit"

def nestingText (container : Kind) : String :=
  "maximum recursion depth exceeded while decoding a JSON " ++
    (if container = .arr then "array" else "object") ++ " from a unicode string"

def Fault.text : Fault → String
  | .byteOrderMark => "Unexpected UTF-8 BOM (decode using utf-8-sig)"
  | .expectingValue => "Expecting value"
  | .expectingName => "Expecting property name enclosed in double quotes"
  | .expectingColon => "Expecting ':' delimiter"
  | .expectingComma => "Expecting ',' delimiter"
  | .unterminatedString => "Unterminated string starting at"
  | .controlCharacter => "Invalid control character at"
  | .invalidEscape => "Invalid \\escape"
  | .invalidUnicodeEscape => "Invalid \\uXXXX escape"
  | .extraData => "Extra data"
  | .tooManyDigits count => digitLimitText count
  | .tooDeep container => nestingText container

-- Whether a text breaks the grammar; what only the reader cannot take does not.
def Fault.isSyntactic : Fault → Bool
  | .tooManyDigits _ | .tooDeep _ => false
  | _ => true

def Fault.isTooDeep : Fault → Bool
  | .tooDeep _ => true
  | _ => false

structure ReadError where
  fault : Fault
  line : Nat
  column : Nat
  index : Nat
  deriving DecidableEq, Repr

-- The reader's own limits are reported without a place.
def ReadError.message (e : ReadError) : String :=
  if e.fault.isSyntactic then
    e.fault.text ++ ": line " ++ toString e.line ++ " column " ++ toString e.column ++
      " (char " ++ toString e.index ++ ")"
  else e.fault.text

structure Cursor where
  rest : List Char
  index : Nat

abbrev Reader (α : Type) := Except (Fault × Nat) α

def isJsonBlank (c : Char) : Bool :=
  c = ' ' || c = '\t' || c = '\n' || c = '\r'

def Cursor.advance (c : Cursor) (count : Nat) : Cursor :=
  ⟨c.rest.drop count, c.index + count⟩

def Cursor.skipBlank (c : Cursor) : Cursor :=
  c.advance (c.rest.takeWhile isJsonBlank).length

def hexValue? (c : Char) : Option Nat :=
  if '0' ≤ c && c ≤ '9' then some (c.toNat - 48)
  else if 'a' ≤ c && c ≤ 'f' then some (c.toNat - 87)
  else if 'A' ≤ c && c ≤ 'F' then some (c.toNat - 55)
  else none

def fourHex? (text : List Char) : Option Nat :=
  match text.take 4 with
  | [a, b, c, d] => do
      let a ← hexValue? a
      let b ← hexValue? b
      let c ← hexValue? c
      let d ← hexValue? d
      some (((a * 16 + b) * 16 + c) * 16 + d)
  | _ => none

def isHighSurrogate (point : Nat) : Bool :=
  0xd800 ≤ point && point ≤ 0xdbff

def isLowSurrogate (point : Nat) : Bool :=
  0xdc00 ≤ point && point ≤ 0xdfff

-- Half of a surrogate pair is no character; it is read as the replacement character.
def charOfPoint (point : Nat) : Char :=
  if 0xd800 ≤ point && point ≤ 0xdfff then '\ufffd' else Char.ofNat point

def simpleEscape? (c : Char) : Option Char :=
  match c with
  | '"' => some '"'
  | '\\' => some '\\'
  | '/' => some '/'
  | 'b' => some '\x08'
  | 'f' => some '\x0c'
  | 'n' => some '\n'
  | 'r' => some '\r'
  | 't' => some '\t'
  | _ => none

-- The escape after a backslash and the `u` that stand before `digits`: its character and how many
-- characters it takes. The text must go on after the digits.
def unicodeEscape (digits : List Char) (index : Nat) : Reader (Char × Nat) :=
  match fourHex? digits, digits.drop 4 with
  | some high, _ :: _ =>
      match isHighSurrogate high, digits.drop 4 with
      | true, '\\' :: 'u' :: second =>
          if second.length ≤ 4 then .ok (charOfPoint high, 4)
          else
            match fourHex? second with
            | none => .error (.invalidUnicodeEscape, index + 6)
            | some low =>
                if isLowSurrogate low then
                  .ok (Char.ofNat (0x10000 + (high - 0xd800) * 0x400 + (low - 0xdc00)), 10)
                else .ok (charOfPoint high, 4)
      | _, _ => .ok (charOfPoint high, 4)
  | _, _ => .error (.invalidUnicodeEscape, index)

-- Reads the rest of a string whose opening quote stands at `opened`, given its characters so far in
-- reverse.
def readString (opened : Nat) : Nat → List Char → Cursor → Reader (String × Cursor)
  | 0, _, _ => .error (.unterminatedString, opened)
  | fuel + 1, done, cursor =>
      match cursor.rest with
      | [] => .error (.unterminatedString, opened)
      | '"' :: rest => .ok (String.ofList done.reverse, ⟨rest, cursor.index + 1⟩)
      | '\\' :: 'u' :: digits =>
          match unicodeEscape digits (cursor.index + 1) with
          | .error e => .error e
          | .ok (c, count) => readString opened fuel (c :: done) (cursor.advance (2 + count))
      | '\\' :: c :: rest =>
          match simpleEscape? c with
          | none => .error (.invalidEscape, cursor.index)
          | some d => readString opened fuel (d :: done) ⟨rest, cursor.index + 2⟩
      | c :: rest =>
          if c = '\\' then .error (.unterminatedString, opened)
          else if c.toNat < 0x20 then .error (.controlCharacter, cursor.index)
          else readString opened fuel (c :: done) ⟨rest, cursor.index + 1⟩

def isDigit (c : Char) : Bool :=
  '0' ≤ c && c ≤ '9'

def naturalOf (digits : List Char) : Nat :=
  digits.foldl (fun n c => n * 10 + (c.toNat - 48)) 0

-- The digits of an exponent after its mark, with their sign, and how many characters they take.
def exponentPart (text : List Char) : Option (Int × Nat) :=
  let (negative, signSize) : Bool × Nat :=
    match text with
    | '-' :: _ => (true, 1)
    | '+' :: _ => (false, 1)
    | _ => (false, 0)
  let digits := (text.drop signSize).takeWhile isDigit
  if digits.isEmpty then none
  else
    let size : Int := naturalOf digits
    some (if negative then -size else size, signSize + digits.length)

def readNumber (text : List Char) : Option (Json × Nat) :=
  let negative := text.head? = some '-'
  let signSize := if negative then 1 else 0
  let whole :=
    match text.drop signSize with
    | '0' :: _ => ['0']
    | rest => rest.takeWhile isDigit
  if whole.isEmpty then none
  else
    let afterWhole := text.drop (signSize + whole.length)
    let fraction :=
      match afterWhole with
      | '.' :: rest => rest.takeWhile isDigit
      | _ => []
    let fractionSize := if fraction.isEmpty then 0 else 1 + fraction.length
    let exponent :=
      match afterWhole.drop fractionSize with
      | 'e' :: rest => exponentPart rest
      | 'E' :: rest => exponentPart rest
      | _ => none
    let size := signSize + whole.length + fractionSize
    match fraction, exponent with
    | [], none =>
        let n : Int := naturalOf whole
        some (.int (if negative then -n else n), size)
    | _, none =>
        some (.float (.ofDecimal negative (naturalOf (whole ++ fraction)) (-fraction.length)), size)
    | _, some (power, exponentSize) =>
        let digits := naturalOf (whole ++ fraction)
        some (.float (.ofDecimal negative digits (power - fraction.length)),
          size + 1 + exponentSize)

-- The literals that are no numbers in the grammar, longest first where one begins another.
def literals : List (String × Json) :=
  [("null", .null), ("true", .bool true), ("false", .bool false), ("NaN", .float .nan),
   ("Infinity", .float (.infinite false)), ("-Infinity", .float (.infinite true))]

def readLiteral (text : List Char) : Option (Json × Nat) :=
  (literals.find? (fun literal => literal.1.toList.isPrefixOf text)).map
    (fun literal => (literal.2, literal.1.length))

def readScalar (cursor : Cursor) : Reader (Json × Cursor) :=
  match (readLiteral cursor.rest).or (readNumber cursor.rest) with
  | some (.int n, size) =>
      let digits := ((cursor.rest.take size).filter isDigit).length
      if digitLimit < digits then .error (.tooManyDigits digits, cursor.index)
      else .ok (.int n, cursor.advance size)
  | some (value, size) => .ok (value, cursor.advance size)
  | none => .error (.expectingValue, cursor.index)

abbrev ValueReader := Cursor → Reader (Json × Cursor)

-- An item takes up a character at least, so no list has more items than its text has characters.
def readItems (readItem : ValueReader) : Nat → Cursor → List Json → Reader (List Json × Cursor)
  | 0, cursor, _ => .error (.expectingValue, cursor.index)
  | fuel + 1, cursor, done => do
      let (item, after) ← readItem cursor
      let next := after.skipBlank
      match next.rest with
      | ']' :: _ => .ok ((item :: done).reverse, next.advance 1)
      | ',' :: _ => readItems readItem fuel (next.advance 1).skipBlank (item :: done)
      | _ => .error (.expectingComma, next.index)

def readFields (size : Nat) (readItem : ValueReader) :
    Nat → Cursor → List (String × Json) → Reader (List (String × Json) × Cursor)
  | 0, cursor, _ => .error (.expectingName, cursor.index)
  | fuel + 1, cursor, done =>
      match cursor.rest with
      | '"' :: rest => do
          let (key, afterKey) ← readString cursor.index size [] ⟨rest, cursor.index + 1⟩
          let colon := afterKey.skipBlank
          match colon.rest with
          | ':' :: _ => do
              let (value, after) ← readItem (colon.advance 1).skipBlank
              let next := after.skipBlank
              let fields := put done key value
              match next.rest with
              | '\x7d' :: _ => .ok (fields, next.advance 1)
              | ',' :: _ => readFields size readItem fuel (next.advance 1).skipBlank fields
              | _ => .error (.expectingComma, next.index)
          | _ => .error (.expectingColon, colon.index)
      | _ => .error (.expectingName, cursor.index)

def readList (size : Nat) (readItem : ValueReader) (start : Cursor) : Reader (Json × Cursor) :=
  match start.rest with
  | ']' :: _ => .ok (.arr [], start.advance 1)
  | _ => do
      let (items, after) ← readItems readItem size start []
      .ok (.arr items, after)

def readObject (size : Nat) (readItem : ValueReader) (start : Cursor) : Reader (Json × Cursor) :=
  match start.rest with
  | '\x7d' :: _ => .ok (.obj [], start.advance 1)
  | _ => do
      let (fields, after) ← readFields size readItem size start []
      .ok (.obj fields, after)

-- Reads one value with a reader for the values inside it, if containers may still be entered. The
-- text is shorter than `size`.
def readLevel (size : Nat) (inner : Option ValueReader) (cursor : Cursor) :
    Reader (Json × Cursor) :=
  match cursor.rest with
  | '"' :: rest => do
      let (text, after) ← readString cursor.index size [] ⟨rest, cursor.index + 1⟩
      .ok (.str text, after)
  | '[' :: rest =>
      match inner with
      | none => .error (.tooDeep .arr, cursor.index)
      | some readItem => readList size readItem (Cursor.skipBlank ⟨rest, cursor.index + 1⟩)
  | '\x7b' :: rest =>
      match inner with
      | none => .error (.tooDeep .obj, cursor.index)
      | some readItem => readObject size readItem (Cursor.skipBlank ⟨rest, cursor.index + 1⟩)
  | _ => readScalar cursor

-- Reads one value in which containers stand at most `room` deep in each other.
def readValue (size : Nat) : Nat → ValueReader
  | 0 => readLevel size none
  | room + 1 => readLevel size (some (readValue size room))

def locate (text : List Char) (fault : Fault) (index : Nat) : ReadError :=
  let before := text.take index
  { fault := fault
    line := before.count '\n' + 1
    column := (before.reverse.takeWhile (fun c => c ≠ '\n')).length + 1
    index := index }

def readDocument (room : Nat) (text : List Char) : Reader Json := do
  if text.head? = some '\ufeff' then .error (.byteOrderMark, 0)
  let (value, after) ← readValue (text.length + 1) room (Cursor.skipBlank ⟨text, 0⟩)
  let last := after.skipBlank
  if last.rest.isEmpty then .ok value else .error (.extraData, last.index)

def usualRoom : Nat := 990

def read (room : Nat) (text : List Char) : Except ReadError Json :=
  match readDocument room text with
  | .ok value => .ok value
  | .error (fault, index) => .error (locate text fault index)

end ControlFlow.Json
