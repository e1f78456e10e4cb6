
set_option autoImplicit false

namespace ControlFlow.Text

inductive Utf8Fault where
  | invalidStart
  | invalidContinuation
  | unexpectedEnd
  deriving DecidableEq, Repr

-- Where and why bytes are no text: `size` bytes from `position` on, the first of them `byte`.
structure Utf8Error where
  fault : Utf8Fault
  byte : Nat
  position : Nat
  size : Nat
  deriving DecidableEq, Repr

def isContinuation (byte : Nat) : Bool :=
  0x80 ≤ byte && byte ≤ 0xbf

-- The bytes that may follow a lead byte: how many, and the range of the first of them.
structure Lead where
  follow : Nat
  least : Nat
  greatest : Nat

def lead? (byte : Nat) : Option Lead :=
  if 0xc2 ≤ byte && byte ≤ 0xdf then some ⟨1, 0x80, 0xbf⟩
  else if byte = 0xe0 then some ⟨2, 0xa0, 0xbf⟩
  else if byte = 0xed then some ⟨2, 0x80, 0x9f⟩
  else if 0xe1 ≤ byte && byte ≤ 0xef then some ⟨2, 0x80, 0xbf⟩
  else if byte = 0xf0 then some ⟨3, 0x90, 0xbf⟩
  else if byte = 0xf4 then some ⟨3, 0x80, 0x8f⟩
  else if 0xf1 ≤ byte && byte ≤ 0xf3 then some ⟨3, 0x80, 0xbf⟩
  else none

def continued (lead : Lead) (rest : List Nat) : Nat :=
  match rest.take lead.follow with
  | [] => 0
  | first :: more =>
      if lead.least ≤ first && first ≤ lead.greatest then 1 + (more.takeWhile isContinuation).length
      else 0

def leadBits (lead : Lead) (byte : Nat) : Nat :=
  byte % Nat.pow 2 (6 - lead.follow)

-- One character of two bytes or more, and how many bytes it takes after its lead byte.
def decodeLong (byte : Nat) (rest : List Nat) (position : Nat) : Except Utf8Error (Char × Nat) :=
  match lead? byte with
  | none => .error ⟨.invalidStart, byte, position, 1⟩
  | some lead =>
      let count := continued lead rest
      if count = lead.follow then
        let point := (rest.take count).foldl (fun acc b => acc * 64 + b % 64) (leadBits lead byte)
        .ok (Char.ofNat point, count)
      else if rest.length = count then .error ⟨.unexpectedEnd, byte, position, 1 + count⟩
      else .error ⟨.invalidContinuation, byte, position, 1 + count⟩

-- Decodes from `position` on, given the characters so far in reverse; each step takes at least one
-- byte, so the count of bytes is enough fuel.
def decodeFrom : Nat → Nat → List Char → List Nat → Except Utf8Error (List Char)
  | 0, _, done, _ => .ok done.reverse
  | _ + 1, _, done, [] => .ok done.reverse
  | fuel + 1, position, done, byte :: rest =>
      if byte < 0x80 then decodeFrom fuel (position + 1) (Char.ofNat byte :: done) rest
      else
        match decodeLong byte rest position with
        | .error e => .error e
        | .ok (c, count) => decodeFrom fuel (position + 1 + count) (c :: done) (rest.drop count)

def decodeUtf8 (bytes : List Nat) : Except Utf8Error (List Char) :=
  decodeFrom bytes.length 0 [] bytes

def Utf8Fault.reason : Utf8Fault → String
  | .invalidStart => "invalid start byte"
  | .invalidContinuation => "invalid continuation byte"
  | .unexpectedEnd => "unexpected end of data"

end ControlFlow.Text
