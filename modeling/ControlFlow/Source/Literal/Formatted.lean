import ControlFlow.Source.Literal.Escape

set_option autoImplicit false

namespace ControlFlow.Source

inductive Piece where
  | text (points : List Nat)
  | field (value : Expr)

-- A stretch of constant text as it stands, what follows it, and whether it ends in a doubled brace.
structure Stretch where
  taken : List Char
  rest : List Char
  doubled : Bool

def Stretch.after (chars : List Char) (stretch : Stretch) : Stretch :=
  { stretch with taken := chars ++ stretch.taken }

def isBrace (c : Char) : Bool := c = '\x7b' || c = '\x7d'

-- A brace that constant text runs into. At the top a doubled brace stands for one, and a closing
-- brace must not stand alone.
def atBrace (top : Bool) (c : Char) (rest : List Char) : Option Stretch :=
  if top && rest.head? = some c then some ⟨[c], rest.drop 1, true⟩
  else if top && c = '\x7d' then none
  else some ⟨[], c :: rest, false⟩

-- Constant text up to the next brace; the braces of a character given by name do not count.
def stretch (raw top : Bool) : Bool → List Char → Option Stretch
  | _, [] => some ⟨[], [], false⟩
  | true, c :: rest => (stretch raw top (c != '\x7d') rest).map (Stretch.after [c])
  | false, '\\' :: 'N' :: '\x7b' :: rest =>
      if raw then
        (atBrace top '\x7b' rest).map (Stretch.after ['\\', 'N'])
      else (stretch raw top true rest).map (Stretch.after ['\\', 'N', '\x7b'])
  | false, '\\' :: c :: rest =>
      if isBrace c then (atBrace top c rest).map (Stretch.after ['\\'])
      else if raw then (stretch raw top false (c :: rest)).map (Stretch.after ['\\'])
      else (stretch raw top false rest).map (Stretch.after ['\\', c])
  | false, c :: rest =>
      if isBrace c then atBrace top c rest
      else (stretch raw top false rest).map (Stretch.after [c])

def isOpening (c : Char) : Bool := c = '(' || c = '[' || c = '\x7b'

def closes (opening c : Char) : Bool :=
  (opening = '(' && c = ')') || (opening = '[' && c = ']') || (opening = '\x7b' && c = '\x7d')

def deepestField : Nat := 200

-- The text of a field's expression and what follows it, given the string that is open, the brackets
-- that are open, and the text so far in reverse.
def fieldSource : Option (Char × Bool) → List Char → List Char → List Char →
    Option (List Char × List Char)
  | _, _, _, [] => none
  | some (quote, triple), brackets, done, c :: rest =>
      if c = '\\' then none
      else if c != quote then fieldSource (some (quote, triple)) brackets (c :: done) rest
      else if !triple then fieldSource none brackets (c :: done) rest
      else
        match rest with
        | a :: b :: more =>
            if a = quote && b = quote then fieldSource none brackets (b :: a :: c :: done) more
            else fieldSource (some (quote, triple)) brackets (c :: done) (a :: b :: more)
        | rest => fieldSource (some (quote, triple)) brackets (c :: done) rest
  | none, brackets, done, c :: rest =>
      if c = '\\' || c = '#' then none
      else if c = '\'' || c = '"' then
        match rest with
        | a :: b :: more =>
            if a = c && b = c then fieldSource (some (c, true)) brackets (b :: a :: c :: done) more
            else fieldSource (some (c, false)) brackets (c :: done) (a :: b :: more)
        | rest => fieldSource (some (c, false)) brackets (c :: done) rest
      else if isOpening c then
        if brackets.length < deepestField then fieldSource none (c :: brackets) (c :: done) rest
        else none
      else
        match brackets with
        | opening :: outer =>
            if c = ')' || c = ']' || c = '\x7d' then
              if closes opening c then fieldSource none outer (c :: done) rest else none
            else fieldSource none brackets (c :: done) rest
        | [] =>
            if c = ')' || c = ']' then none
            else if c = ':' || c = '\x7d' then some (done.reverse, c :: rest)
            else if c = '!' || c = '=' || c = '<' || c = '>' then
              match rest with
              | '=' :: more => fieldSource none [] ('=' :: c :: done) more
              | rest =>
                  if c = '<' || c = '>' then fieldSource none [] (c :: done) rest
                  else some (done.reverse, c :: rest)
            else fieldSource none [] (c :: done) rest

def isFieldBlank (c : Char) : Bool := c = ' ' || c = '\t' || c = '\n' || c = '\x0c'

def isAsciiBlank (c : Char) : Bool := isFieldBlank c || c = '\r' || c = '\x0b'

def selfText (source : List Char) : List Char → Option (Option (List Char) × List Char)
  | '=' :: rest =>
      let blanks := rest.takeWhile isAsciiBlank
      match rest.drop blanks.length with
      | [] => none
      | after => some (some (source ++ '=' :: blanks), after)
  | rest => some (none, rest)

def conversion : List Char → Option (Option Char × List Char)
  | '!' :: c :: rest =>
      if c = 's' || c = 'r' || c = 'a' then some (some c, rest) else none
  | ['!'] => none
  | rest => some (none, rest)

-- Joins neighbouring texts and drops empty ones, given the text in front.
def joinPieces : List Nat → List Piece → List Expr
  | pending, [] => textExpr pending
  | pending, .text points :: rest => joinPieces (pending ++ points) rest
  | pending, .field value :: rest => textExpr pending ++ value :: joinPieces [] rest
where
  textExpr (points : List Nat) : List Expr :=
    if points.isEmpty then [] else [.constant (.text points false)]

def deepestFormat : Nat := 2

-- The pieces of a formatted string inside `level` formats, and what follows them. The expressions
-- of fields are read by `parse`.
def pieces (parse : List Char → Option Expr) (raw : Bool) :
    Nat → Nat → List Char → Option (List Piece × List Char)
  | 0, _, _ => none
  | fuel + 1, level, text => do
      let found ← stretch raw (level == 0) false text
      let points ← if raw then some (found.taken.map Char.toNat) else unescape found.taken
      if found.doubled then
        let (more, rest) ← pieces parse raw fuel level found.rest
        return (.text points :: more, rest)
      match found.rest with
      | '\x7b' :: inner =>
          if deepestFormat ≤ level then none
          let (source, afterSource) ← fieldSource none [] [] inner
          if source.all isFieldBlank then none
          let value ← parse source
          let (own, afterOwn) ← selfText source afterSource
          let (conversion, afterConversion) ← conversion afterOwn
          let (spec, afterSpec) ← match afterConversion with
            | ':' :: c :: format => do
                let (parts, rest) ← pieces parse raw fuel (level + 1) (c :: format)
                some (some (Expr.joined (joinPieces [] parts)), rest)
            | [':'] => none
            | rest => some (none, rest)
          match afterSpec with
          | '\x7d' :: rest =>
              let conversion :=
                if own.isSome && spec.isNone && conversion.isNone then some 'r' else conversion
              let (more, rest) ← pieces parse raw fuel level rest
              some (.text points :: .text ((own.getD []).map Char.toNat) ::
                .field (.field value conversion spec) :: more, rest)
          | _ => none
      | rest => some ([.text points], rest)

def formattedPieces (parse : List Char → Option Expr) (raw : Bool) (text : List Char) :
    Option (List Piece) := do
  let (found, rest) ← pieces parse raw (text.length + 1) 0 text
  if rest.isEmpty then some found else none

end ControlFlow.Source
