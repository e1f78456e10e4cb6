import ControlFlow.Source.Token
import ControlFlow.Source.Token.Number
import ControlFlow.Text.Identifier
import ControlFlow.Text.Line

set_option autoImplicit false

namespace ControlFlow.Source

def deepestIndent : Nat := 100

def deepestBracket : Nat := 200

structure Indent where
  wide : Nat
  narrow : Nat
  deriving DecidableEq, Repr

structure Scanner where
  rest : List Char
  position : Position
  indents : List Indent
  brackets : List Char
  -- Whether a line begins here.
  fresh : Bool
  blank : Bool
  tokens : List Token

structure Margin where
  indent : Indent
  held : Nat
  position : Position
  rest : List Char

def margin (m : Margin) : List Char → Option Margin
  | ' ' :: rest =>
      margin { m with
        indent := ⟨m.indent.wide + 1, m.indent.narrow + 1⟩
        position := advance m.position [' '] } rest
  | '\t' :: rest =>
      margin { m with
        indent := ⟨(m.indent.wide / 8 + 1) * 8, m.indent.narrow + 1⟩
        position := advance m.position ['\t'] } rest
  | '\x0c' :: rest =>
      margin { m with indent := ⟨0, 0⟩, position := advance m.position ['\x0c'] } rest
  | '\\' :: '\n' :: c :: rest =>
      margin { m with
        held := if m.held = 0 then m.indent.wide else m.held
        position := advance m.position ['\\', '\n'] } (c :: rest)
  | '\\' :: _ => none
  | rest => some { m with rest := rest }

def Margin.level (m : Margin) : Indent :=
  if m.held = 0 then m.indent else ⟨m.held, m.held⟩

def layoutToken (kind : Token.Kind) (position : Position) : Token :=
  ⟨kind, "", ⟨position, position⟩⟩

-- The levels that remain at an indentation and how many were left.
def leaveIndents (wide : Nat) : List Indent → List Indent × Nat
  | [] => ([], 0)
  | level :: outer =>
      if wide < level.wide then
        let (remaining, count) := leaveIndents wide outer
        (remaining, count + 1)
      else (level :: outer, 0)

def currentIndent (indents : List Indent) : Indent :=
  indents.head?.getD ⟨0, 0⟩

def relayout (indents : List Indent) (level : Indent) (position : Position) :
    Option (List Indent × List Token) :=
  let current := currentIndent indents
  if level.wide = current.wide then
    if level.narrow = current.narrow then some (indents, []) else none
  else if current.wide < level.wide then
    if deepestIndent ≤ indents.length || level.narrow ≤ current.narrow then none
    else some (level :: indents, [layoutToken .indent position])
  else
    let (remaining, count) := leaveIndents level.wide indents
    if level = currentIndent remaining then
      some (remaining, List.replicate count (layoutToken .dedent position))
    else none

def beginLine (s : Scanner) : Option Scanner := do
  let m ← margin ⟨⟨0, 0⟩, 0, s.position, []⟩ s.rest
  let s := { s with rest := m.rest, position := m.position, fresh := false }
  if m.rest.head? = some '#' || m.rest.head? = some '\n' then
    some { s with blank := true }
  else if s.brackets.isEmpty then
    let (indents, layout) ← relayout s.indents m.level m.position
    some { s with blank := false, indents := indents, tokens := layout.reverse ++ s.tokens }
  else some { s with blank := false }

def Scanner.skip (s : Scanner) (count : Nat) : Scanner :=
  { s with rest := s.rest.drop count, position := advance s.position (s.rest.take count) }

def Scanner.emit (s : Scanner) (kind : Token.Kind) (count : Nat) : Scanner :=
  let text := s.rest.take count
  let stop := advance s.position text
  { s with
    rest := s.rest.drop count
    position := stop
    tokens := ⟨kind, String.ofList text, ⟨s.position, stop⟩⟩ :: s.tokens }

def stringLength (quote : Char) (triple : Bool) : List Char → Option Nat
  | [] => none
  | '\\' :: _ :: rest => (stringLength quote triple rest).map (· + 2)
  | c :: rest =>
      if c = quote then
        if !triple then some 1
        else if [quote, quote].isPrefixOf rest then some 3
        else (stringLength quote triple rest).map (· + 1)
      else if c = '\n' && !triple then none
      else (stringLength quote triple rest).map (· + 1)

def quotedLength : List Char → Option Nat
  | [] => none
  | quote :: rest =>
      if [quote, quote].isPrefixOf rest then
        (stringLength quote true (rest.drop 2)).map (· + 3)
      else (stringLength quote false rest).map (· + 1)

def stringMarks : List (List Char) :=
  [['b'], ['r'], ['u'], ['f'], ['b', 'r'], ['r', 'b'], ['f', 'r'], ['r', 'f']]

def isQuote (c : Char) : Bool := c = '\'' || c = '"'

def stringMark? (text : List Char) : Option Nat :=
  let mark := text.takeWhile (fun c => c.isAlpha)
  let known := mark = [] || stringMarks.contains (mark.map Char.toLower)
  if (text.drop mark.length).head?.any isQuote && known then some mark.length else none

def isWordStart (c : Char) : Bool :=
  c.isAlpha || c = '_' || 128 ≤ c.toNat

def scanWord (s : Scanner) : Option Scanner :=
  let word := s.rest.takeWhile isWordPart
  if word.all (fun c => c.toNat < 128) || Text.isIdentifier word then
    some (s.emit (if keywords.contains (String.ofList word) then .keyword else .name) word.length)
  else none

def closingBracket : Char → Char
  | '(' => ')'
  | '[' => ']'
  | _ => '\x7d'

def scanSymbol (s : Scanner) : Option Scanner := do
  let symbol ← symbols.find? (fun symbol => symbol.toList.isPrefixOf s.rest)
  let taken := s.emit .symbol symbol.length
  match symbol.toList with
  | [c] =>
      if c = '(' || c = '[' || c = '\x7b' then
        if s.brackets.length < deepestBracket then some { taken with brackets := c :: s.brackets }
        else none
      else if c = ')' || c = ']' || c = '\x7d' then
        match s.brackets with
        | [] => none
        | opening :: outer =>
            if closingBracket opening = c then some { taken with brackets := outer } else none
      else some taken
  | _ => some taken

-- Ends a line; inside brackets and on blank lines that is no token.
def endLine (s : Scanner) : Scanner :=
  let next := { s.skip 1 with fresh := true }
  if s.blank || !s.brackets.isEmpty then next
  else { next with tokens := ⟨.newline, "", ⟨s.position, s.position⟩⟩ :: s.tokens }

def scanToken (s : Scanner) : Option Scanner :=
  match s.rest with
  | [] => some s
  | c :: rest =>
      if c = ' ' || c = '\t' || c = '\x0c' then some (s.skip 1)
      else if c = '#' then some (s.skip (s.rest.takeWhile (fun d => d != '\n')).length)
      else if c = '\n' then some (endLine s)
      else if c = '\\' then
        match rest with
        | '\n' :: _ :: _ => some (s.skip 2)
        | _ => none
      else
        match stringMark? s.rest with
        | some mark => do
            let size ← quotedLength (s.rest.drop mark)
            some (s.emit .string (mark + size))
        | none =>
            if isWordStart c then scanWord s
            else if isDecimal c || (c = '.' && rest.head?.any isDecimal) then do
              let size ← numberLength s.rest
              some (s.emit .number size)
            else scanSymbol s

-- Scans to the end; every step takes a character or ends the beginning of a line.
def scanAll : Nat → Scanner → Option (List Token)
  | 0, _ => none
  | fuel + 1, s =>
      if s.fresh then do
        let next ← beginLine s
        scanAll fuel next
      else if s.rest.isEmpty then
        if s.brackets.isEmpty then some (layoutToken .finish s.position :: s.tokens).reverse
        else none
      else do
        let next ← scanToken s
        scanAll fuel next

/-- The lines of a source, each ended by a line feed. A last line that is not ended gets its end; so
does one that a carriage return and a line feed end, which leaves an empty line after it. -/
def sourceLines (source : List Char) : List Char :=
  let text := Text.unifyLineEnds source
  match source.reverse with
  | '\n' :: '\r' :: _ => text ++ ['\n']
  | '\n' :: _ => text
  | '\r' :: _ => text
  | _ => text ++ ['\n']

def scan (source : List Char) : Option (List Token) :=
  let text := sourceLines source
  scanAll (2 * text.length + 2)
    ⟨text, ⟨1, 0⟩, [⟨0, 0⟩], [], true, false, []⟩

end ControlFlow.Source
