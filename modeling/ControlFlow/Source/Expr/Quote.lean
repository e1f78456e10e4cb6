import ControlFlow.Text.Quoted

set_option autoImplicit false

namespace ControlFlow.Source

inductive Quotes where
  | single
  | double
  | tripleDouble
  | tripleSingle
  deriving DecidableEq, Repr

def Quotes.mark : Quotes → Char
  | .single | .tripleSingle => '\''
  | .double | .tripleDouble => '"'

def Quotes.isTriple : Quotes → Bool
  | .single | .double => false
  | .tripleDouble | .tripleSingle => true

def Quotes.chars (quotes : Quotes) : List Char :=
  List.replicate (if quotes.isTriple then 3 else 1) quotes.mark

def allQuotes : List Quotes := [.single, .double, .tripleDouble, .tripleSingle]

def occursIn (needle : List Char) : List Char → Bool
  | [] => needle.isEmpty
  | c :: rest => needle.isPrefixOf (c :: rest) || occursIn needle rest

-- A code point inside a literal; line feeds and tabs stay as they are unless asked otherwise.
def plainPoint (escapesBlanks : Bool) (point : Nat) : List Char :=
  if !escapesBlanks && (point = 10 || point = 9) then [Char.ofNat point]
  else if point = Text.backslash || !Text.isPrintable point then (Text.escapePoint point).toList
  else [Char.ofNat point]

def insideQuotes (points : List Nat) : Char × List Char :=
  let quoted := (Text.quotePoints points).toList
  (quoted.head?.getD '\'', (quoted.drop 1).dropLast)

-- Quotes that do not end with the last character of a text come first.
def preferQuotes (last : Char) (quotes : List Quotes) : List Quotes :=
  quotes.filter (fun q => q.mark != last) ++ quotes.filter (fun q => q.mark == last)

def literalText (quotes : List Quotes) (escapesBlanks : Bool) (points : List Nat) :
    List Char × List Quotes :=
  let escaped := points.flatMap (plainPoint escapesBlanks)
  let usable := if escaped.contains '\n' then quotes.filter Quotes.isTriple else quotes
  match usable.filter (fun q => !occursIn q.chars escaped), escaped.getLast? with
  | [], _ =>
      let (mark, inside) := insideQuotes points
      let plain := if mark = '"' then .double else .single
      (inside, [(quotes.find? (fun q => q.mark == mark)).getD plain])
  | possible, none => (escaped, possible)
  | possible, some last =>
      let possible := preferQuotes last possible
      if possible.head?.any (fun q => q.mark == last) then
        (escaped.dropLast ++ ['\\', last], possible)
      else (escaped, possible)

def enclose (quotes : List Quotes) (text : List Char) : String :=
  let border := (quotes.head?.getD .single).chars
  String.ofList (border ++ text ++ border)

def avoidEscapes (points : List Nat) : String :=
  let (text, quotes) := literalText allQuotes false points
  enclose quotes text

-- A part of a formatted string: its text, and whether it is constant.
structure Part where
  points : List Nat
  isConstant : Bool

-- The texts of the parts under quotes that suit all of them; `none` if no quotes do.
def commonQuotes : List Quotes → List Part → Option (List Char × List Quotes)
  | quotes, [] => some ([], quotes)
  | quotes, part :: rest =>
      let (text, next) := literalText quotes part.isConstant part.points
      if next.any quotes.contains then
        (commonQuotes next rest).map (fun found => (text ++ found.1, found.2))
      else none

def forcedText (part : Part) : List Char :=
  (insideQuotes (Text.doubleQuote :: part.points)).2.drop 1

def encloseParts (parts : List Part) : String :=
  match commonQuotes allQuotes parts with
  | some (text, quotes) => enclose quotes text
  | none => enclose [.tripleSingle] (parts.flatMap forcedText)

end ControlFlow.Source
