import ControlFlow.Source.Token
import ControlFlow.Text.NormalForm

set_option autoImplicit false

namespace ControlFlow.Source

structure Cursor where
  rest : List Token
  left : Nat
  -- Where the last token ended that is more than layout.
  stop : Position

abbrev Parser := StateT Cursor Option

def Cursor.ofTokens (tokens : List Token) : Cursor :=
  ⟨tokens, tokens.length, ⟨1, 0⟩⟩

namespace Parser

def refuse {α : Type} : Parser α := fun _ => none

def satisfy (test : Token → Bool) : Parser Token := fun cursor =>
  match cursor.rest with
  | [] => none
  | token :: rest =>
      if test token then
        let stop := if token.isLayout then cursor.stop else token.location.stop
        some (token, ⟨rest, cursor.left - 1, stop⟩)
      else none

def peek : Parser Token := fun cursor =>
  match cursor.rest with
  | [] => none
  | token :: _ => some (token, cursor)

def next (test : Token → Bool) : Parser Bool := fun cursor =>
  some (cursor.rest.head?.any test, cursor)

def nextTwo (first second : Token → Bool) : Parser Bool := fun cursor =>
  match cursor.rest with
  | a :: b :: _ => some (first a && second b, cursor)
  | _ => some (false, cursor)

def isSymbol (text : String) (token : Token) : Bool :=
  token.kind = .symbol && token.text == text

def isKeyword (text : String) (token : Token) : Bool :=
  token.kind = .keyword && token.text == text

def isName (token : Token) : Bool :=
  token.kind = .name

def isWord (text : String) (token : Token) : Bool :=
  token.kind = .name && token.text == text

def isKind (kind : Token.Kind) (token : Token) : Bool :=
  token.kind = kind

def symbol (text : String) : Parser Unit := do
  let _ ← satisfy (isSymbol text)

def keyword (text : String) : Parser Unit := do
  let _ ← satisfy (isKeyword text)

def word (text : String) : Parser Unit := do
  let _ ← satisfy (isWord text)

def name : Parser String := do
  let token ← satisfy isName
  return String.ofList (Text.normalForm token.text.toList)

def kind (kind : Token.Kind) : Parser String := do
  let token ← satisfy (isKind kind)
  return token.text

def onSymbol (text : String) : Parser Bool := next (isSymbol text)

def onKeyword (text : String) : Parser Bool := next (isKeyword text)

def tookSymbol (text : String) : Parser Bool := do
  if ← onSymbol text then
    symbol text
    return true
  else return false

def tookKeyword (text : String) : Parser Bool := do
  if ← onKeyword text then
    keyword text
    return true
  else return false

def oneOf {α : Type} (table : List (String × α)) : Parser α := fun cursor =>
  match cursor.rest with
  | [] => none
  | token :: _ =>
      match table.find? (fun entry => isSymbol entry.1 token) with
      | some entry =>
          (satisfy (isSymbol entry.1)).run cursor |>.map (fun found => (entry.2, found.2))
      | none => none

def attempt {α : Type} (p : Parser α) : Parser (Option α) :=
  (some <$> p) <|> pure none

def manyUpTo {α : Type} (p : Parser α) : Nat → Parser (List α)
  | 0 => pure []
  | bound + 1 => do
      match ← attempt p with
      | none => return []
      | some item =>
          let items ← manyUpTo p bound
          return item :: items

def many {α : Type} (p : Parser α) : Parser (List α) := fun cursor =>
  manyUpTo p cursor.left cursor

def many1 {α : Type} (p : Parser α) : Parser (List α) := do
  let first ← p
  let rest ← many p
  return first :: rest

def separated {α : Type} (separator : String) (p : Parser α) : Parser (List α) := do
  let first ← p
  let rest ← many (do symbol separator; p)
  return first :: rest

def commaSeparated {α : Type} (p : Parser α) : Parser (List α × Bool) := do
  let items ← separated "," p
  let trailing ← tookSymbol ","
  return (items, trailing)

def here : Parser Position := fun cursor =>
  match cursor.rest with
  | [] => some (cursor.stop, cursor)
  | token :: _ => some (token.location.start, cursor)

def since (start : Position) : Parser Location := fun cursor =>
  some (⟨start, cursor.stop⟩, cursor)

end Parser

end ControlFlow.Source
