import ControlFlow.Location

set_option autoImplicit false

namespace ControlFlow.Source

inductive Token.Kind where
  | name
  | keyword
  | number
  | string
  | symbol
  | newline
  | indent
  | dedent
  | finish
  deriving DecidableEq, Repr

structure Token where
  kind : Token.Kind
  text : String
  location : Location
  deriving DecidableEq, Repr

def Token.isLayout (token : Token) : Bool :=
  match token.kind with
  | .newline | .indent | .dedent | .finish => true
  | _ => false

def keywords : List String :=
  ["False", "None", "True", "and", "as", "assert", "async", "await", "break", "class", "continue",
   "def", "del", "elif", "else", "except", "finally", "for", "from", "global", "if", "import", "in",
   "is", "lambda", "nonlocal", "not", "or", "pass", "raise", "return", "try", "while", "with",
   "yield"]

-- Symbols, longer ones before their beginnings.
def symbols : List String :=
  ["**=", "//=", ">>=", "<<=", "...", "!=", "->", "**", "*=", "//", "/=", "%=", "&=", "|=", "^=",
   "+=", "-=", "@=", "==", "<=", ">=", "<<", ">>", ":=", "(", ")", "[", "]", "\x7b", "\x7d", ":",
   ",", ";", "+", "-", "*", "/", "|", "&", "<", ">", "=", ".", "%", "~", "^", "@"]

def advance : Position → List Char → Position
  | position, [] => position
  | position, c :: rest =>
      advance
        (if c = '\n' then ⟨position.line + 1, 0⟩ else ⟨position.line, position.column + c.utf8Size⟩)
        rest

end ControlFlow.Source
