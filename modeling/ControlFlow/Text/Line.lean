
set_option autoImplicit false

namespace ControlFlow.Text

def lineBreaks : List Char :=
  ['\n', '\r', '\x0b', '\x0c', '\x1c', '\x1d', '\x1e', '\u0085', '\u2028', '\u2029']

def isLineBreak (c : Char) : Bool :=
  lineBreaks.contains c

def firstLine (text : List Char) : List Char :=
  text.takeWhile (fun c => !isLineBreak c)

def unifyLineEnds : List Char → List Char
  | [] => []
  | '\r' :: '\n' :: rest => '\n' :: unifyLineEnds rest
  | c :: rest => (if c = '\r' then '\n' else c) :: unifyLineEnds rest

def ellipsize (limit : Int) (text : List Char) : List Char :=
  if (text.length : Int) > limit then
    let bound := limit - 3
    let kept := if bound < 0 then text.length + bound else bound
    text.take kept.toNat ++ ['.', '.', '.']
  else text

end ControlFlow.Text
