import ControlFlow.Source.Expr

set_option autoImplicit false

namespace ControlFlow.Source

inductive FormalItem where
  | plain (formal : Formal)
  | slash
  | star
  | rest (formal : Formal)
  | keywords (formal : Formal)

-- Positional parameters without a default come first.
def defaultsLast : List Formal → Bool
  | [] => true
  | formal :: rest =>
      if formal.default.isSome then rest.all (fun f => f.default.isSome) else defaultsLast rest

-- The parameters after the star; `needed` says that one must come.
def keywordFormals (needed : Bool) : List FormalItem → Option (List Formal × Option Formal)
  | [] => if needed then none else some ([], none)
  | .plain formal :: rest => do
      let (formals, keywords) ← keywordFormals false rest
      some (formal :: formals, keywords)
  | [.keywords formal] => if needed then none else some ([], some formal)
  | _ => none

def positionalFormals : List Formal → List FormalItem → List Formal × List FormalItem
  | done, .plain formal :: rest => positionalFormals (done ++ [formal]) rest
  | done, rest => (done, rest)

def Formals.ofTail (positionalOnly positional : List Formal) : List FormalItem → Option Formals
  | [] => some (.mk positionalOnly positional none [] none)
  | .star :: tail => do
      let (formals, keywords) ← keywordFormals true tail
      some (.mk positionalOnly positional none formals keywords)
  | .rest rest :: tail => do
      let (formals, keywords) ← keywordFormals false tail
      some (.mk positionalOnly positional (some rest) formals keywords)
  | [.keywords formal] => some (.mk positionalOnly positional none [] (some formal))
  | _ => none

def Formals.ofItems (items : List FormalItem) : Option Formals :=
  let (before, tail) := positionalFormals [] items
  match tail with
  | .slash :: tail =>
      let (after, tail) := positionalFormals [] tail
      if before.isEmpty || !defaultsLast (before ++ after) then none
      else Formals.ofTail before after tail
  | tail => if defaultsLast before then Formals.ofTail [] before tail else none

inductive Argument where
  | plain (value : Expr)
  | starred (value : Expr)
  | keyword (name : String) (value : Expr)
  | unpack (value : Expr)

-- Plain arguments come before the ones given by name, starred ones before mappings.
def argumentsInOrder : Bool → Bool → List Argument → Bool
  | _, _, [] => true
  | named, unpacked, .plain _ :: rest => !named && !unpacked && argumentsInOrder named unpacked rest
  | named, unpacked, .starred _ :: rest => !unpacked && argumentsInOrder named unpacked rest
  | _, unpacked, .keyword _ _ :: rest => argumentsInOrder true unpacked rest
  | named, _, .unpack _ :: rest => argumentsInOrder named true rest

def Argument.expr? : Argument → Option Expr
  | .plain value => some value
  | .starred value => some (.starred value)
  | _ => none

def Argument.keyword? : Argument → Option Keyword
  | .keyword name value => some (.named name value)
  | .unpack value => some (.unpack value)
  | _ => none

end ControlFlow.Source
