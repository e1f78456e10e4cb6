
set_option autoImplicit false

namespace ControlFlow

variable {α : Type} [BEq α]

def newTargets (pairs : List (α × α)) (seen : List α) (name : α) : List α :=
  ((pairs.filter (fun pair => pair.1 == name)).map Prod.snd).foldl
    (fun found target =>
      if seen.contains target || found.contains target then found else found ++ [target]) []

-- Visits the names to do; what is seen includes them.
def explore (pairs : List (α × α)) : Nat → List α → List α → List α
  | 0, _, seen => seen
  | _ + 1, [], seen => seen
  | fuel + 1, name :: todo, seen =>
      let found := newTargets pairs seen name
      explore pairs fuel (todo ++ found) (seen ++ found)

def reachableFrom (pairs : List (α × α)) (names : List α) : List α :=
  explore pairs (names.length + pairs.length) names names

def reachable (pairs : List (α × α)) (name : α) : List α :=
  reachableFrom pairs [name]

def reversed (pairs : List (α × α)) : List (α × α) :=
  pairs.map Prod.swap

def sortTexts (texts : List String) : List String :=
  texts.mergeSort (fun a b => !decide (b < a))

def distinct (items : List α) : List α :=
  items.foldl (fun found item => if found.contains item then found else found ++ [item]) []

def component (pairs : List (α × α)) (names : List α) (name : α) : List α :=
  let ahead := reachable pairs name
  let behind := reachable (reversed pairs) name
  names.filter (fun other => ahead.contains other && behind.contains other)

def components (pairs : List (α × α)) (names : List α) : List (List α) :=
  distinct (names.map (component pairs names))

end ControlFlow
