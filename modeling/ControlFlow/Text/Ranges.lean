
set_option autoImplicit false

namespace ControlFlow.Text

-- Closed ranges of code points, in increasing order and apart from one another.
abbrev Ranges := List (Nat × Nat)

-- Whether a code point lies in one of the ranges; the search ends at the first range past it.
def Ranges.contains : Ranges → Nat → Bool
  | [], _ => false
  | (first, last) :: rest, point =>
      if point < first then false
      else if point ≤ last then true
      else Ranges.contains rest point

end ControlFlow.Text
