import ControlFlow.Graph.Dot.Sheet
import Mathlib.Data.List.Basic

set_option autoImplicit false

namespace ControlFlow.Dot

def Puts (work : Drafting Unit) : Except Failure (List String) → Prop
  | .ok lines => ∀ sheet, work.run sheet = .ok () (sheet ++ lines)
  | .error failure => ∀ sheet, ∃ left, work.run sheet = .error failure left

theorem Puts.bind {first second : Drafting Unit} {before after : Except Failure (List String)}
    (one : Puts first before) (two : Puts second after) :
    Puts (first >>= fun _ => second)
      (before >>= fun lines => after >>= fun more => .ok (lines ++ more)) := by
  cases before with
  | error failure =>
    intro sheet
    obtain ⟨left, failed⟩ := one sheet
    exact ⟨left, by rw [EStateM.run_bind, failed]⟩
  | ok lines =>
    cases after with
    | error failure =>
      intro sheet
      obtain ⟨left, failed⟩ := two (sheet ++ lines)
      exact ⟨left, by rw [EStateM.run_bind, one sheet]; exact failed⟩
    | ok more =>
      intro sheet
      rw [EStateM.run_bind, one sheet, ← List.append_assoc]
      exact two (sheet ++ lines)

end ControlFlow.Dot
