import ControlFlow.Proofs.Dot.Reading
import Mathlib.Data.List.TakeWhile

set_option autoImplicit false

namespace ControlFlow

namespace Text

/-- The lines of a text. A carriage return and a line feed end one line together, and what ends the
text ends its last line. -/
def lines : List Char → List (List Char)
  | [] => []
  | '\r' :: '\n' :: rest => [] :: lines rest
  | c :: rest =>
      if isLineBreak c then [] :: lines rest
      else
        match lines rest with
        | [] => [[c]]
        | line :: more => (c :: line) :: more

def replace (old : Char) (new text : List Char) : List Char :=
  text.flatMap fun c => if c = old then new else [c]

theorem lines_eq_nil_iff (text : List Char) : lines text = [] ↔ text = [] := by
  fun_cases lines text with
  | case1 => simp
  | case2 | case3 | case4 | case5 => simp [*]

theorem lines_headD (text : List Char) : (lines text).headD [] = firstLine text := by
  fun_induction lines text with
  | case1 => rfl
  | case2 rest => simp [firstLine, isLineBreak, lineBreaks]
  | case3 c rest _ breaks => simp [firstLine, breaks]
  | case4 c rest _ plain none =>
    rw [lines_eq_nil_iff] at none
    simp [none, firstLine, plain]
  | case5 c rest _ plain line more first ih =>
    have same : line = firstLine rest := by simpa [first] using ih
    simp [same, firstLine, plain]

theorem firstLine_of_unbroken {text : List Char} (unbroken : ∀ c ∈ text, isLineBreak c = false) :
    firstLine text = text :=
  List.takeWhile_eq_self_iff.mpr (by simpa using unbroken)

end Text

namespace Dot

def clipped (limit : Int) (line : List Char) : List Char :=
  if line.length ≤ limit then line else line.take (limit - 3).toNat ++ ['.', '.', '.']

theorem ellipsize_eq_clipped {limit : Int} (enough : 3 ≤ limit) (line : List Char) :
    Text.ellipsize limit line = clipped limit line := by
  by_cases fits : (line.length : Int) ≤ limit
  · rw [Text.ellipsize, clipped, if_neg (by omega), if_pos fits]
  · have positive : ¬limit - 3 < 0 := by omega
    rw [Text.ellipsize, clipped, if_pos (by omega), if_neg fits]
    simp only [positive, if_false]

theorem clipped_length {limit : Int} (enough : 3 ≤ limit) (line : List Char) :
    (clipped limit line).length ≤ limit := by
  rw [clipped]
  split
  · assumption
  · simp only [List.length_append, List.length_take, List.length_cons, List.length_nil]
    omega

-- Quotes come second: the backslashes they get are not doubled.
theorem replace_replace (text : List Char) :
    Text.replace '"' ['\\', '"'] (Text.replace '\\' ['\\', '\\'] text) =
      text.flatMap escapeChar := by
  rw [Text.replace, Text.replace, List.flatMap_assoc]
  apply List.flatMap_congr
  intro c _
  by_cases backslash : c = '\\' <;> by_cases quote : c = '"' <;>
    simp [escapeChar, backslash, quote]

theorem flatMap_escapeChar_injective :
    Function.Injective fun text : List Char => text.flatMap escapeChar := by
  intro text other same
  have read := congrArg (fun label => unquote (label ++ ['"'])) same
  simpa [unquote_escaped] using read

theorem escape_of_unbroken {limit : Int} {text : String} (unbroken : Unbroken text)
    (fits : text.length ≤ limit) : escape limit text.toList = text.toList.flatMap escapeChar := by
  have whole : ¬((text.toList.length : Int) > limit) := by
    rw [String.length_toList]
    omega
  rw [escape, Text.firstLine_of_unbroken unbroken, Text.ellipsize, if_neg whole]

theorem escape_unbroken (limit : Int) (text : List Char) :
    Unbroken (String.ofList (escape limit text)) := by
  have escaped := unbroken_escaped (unbroken_ellipsize limit text)
  rwa [Dot.escaped, String.toList_ofList] at escaped

theorem label_reads_back (limit : Int) (enough : 3 ≤ limit) (text : String) :
    let kept := clipped limit ((Text.lines text.toList).headD [])
    (text ≠ "" → Text.lines text.toList ≠ []) ∧
      ∃ label, escapeValue limit (.str text) = .ok label ∧
        Unbroken label ∧
        (∀ rest, unquote (label.toList ++ '"' :: rest) = some (kept, rest)) ∧
        kept.length ≤ limit ∧
        label.toList = kept.flatMap escapeChar ∧
        label.toList =
          Text.replace '"' ['\\', '"'] (Text.replace '\\' ['\\', '\\'] kept) ∧
        ∀ other, Unbroken text → Unbroken other → text.length ≤ limit → other.length ≤ limit →
          escapeValue limit (.str other) = .ok label → other = text := by
  intro kept
  have pairs : escape limit text.toList = kept.flatMap escapeChar := by
    rw [escape, ellipsize_eq_clipped enough, ← Text.lines_headD]
  refine ⟨?_, _, rfl, escape_unbroken limit _, ?_, clipped_length enough _, ?_, ?_, ?_⟩
  · intro nonempty
    rwa [Ne, Text.lines_eq_nil_iff, String.toList_eq_nil_iff]
  · intro rest
    rw [String.toList_ofList, pairs, unquote_escaped]
  · rw [String.toList_ofList, pairs]
  · rw [String.toList_ofList, pairs, replace_replace]
  · intro other unbroken otherUnbroken fits otherFits same
    have labels := String.ofList_injective (Except.ok.inj same)
    rw [escape_of_unbroken unbroken fits, escape_of_unbroken otherUnbroken otherFits] at labels
    exact String.toList_injective (flatMap_escapeChar_injective labels)

-- Six characters are too many, and the cut falls between a backslash and the quote after it.
def sixCharacters : String := "\"\\\"\\ab\r\nc"

theorem label_reads_back_cut :
    escapeValue 5 (.str sixCharacters) = .ok "\\\"\\\\..." ∧
      unquote "\\\"\\\\...\", shape=box".toList =
        some ("\"\\...".toList, ", shape=box".toList) ∧
      (∃ label, escapeValue 3 (.str "\n\u2028\r") = .ok label ∧ Unbroken label) ∧
      escapeValue 5 (.str "a\\b") ≠ escapeValue 5 (.str "a\"b") := by
  obtain ⟨-, label, made, -, reads, -⟩ := label_reads_back 5 (by decide) sixCharacters
  obtain ⟨-, blank, madeBlank, unbroken, -⟩ := label_reads_back 3 (by decide) "\n\u2028\r"
  obtain ⟨-, plain, madePlain, -, -, -, -, -, distinct⟩ := label_reads_back 5 (by decide) "a\\b"
  have shown : label = "\\\"\\\\..." := Except.ok.inj (made.symm.trans rfl)
  subst shown
  refine ⟨made, (reads ", shape=box".toList).trans rfl, ⟨blank, madeBlank, unbroken⟩, ?_⟩
  intro same
  have equal := distinct "a\"b" (by decide) (by decide) (by decide) (by decide)
    (same.symm.trans madePlain)
  exact absurd equal (by decide)

end Dot

end ControlFlow
