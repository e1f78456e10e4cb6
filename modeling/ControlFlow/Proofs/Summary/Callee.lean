import ControlFlow.Summary.Callee
import Mathlib.Data.List.Forall2
import Mathlib.Data.List.Infix
import Mathlib.Data.List.TakeWhile

set_option autoImplicit false

namespace ControlFlow

inductive IsCallable : List Char → Prop where
  | name {first : Char} {rest : List Char}
      (start : first.isAlpha = true ∨ first = '_' ∨ first = '$')
      (parts : ∀ c ∈ rest, Text.isWord c = true ∨ c = '$') : IsCallable (first :: rest)

def BeginsWithCall (text name : List Char) : Prop :=
  ∃ blanks rest, text = blanks ++ name ++ '(' :: rest ∧ (∀ c ∈ blanks, Text.isBlank c = true) ∧
    IsCallable name

theorem isCalleeStart_iff (c : Char) :
    isCalleeStart c = true ↔ c.isAlpha = true ∨ c = '_' ∨ c = '$' := by
  delta Char.isAlpha Char.isUpper Char.isLower
  simp only [isCalleeStart, Char.le_def, Bool.or_eq_true, Bool.and_eq_true, decide_eq_true_eq,
    ge_iff_le, or_assoc]

theorem isCalleePart_iff (c : Char) : isCalleePart c = true ↔ Text.isWord c = true ∨ c = '$' := by
  simp [isCalleePart]

theorem isBlank_of_isCalleeStart {c : Char} (start : isCalleeStart c = true) :
    Text.isBlank c = false := by
  have visible : 0x21 ≤ c.toNat ∧ c.toNat ≤ 0x7e := by
    simp only [isCalleeStart, Char.le_def, Bool.or_eq_true, Bool.and_eq_true, decide_eq_true_eq,
      UInt32.le_iff_toNat_le] at start
    change ((65 ≤ c.toNat ∧ c.toNat ≤ 90 ∨ 97 ≤ c.toNat ∧ c.toNat ≤ 122) ∨ c = '_') ∨
      c = '$' at start
    rcases start with ((upper | lower) | rfl) | rfl
    · omega
    · omega
    · decide
    · decide
  simp only [Text.isBlank, Text.blanks, Text.Ranges.contains]
  grind

theorem isCalleePart_parenthesis : isCalleePart '(' = false := by
  decide +kernel

theorem callee?_eq_some_iff (text name : List Char) :
    callee? text = some name ↔ BeginsWithCall text name := by
  constructor
  · intro found
    rw [callee?] at found
    split at found
    · cases found
    next first rest tail =>
      split at found
      next accepted =>
        rw [Bool.and_eq_true, decide_eq_true_eq] at accepted
        obtain ⟨after, closing⟩ := List.head?_eq_some_iff.mp accepted.2
        obtain rfl := Option.some.inj found
        refine ⟨text.takeWhile Text.isBlank, after, ?_, fun c => List.mem_takeWhile_imp, ?_⟩
        · rw [← closing, List.append_assoc, List.cons_append, List.takeWhile_append_dropWhile,
            ← tail, List.takeWhile_append_dropWhile]
        · refine .name ((isCalleeStart_iff first).mp accepted.1) fun c part => ?_
          exact (isCalleePart_iff c).mp (List.mem_takeWhile_imp part)
      · cases found
  · rintro ⟨blanks, rest, rfl, blank, @⟨first, later, start, parts⟩⟩
    have starts := (isCalleeStart_iff first).mpr start
    have every : ∀ c ∈ later, isCalleePart c = true :=
      fun c part => (isCalleePart_iff c).mpr (parts c part)
    have tail : (blanks ++ first :: later ++ '(' :: rest).dropWhile Text.isBlank =
        first :: (later ++ '(' :: rest) := by
      rw [List.append_assoc, List.dropWhile_append_of_pos blank, List.cons_append,
        List.dropWhile_cons_of_neg (by simp [isBlank_of_isCalleeStart starts])]
    have stops : ('(' :: rest).takeWhile isCalleePart = [] := by
      rw [List.takeWhile_cons_of_neg (by simp [isCalleePart_parenthesis])]
    have left : ('(' :: rest).dropWhile isCalleePart = '(' :: rest := by
      rw [List.dropWhile_cons_of_neg (by simp [isCalleePart_parenthesis])]
    simp only [callee?, tail, List.takeWhile_append_of_pos every,
      List.dropWhile_append_of_pos every, stops, left, starts]
    simp

theorem BeginsWithCall.unique {text name other : List Char} (call : BeginsWithCall text name)
    (again : BeginsWithCall text other) : name = other := by
  rw [← callee?_eq_some_iff] at call again
  exact Option.some.inj (call.symm.trans again)

-- The parenthesis cannot be part of a name, so no name that begins there is longer.
theorem BeginsWithCall.longest {text name other : List Char} (call : BeginsWithCall text name)
    (callable : IsCallable other) (stands : other <+: text.dropWhile Text.isBlank) :
    other <+: name := by
  have found := (callee?_eq_some_iff text name).mpr call
  rw [callee?] at found
  split at found
  · cases found
  next first rest tail =>
    split at found
    next =>
      obtain rfl := Option.some.inj found
      rw [tail] at stands
      obtain ⟨start, parts⟩ := callable
      obtain ⟨rfl, later⟩ := List.cons_prefix_cons.mp stands
      refine List.cons_prefix_cons.mpr ⟨rfl, ?_⟩
      obtain ⟨more, rfl⟩ := later
      rw [List.takeWhile_append_of_pos fun c part => (isCalleePart_iff c).mpr (parts c part)]
      exact List.prefix_append _ _
    · cases found

inductive PatternPart where
  | one (accepts : Char → Bool)
  | many (accepts : Char → Bool)

-- What a part may take.
def PatternPart.Takes : PatternPart → List Char → Prop
  | .one accepts, taken => ∃ c, taken = [c] ∧ accepts c = true
  | .many accepts, taken => ∀ c ∈ taken, accepts c = true

/-- The ways to match a pattern at the beginning of a text, in the order of a search, each with what
the parts take. A part for any number of characters first takes all it can, then one fewer each
time. -/
def ways : List PatternPart → List Char → List (List (List Char))
  | [], _ => [[]]
  | .one _ :: _, [] => []
  | .one accepts :: later, c :: text =>
      if accepts c then (ways later text).map ([c] :: ·) else []
  | .many accepts :: later, text =>
      (text.takeWhile accepts).inits.reverse.flatMap fun taken =>
        (ways later (text.drop taken.length)).map (taken :: ·)

def callPattern : List PatternPart :=
  [.many Text.isBlank, .one isCalleeStart, .many isCalleePart, .one (· = '(')]

def matchedName (way : List (List Char)) : List Char :=
  ((way.drop 1).take 2).flatten

theorem mem_ways_iff (parts : List PatternPart) (text : List Char) (way : List (List Char)) :
    way ∈ ways parts text ↔ List.Forall₂ PatternPart.Takes parts way ∧ way.flatten <+: text := by
  fun_induction ways parts text generalizing way with
  | case1 text =>
    constructor
    · intro only
      simp [List.mem_singleton.mp only]
    · rintro ⟨fits, -⟩
      cases fits
      exact List.mem_singleton_self _
  | case2 accepts later =>
    constructor
    · intro none
      cases none
    · rintro ⟨fits, stands⟩
      obtain ⟨_, more, ⟨c, rfl, -⟩, -, rfl⟩ := List.forall₂_cons_left_iff.mp fits
      simp at stands
  | case3 accepts later c text accepted ih =>
    rw [List.mem_map]
    constructor
    · rintro ⟨more, found, rfl⟩
      obtain ⟨fits, stands⟩ := (ih more).mp found
      exact ⟨.cons ⟨c, rfl, accepted⟩ fits, List.cons_prefix_cons.mpr ⟨rfl, stands⟩⟩
    · rintro ⟨fits, stands⟩
      obtain ⟨_, more, ⟨d, rfl, -⟩, others, rfl⟩ := List.forall₂_cons_left_iff.mp fits
      obtain ⟨rfl, continues⟩ := List.cons_prefix_cons.mp stands
      exact ⟨more, (ih more).mpr ⟨others, continues⟩, rfl⟩
  | case4 accepts later c text refused =>
    constructor
    · intro none
      cases none
    · rintro ⟨fits, stands⟩
      obtain ⟨_, more, ⟨d, rfl, accepted⟩, -, rfl⟩ := List.forall₂_cons_left_iff.mp fits
      obtain ⟨rfl, -⟩ := List.cons_prefix_cons.mp stands
      exact absurd accepted refused
  | case5 accepts later text ih =>
    simp only [List.mem_flatMap, List.mem_reverse, List.mem_inits, List.mem_map]
    constructor
    · rintro ⟨taken, start, more, found, rfl⟩
      obtain ⟨fits, stands⟩ := (ih taken more).mp found
      have every : ∀ c ∈ taken, accepts c = true :=
        fun c part => List.mem_takeWhile_imp (start.subset part)
      obtain ⟨rest, rfl⟩ := start.trans (List.takeWhile_prefix accepts)
      rw [List.drop_left] at stands
      exact ⟨.cons every fits, (List.prefix_append_right_inj taken).mpr stands⟩
    · rintro ⟨fits, stands⟩
      obtain ⟨taken, more, every, others, rfl⟩ := List.forall₂_cons_left_iff.mp fits
      obtain ⟨rest, rfl⟩ := (List.prefix_append taken more.flatten).trans stands
      refine ⟨taken, ?_, more, (ih taken more).mpr ⟨others, ?_⟩, rfl⟩
      · rw [List.takeWhile_append_of_pos every]
        exact List.prefix_append _ _
      · rw [List.drop_left]
        exact (List.prefix_append_right_inj taken).mp stands

theorem mem_ways_callPattern_iff (text : List Char) (way : List (List Char)) :
    way ∈ ways callPattern text ↔
      ∃ blanks first later rest, way = [blanks, [first], later, ['(']] ∧
        text = blanks ++ first :: later ++ '(' :: rest ∧ (∀ c ∈ blanks, Text.isBlank c = true) ∧
        isCalleeStart first = true ∧ ∀ c ∈ later, isCalleePart c = true := by
  simp only [mem_ways_iff, callPattern, List.forall₂_cons_left_iff, List.forall₂_nil_left_iff,
    PatternPart.Takes]
  constructor
  · rintro ⟨⟨blanks, _, blank, ⟨_, _, ⟨first, rfl, start⟩, ⟨later, _, parts,
      ⟨_, _, ⟨closing, rfl, same⟩, rfl, rfl⟩, rfl⟩, rfl⟩, rfl⟩, rest, rfl⟩
    obtain rfl : closing = '(' := by simpa using same
    exact ⟨blanks, first, later, rest, rfl, by simp, blank, start, parts⟩
  · rintro ⟨blanks, first, later, rest, rfl, rfl, blank, start, parts⟩
    refine ⟨⟨blanks, _, blank, ⟨_, _, ⟨first, rfl, start⟩, ⟨later, _, parts,
      ⟨_, _, ⟨'(', rfl, by simp⟩, rfl, rfl⟩, rfl⟩, rfl⟩, rfl⟩, rest, by simp⟩

theorem beginsWithCall_iff_way (text name : List Char) :
    BeginsWithCall text name ↔ ∃ way ∈ ways callPattern text, matchedName way = name := by
  simp only [mem_ways_callPattern_iff]
  constructor
  · rintro ⟨blanks, rest, rfl, blank, @⟨first, later, start, parts⟩⟩
    refine ⟨_, ⟨blanks, first, later, rest, rfl, rfl, blank, ?_, fun c part => ?_⟩, by
      simp [matchedName]⟩
    · exact (isCalleeStart_iff first).mpr start
    · exact (isCalleePart_iff c).mpr (parts c part)
  · rintro ⟨_, ⟨blanks, first, later, rest, rfl, rfl, blank, start, parts⟩, rfl⟩
    refine ⟨blanks, rest, by simp [matchedName], blank, ?_⟩
    refine .name ((isCalleeStart_iff first).mp start) fun c part => ?_
    exact (isCalleePart_iff c).mp (parts c (by simpa [matchedName] using part))

theorem callee?_eq_first_way (text : List Char) :
    callee? text = (ways callPattern text).head?.map matchedName := by
  cases searched : ways callPattern text with
  | nil =>
    rw [List.head?_nil, Option.map_none, Option.eq_none_iff_forall_ne_some]
    intro name found
    obtain ⟨way, listed, -⟩ :=
      (beginsWithCall_iff_way text name).mp ((callee?_eq_some_iff text name).mp found)
    simp [searched] at listed
  | cons way others =>
    rw [List.head?_cons, Option.map_some, callee?_eq_some_iff, beginsWithCall_iff_way]
    exact ⟨way, by simp [searched], rfl⟩

theorem callee_of_leading_call (text : String) :
    (∀ name : String, calleeOfValue (.str text) = .ok (some name) ↔
      BeginsWithCall text.toList name.toList) ∧
    (calleeOfValue (.str text) = .ok none ↔ ¬∃ name, BeginsWithCall text.toList name) ∧
    (∀ name other, BeginsWithCall text.toList name → BeginsWithCall text.toList other →
      name = other) ∧
    (∀ name other, BeginsWithCall text.toList name → IsCallable other →
      other <+: text.toList.dropWhile Text.isBlank → other <+: name) ∧
    calleeOfValue (.str text) =
      .ok ((ways callPattern text.toList).head?.map
        fun way => String.ofList (matchedName way)) := by
  refine ⟨fun name => ?_, ?_, fun _ _ => BeginsWithCall.unique, fun _ _ => BeginsWithCall.longest,
    ?_⟩
  · rw [calleeOfValue, ← callee?_eq_some_iff, Except.ok.injEq, Option.map_eq_some_iff]
    constructor
    · rintro ⟨found, known, rfl⟩
      rw [known, String.toList_ofList]
    · intro known
      exact ⟨name.toList, known, String.ofList_toList⟩
  · rw [calleeOfValue, Except.ok.injEq, Option.map_eq_none_iff,
      Option.eq_none_iff_forall_ne_some]
    simp only [ne_eq, callee?_eq_some_iff, not_exists]
  · rw [calleeOfValue, callee?_eq_first_way, Option.map_map]
    rfl

end ControlFlow
