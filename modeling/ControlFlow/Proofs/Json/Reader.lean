import ControlFlow.Proofs.Json.Legible
import Mathlib.Data.List.Infix
import Mathlib.Data.List.TakeWhile

set_option autoImplicit false

namespace ControlFlow.Json

theorem naturalOf_concat (digits : List Char) (last : Char) :
    naturalOf (digits ++ [last]) = naturalOf digits * 10 + (last.toNat - 48) := by
  simp [naturalOf]

theorem naturalOf_lt {digits : List Char} (each : ∀ c ∈ digits, isDigit c = true) :
    naturalOf digits < Nat.pow 10 digits.length := by
  induction digits using List.reverseRecOn with
  | nil => simp [naturalOf]
  | append_singleton digits last ih =>
    have before := ih fun c member => each c (List.mem_append_left [last] member)
    have digit : last.toNat - 48 ≤ 9 := by
      have bounds := each last (by simp)
      simp only [isDigit, Bool.and_eq_true, decide_eq_true_eq] at bounds
      have high : last.toNat ≤ 57 := bounds.2
      omega
    rw [naturalOf_concat, List.length_append, List.length_singleton, Nat.pow_eq, Nat.pow_succ]
    rw [Nat.pow_eq] at before
    omega

theorem naturalOf_lt_of_le {digits : List Char} {limit : Nat}
    (each : ∀ c ∈ digits, isDigit c = true) (few : digits.length ≤ limit) :
    naturalOf digits < Nat.pow 10 limit :=
  (naturalOf_lt each).trans_le (Nat.pow_le_pow_right (by decide) few)

/-! What a text is refused for -/

def HasDigits (text : List Char) (count : Nat) : Prop :=
  ∃ digits, digits <:+: text ∧ digits.length = count ∧ ∀ c ∈ digits, isDigit c = true

def isOpening (c : Char) : Bool :=
  c = '[' || c = '\x7b'

-- After at least `count` characters of a text the rest is left.
def Remains (count : Nat) (rest text : List Char) : Prop :=
  ∃ taken, taken ++ rest = text ∧ count ≤ taken.length

/-- Reading takes characters and gives good values. It refuses an integer for digits that are there,
and nesting only where more than `room` containers are opened. -/
structure Grounded {α : Type} (room : Nat) (good : α → Prop) (count : Nat) (text : List Char)
    (result : Reader (α × Cursor)) : Prop where
  value : ∀ value after, result = .ok (value, after) → good value ∧ Remains count after.rest text
  digits : ∀ digits index, result = .error (.tooManyDigits digits, index) →
    digitLimit < digits ∧ HasDigits text digits
  deep : ∀ container index, result = .error (.tooDeep container, index) →
    room < text.countP isOpening

theorem Remains.refl (text : List Char) : Remains 0 text text :=
  ⟨[], rfl, Nat.zero_le _⟩

theorem Remains.trans {first second : Nat} {rest middle text : List Char}
    (later : Remains second rest middle) (early : Remains first middle text) :
    Remains (first + second) rest text := by
  obtain ⟨here, rfl, few⟩ := early
  obtain ⟨there, rfl, more⟩ := later
  exact ⟨here ++ there, by simp, by simp; omega⟩

theorem Remains.mono {fewer more : Nat} {rest text : List Char} (remains : Remains more rest text)
    (le : fewer ≤ more) : Remains fewer rest text := by
  obtain ⟨taken, whole, enough⟩ := remains
  exact ⟨taken, whole, le.trans enough⟩

theorem Remains.suffix {count : Nat} {rest text : List Char} (remains : Remains count rest text) :
    rest <:+ text := by
  obtain ⟨taken, whole, -⟩ := remains
  exact ⟨taken, whole⟩

theorem remains_cons (c : Char) (rest : List Char) : Remains 1 rest (c :: rest) :=
  ⟨[c], rfl, le_rfl⟩

theorem remains_advance (cursor : Cursor) (count : Nat) :
    Remains 0 (cursor.advance count).rest cursor.rest :=
  ⟨cursor.rest.take count, List.take_append_drop _ _, Nat.zero_le _⟩

theorem remains_skipBlank (cursor : Cursor) : Remains 0 cursor.skipBlank.rest cursor.rest :=
  remains_advance cursor _

-- What stands first is passed over, whatever it is.
theorem remains_behind {cursor : Cursor} {c : Char} {rest : List Char}
    (here : cursor.rest = c :: rest) : Remains 1 (cursor.advance 1).rest cursor.rest := by
  rw [Cursor.advance, here]
  exact remains_cons c rest

theorem remains_behind_blank {cursor : Cursor} {c : Char} {rest : List Char}
    (here : cursor.rest = c :: rest) : Remains 1 (cursor.advance 1).skipBlank.rest cursor.rest :=
  (remains_skipBlank _).trans (remains_behind here)

section

variable {α β : Type} {room count : Nat} {good : α → Prop} {text : List Char}

theorem grounded_ok {value : α} {after : Cursor} (holds : good value)
    (remains : Remains count after.rest text) :
    Grounded room good count text (.ok (value, after)) where
  value := by
    rintro _ _ ⟨⟩
    exact ⟨holds, remains⟩
  digits := by
    rintro _ _ ⟨⟩
  deep := by
    rintro _ _ ⟨⟩

theorem grounded_error {fault : Fault} (syntactic : fault.isSyntactic = true) (index : Nat) :
    Grounded room good count text (.error (fault, index)) where
  value := by
    rintro _ _ ⟨⟩
  digits := by
    rintro _ _ ⟨⟩
    cases syntactic
  deep := by
    rintro _ _ ⟨⟩
    cases syntactic

theorem Grounded.of_remains {early late : Nat} {rest : List Char} {result : Reader (α × Cursor)}
    (grounded : Grounded room good late rest result) (remains : Remains early rest text) :
    Grounded room good (early + late) text result where
  value value after read := by
    obtain ⟨holds, behind⟩ := grounded.value value after read
    exact ⟨holds, behind.trans remains⟩
  digits size index refused := by
    obtain ⟨many, digits, stand, length, each⟩ := grounded.digits size index refused
    exact ⟨many, digits, stand.trans remains.suffix.isInfix, length, each⟩
  deep container index refused :=
    (grounded.deep container index refused).trans_le (remains.suffix.sublist.countP_le)

theorem Grounded.mono {fewer : Nat} {result : Reader (α × Cursor)}
    (grounded : Grounded room good count text result) (le : fewer ≤ count) :
    Grounded room good fewer text result where
  value value after read := (grounded.value value after read).imp_right fun rest => rest.mono le
  digits := grounded.digits
  deep := grounded.deep

theorem Grounded.bind {fine : β → Prop} {first : Reader (α × Cursor)}
    {next : α × Cursor → Reader (β × Cursor)} (early : Grounded room good count text first)
    (continued : ∀ value after, good value →
      Grounded room fine 0 after.rest (next (value, after))) :
    Grounded room fine count text (first >>= next) := by
  cases read : first with
  | error refused =>
    refine ⟨?_, ?_, ?_⟩
    · rintro _ _ ⟨⟩
    · rintro digits index ⟨⟩
      exact early.digits digits index read
    · rintro container index ⟨⟩
      exact early.deep container index read
  | ok pair =>
    obtain ⟨value, after⟩ := pair
    obtain ⟨holds, remains⟩ := early.value value after read
    exact (continued value after holds).of_remains remains

-- One container more is opened than inside it.
theorem Grounded.nested {opening : Char} {rest : List Char} {result : Reader (α × Cursor)}
    (opens : isOpening opening = true) (inner : Grounded room good count rest result) :
    Grounded (room + 1) good count (opening :: rest) result where
  value := ((inner.of_remains (remains_cons opening rest)).mono (Nat.le_add_left _ _)).value
  digits := (inner.of_remains (remains_cons opening rest)).digits
  deep container index refused := by
    rw [List.countP_cons_of_pos opens]
    exact Nat.succ_lt_succ (inner.deep container index refused)

theorem grounded_tooDeep {opening : Char} {rest : List Char} (opens : isOpening opening = true)
    (container : Kind) (index : Nat) :
    Grounded 0 good count (opening :: rest) (.error (.tooDeep container, index)) where
  value := by
    rintro _ _ ⟨⟩
  digits := by
    rintro _ _ ⟨⟩
  deep := by
    rintro _ _ ⟨⟩
    simp [List.countP_cons_of_pos opens]

end

theorem unicodeEscape_fault {digits : List Char} {index : Nat} {refused : Fault × Nat}
    (failed : unicodeEscape digits index = .error refused) :
    refused.1 = .invalidUnicodeEscape := by
  rw [unicodeEscape] at failed
  split at failed
  · split at failed
    · split at failed
      · cases failed
      · split at failed
        · cases failed
          rfl
        · split at failed <;> cases failed
    · cases failed
  · cases failed
    rfl

theorem readString_grounded (room opened fuel : Nat) (done : List Char) (cursor : Cursor) :
    Grounded room (fun _ => True) 1 cursor.rest (readString opened fuel done cursor) := by
  induction fuel generalizing done cursor with
  | zero => exact grounded_error rfl opened
  | succ fuel ih =>
    rw [readString]
    split
    · exact grounded_error rfl opened
    next rest here =>
      rw [here]
      exact grounded_ok trivial (remains_cons '"' rest)
    next digits here =>
      split
      next refused failed =>
        obtain ⟨fault, index⟩ := refused
        obtain rfl : fault = .invalidUnicodeEscape := unicodeEscape_fault failed
        exact grounded_error rfl index
      next c count escape =>
        exact ((ih _ _).of_remains (remains_advance cursor _)).mono (by omega)
    next c rest unlike here =>
      rw [here]
      split
      · exact grounded_error rfl cursor.index
      next escape =>
        exact ((ih _ _).of_remains ((remains_cons c rest).trans (remains_cons '\\' _))).mono
          (by omega)
    next c rest closing escape simple here =>
      rw [here]
      split
      · exact grounded_error rfl opened
      · split
        · exact grounded_error rfl cursor.index
        · exact ((ih _ _).of_remains (remains_cons c rest)).mono (by omega)

/-! Numbers -/

-- A sign, if there is one, and digits.
theorem readNumber_int {text : List Char} {n : Int} {size : Nat}
    (read : readNumber text = some (.int n, size)) :
    ∃ sign digits rest, text = sign ++ digits ++ rest ∧ size = (sign ++ digits).length ∧
      (∀ c ∈ sign, isDigit c = false) ∧ (∀ c ∈ digits, isDigit c = true) ∧
      n.natAbs = naturalOf digits := by
  unfold readNumber at read
  extract_lets negative signSize whole afterWhole fraction fractionSize exponent total at read
  have signed : text = text.take signSize ++ text.drop signSize ∧
      (text.take signSize).length = signSize ∧ ∀ c ∈ text.take signSize, isDigit c = false := by
    refine ⟨(List.take_append_drop _ _).symm, ?_⟩
    by_cases minus : negative
    · obtain ⟨rest, rfl⟩ := List.head?_eq_some_iff.mp minus
      simp [signSize, minus, isDigit]
    · simp [signSize, minus]
  obtain ⟨split, signLength, signed⟩ := signed
  have digits : whole <+: text.drop signSize ∧ ∀ c ∈ whole, isDigit c = true := by
    simp only [whole]
    split
    next tail here =>
      rw [here]
      exact ⟨by simp, by simp [isDigit]⟩
    next =>
      exact ⟨List.takeWhile_prefix _, fun c member => List.mem_takeWhile_imp member⟩
  obtain ⟨⟨rest, start⟩, each⟩ := digits
  have unbroken : fraction = [] → total = signSize + whole.length := by
    intro none
    simp only [total, fractionSize, none, List.isEmpty_nil, if_true, Nat.add_zero]
  clear_value total exponent fractionSize fraction
  split at read
  · cases read
  · split at read
    next =>
      cases read
      refine ⟨text.take signSize, whole, rest, ?_, ?_, signed, each, ?_⟩
      · rw [List.append_assoc, start, List.take_append_drop]
      · rw [List.length_append, signLength, unbroken rfl]
      · split
        · exact Int.natAbs_neg _
        · rfl
    · cases read
    · cases read

theorem readLiteral_ne_int {text : List Char} {n : Int} {size : Nat} :
    readLiteral text ≠ some (.int n, size) := by
  rw [readLiteral]
  intro read
  obtain ⟨literal, found, same⟩ := Option.map_eq_some_iff.mp read
  have listed := List.mem_of_find?_eq_some found
  simp only [literals, List.mem_cons, List.not_mem_nil, or_false] at listed
  rcases listed with rfl | rfl | rfl | rfl | rfl | rfl <;> cases same

-- A number is an integer or a double, and it takes up a character at least.
theorem readNumber_shape {text : List Char} {value : Json} {size : Nat}
    (read : readNumber text = some (value, size)) :
    (0 < size ∧ text ≠ []) ∧ ((∃ n, value = .int n) ∨ ∃ x, value = .float x) := by
  have nonempty : text ≠ [] := by
    rintro rfl
    cases read
  unfold readNumber at read
  extract_lets negative signSize whole afterWhole fraction fractionSize exponent total at read
  split at read
  · cases read
  next some =>
    have digits : 0 < whole.length := List.length_pos_iff.mpr (by simpa using some)
    have positive : 0 < total := by
      simp only [total]
      omega
    clear_value total exponent fractionSize fraction
    split at read <;> cases read
    · exact ⟨⟨positive, nonempty⟩, .inl ⟨_, rfl⟩⟩
    · exact ⟨⟨positive, nonempty⟩, .inr ⟨_, rfl⟩⟩
    · exact ⟨⟨by omega, nonempty⟩, .inr ⟨_, rfl⟩⟩

theorem readLiteral_shape {text : List Char} {value : Json} {size : Nat}
    (read : readLiteral text = some (value, size)) :
    (0 < size ∧ text ≠ []) ∧ value.isLegible = true := by
  have nonempty : text ≠ [] := by
    rintro rfl
    cases read
  rw [readLiteral] at read
  obtain ⟨literal, found, same⟩ := Option.map_eq_some_iff.mp read
  have listed := List.mem_of_find?_eq_some found
  simp only [literals, List.mem_cons, List.not_mem_nil, or_false] at listed
  rcases listed with rfl | rfl | rfl | rfl | rfl | rfl <;> cases same <;>
    exact ⟨⟨by decide, nonempty⟩, by simp [isLegible]⟩

theorem remains_size {cursor : Cursor} {size : Nat} (shape : 0 < size ∧ cursor.rest ≠ []) :
    Remains 1 (cursor.advance size).rest cursor.rest := by
  refine ⟨cursor.rest.take size, List.take_append_drop _ _, ?_⟩
  have some := List.length_pos_iff.mpr shape.2
  rw [List.length_take]
  omega

theorem readScalar_grounded (room : Nat) (cursor : Cursor) :
    Grounded room (·.isLegible = true) 1 cursor.rest (readScalar cursor) := by
  rw [readScalar]
  split
  next n size found =>
    have read : readNumber cursor.rest = some (.int n, size) := by
      rcases Option.or_eq_some_iff.mp found with literal | ⟨-, number⟩
      · exact absurd literal readLiteral_ne_int
      · exact number
    obtain ⟨sign, digits, rest, here, length, signed, each, same⟩ := readNumber_int read
    have counted : (cursor.rest.take size).filter isDigit = digits := by
      rw [here, length, List.take_left, List.filter_append, List.filter_eq_self.mpr each,
        List.filter_eq_nil_iff.mpr (by simpa using signed), List.nil_append]
    simp only [counted]
    split
    next many =>
      refine ⟨?_, ?_, ?_⟩
      · rintro _ _ ⟨⟩
      · rintro _ _ ⟨⟩
        exact ⟨many, digits, ⟨sign, rest, here.symm⟩, rfl, each⟩
      · rintro _ _ ⟨⟩
    next few =>
      refine grounded_ok ?_ (remains_size (readNumber_shape read).1)
      rw [isLegible, same]
      exact decide_eq_true (naturalOf_lt_of_le each (Nat.le_of_not_lt few))
  next value size unlike found =>
    rcases Option.or_eq_some_iff.mp found with literal | ⟨-, number⟩
    · obtain ⟨size, legible⟩ := readLiteral_shape literal
      exact grounded_ok legible (remains_size size)
    · obtain ⟨size, ⟨n, rfl⟩ | ⟨x, rfl⟩⟩ := readNumber_shape number
      · exact (unlike n rfl).elim
      · exact grounded_ok (by rw [isLegible] <;> simp) (remains_size size)
  next => exact grounded_error rfl cursor.index

/-! Values -/

section

variable {room : Nat} {readItem : ValueReader}
  (inner : ∀ cursor, Grounded room (·.isLegible = true) 1 cursor.rest (readItem cursor))

include inner

theorem readItems_grounded (fuel : Nat) (cursor : Cursor) {done : List Json}
    (legible : LegibleItems done) :
    Grounded room LegibleItems 1 cursor.rest (readItems readItem fuel cursor done) := by
  induction fuel generalizing cursor done with
  | zero => exact grounded_error rfl _
  | succ fuel ih =>
    rw [readItems]
    refine (inner cursor).bind fun item after given => ?_
    have more : LegibleItems (item :: done) := by
      rintro other (_ | ⟨_, member⟩)
      · exact given
      · exact legible other member
    simp only
    split
    next rest here =>
      refine grounded_ok ?_ (((remains_behind here).trans (remains_skipBlank after)).mono
        (Nat.zero_le _))
      exact fun other member => more other (List.mem_reverse.mp member)
    next rest here =>
      exact ((ih _ more).of_remains
        ((remains_behind_blank here).trans (remains_skipBlank after))).mono (Nat.zero_le _)
    · exact grounded_error rfl _

theorem readFields_grounded (size fuel : Nat) (cursor : Cursor) {done : List (String × Json)}
    (legible : LegibleFields done) :
    Grounded room LegibleFields 1 cursor.rest (readFields size readItem fuel cursor done) := by
  induction fuel generalizing cursor done with
  | zero => exact grounded_error rfl _
  | succ fuel ih =>
    rw [readFields]
    split
    next rest here =>
      rw [here]
      refine Grounded.bind (((readString_grounded room _ _ _ _).of_remains
        (remains_cons '"' rest)).mono (by omega)) fun key afterKey _ => ?_
      simp only
      split
      next afterColon colon =>
        refine Grounded.bind (((inner _).of_remains ((remains_behind_blank colon).trans
          (remains_skipBlank afterKey))).mono (Nat.zero_le _)) fun value after given => ?_
        have more : LegibleFields (put done key value) := put_legible legible key given
        simp only
        split
        next rest here =>
          exact grounded_ok more
            (((remains_behind here).trans (remains_skipBlank after)).mono (Nat.zero_le _))
        next rest here =>
          exact ((ih _ more).of_remains
            ((remains_behind_blank here).trans (remains_skipBlank after))).mono (Nat.zero_le _)
        · exact grounded_error rfl _
      · exact grounded_error rfl _
    next => exact grounded_error rfl _

theorem readList_grounded (size : Nat) (start : Cursor) :
    Grounded room (·.isLegible = true) 1 start.rest (readList size readItem start) := by
  rw [readList]
  split
  next rest here => exact grounded_ok (by simp [isLegible, areLegible]) (remains_behind here)
  · refine (readItems_grounded inner size start (show LegibleItems [] by simp [LegibleItems])).bind
      fun items after legible => ?_
    refine grounded_ok ?_ (Remains.refl _)
    rw [isLegible]
    exact (areLegible_iff items).mpr legible

theorem readObject_grounded (size : Nat) (start : Cursor) :
    Grounded room (·.isLegible = true) 1 start.rest (readObject size readItem start) := by
  rw [readObject]
  split
  next rest here => exact grounded_ok (by simp [isLegible, areFieldsLegible]) (remains_behind here)
  · refine (readFields_grounded inner size size start
      (show LegibleFields [] by simp [LegibleFields])).bind fun fields after legible => ?_
    refine grounded_ok ?_ (Remains.refl _)
    rw [isLegible]
    exact (areFieldsLegible_iff fields).mpr legible

end

section

variable {room : Nat} {inner : Option ValueReader}

-- One container more may be entered than by the reader inside.
theorem readLevel_grounded (size : Nat)
    (nested : ∀ readItem, inner = some readItem → ∃ less, room = less + 1 ∧
      ∀ cursor, Grounded less (·.isLegible = true) 1 cursor.rest (readItem cursor))
    (last : inner = none → room = 0) (cursor : Cursor) :
    Grounded room (·.isLegible = true) 1 cursor.rest (readLevel size inner cursor) := by
  rw [readLevel]
  split
  next rest here =>
    rw [here]
    refine Grounded.bind (((readString_grounded room _ _ _ _).of_remains
      (remains_cons '"' rest)).mono (by omega)) fun text after _ => ?_
    exact grounded_ok (by simp [isLegible]) (Remains.refl _)
  next rest here =>
    rw [here]
    split
    · rw [last rfl]
      exact grounded_tooDeep rfl .arr _
    next readItem =>
      obtain ⟨less, rfl, grounded⟩ := nested readItem rfl
      have inside := (readList_grounded grounded size (Cursor.skipBlank ⟨rest, cursor.index + 1⟩)
        ).of_remains (remains_skipBlank _)
      exact inside.nested rfl
  next rest here =>
    rw [here]
    split
    · rw [last rfl]
      exact grounded_tooDeep rfl .obj _
    next readItem =>
      obtain ⟨less, rfl, grounded⟩ := nested readItem rfl
      have inside := (readObject_grounded grounded size (Cursor.skipBlank ⟨rest, cursor.index + 1⟩)
        ).of_remains (remains_skipBlank _)
      exact inside.nested rfl
  next => exact readScalar_grounded room cursor

end

theorem readValue_grounded (size room : Nat) (cursor : Cursor) :
    Grounded room (·.isLegible = true) 1 cursor.rest (readValue size room cursor) := by
  induction room generalizing cursor with
  | zero => exact readLevel_grounded size (by rintro _ ⟨⟩) (fun _ => rfl) cursor
  | succ room ih =>
    refine readLevel_grounded size ?_ (by rintro ⟨⟩) cursor
    rintro _ ⟨⟩
    exact ⟨room, rfl, ih⟩

theorem readDocument_ok {room : Nat} {text : List Char} {value : Json}
    (read : readDocument room text = .ok value) :
    ∃ after, readValue (text.length + 1) room (Cursor.skipBlank ⟨text, 0⟩) =
      .ok (value, after) := by
  rw [readDocument] at read
  split at read
  · cases read
  · cases outcome : readValue (text.length + 1) room (Cursor.skipBlank ⟨text, 0⟩) with
    | error refused =>
      rw [outcome] at read
      cases read
    | ok pair =>
      simp only [outcome, bind, Except.bind] at read
      split at read <;> cases read
      exact ⟨pair.2, rfl⟩

theorem readDocument_error {room : Nat} {text : List Char} {fault : Fault} {index : Nat}
    (failed : readDocument room text = .error (fault, index)) :
    fault.isSyntactic = true ∨
      readValue (text.length + 1) room (Cursor.skipBlank ⟨text, 0⟩) = .error (fault, index) := by
  rw [readDocument] at failed
  split at failed
  · cases failed
    exact .inl rfl
  · cases outcome : readValue (text.length + 1) room (Cursor.skipBlank ⟨text, 0⟩) with
    | error refused =>
      rw [outcome] at failed
      cases failed
      exact .inr rfl
    | ok pair =>
      simp only [outcome, bind, Except.bind] at failed
      split at failed <;> cases failed
      exact .inl rfl

theorem read_error {room : Nat} {text : List Char} {error : ReadError}
    (refused : read room text = .error error) (limited : error.fault.isSyntactic = false) :
    ∃ index, readValue (text.length + 1) room (Cursor.skipBlank ⟨text, 0⟩) =
      .error (error.fault, index) := by
  rw [read] at refused
  split at refused
  · cases refused
  next fault index failed =>
    cases refused
    rcases readDocument_error failed with syntactic | inside
    · cases syntactic.symm.trans limited
    · exact ⟨index, inside⟩

theorem document_grounded (room : Nat) (text : List Char) :
    Grounded room (·.isLegible = true) 1 text
      (readValue (text.length + 1) room (Cursor.skipBlank ⟨text, 0⟩)) :=
  ((readValue_grounded _ room _).of_remains (remains_skipBlank ⟨text, 0⟩)).mono (by omega)

theorem read_legible {room : Nat} {text : List Char} {value : Json}
    (known : read room text = .ok value) : value.isLegible = true := by
  rw [read] at known
  split at known <;> cases known
  next outcome =>
    obtain ⟨after, inside⟩ := readDocument_ok outcome
    exact ((document_grounded room text).value value after inside).1

theorem read_digits {room : Nat} {text : List Char} {error : ReadError} {count : Nat}
    (refused : read room text = .error error) (many : error.fault = .tooManyDigits count) :
    digitLimit < count ∧ HasDigits text count := by
  obtain ⟨index, inside⟩ := read_error refused (by rw [many]; rfl)
  rw [many] at inside
  exact (document_grounded room text).digits count index inside

theorem read_deep {room : Nat} {text : List Char} {error : ReadError} {container : Kind}
    (refused : read room text = .error error) (deep : error.fault = .tooDeep container) :
    room < text.countP isOpening := by
  obtain ⟨index, inside⟩ := read_error refused (by rw [deep]; rfl)
  rw [deep] at inside
  exact (document_grounded room text).deep container index inside

/-! Brackets on their own -/

theorem readValue_of_brackets (size room index : Nat) (rest : List Char) :
    readValue (size + 1) room ⟨List.replicate (room + 1) '[' ++ rest, index⟩ =
      .error (.tooDeep .arr, index + room) := by
  induction room generalizing index with
  | zero => rfl
  | succ room ih =>
    have inside := ih (index + 1)
    have unspaced : Cursor.skipBlank ⟨List.replicate (room + 1) '[' ++ rest, index + 1⟩ =
        ⟨List.replicate (room + 1) '[' ++ rest, index + 1⟩ := by
      simp [Cursor.skipBlank, Cursor.advance, List.replicate_succ, isJsonBlank]
    rw [List.replicate_succ, List.cons_append, readValue, readLevel]
    simp only [readList, unspaced, readItems, inside]
    simp only [List.replicate_succ, List.cons_append]
    simp [bind, Except.bind]
    omega

theorem read_of_brackets (room : Nat) (rest : List Char) :
    ∃ error, read room (List.replicate (room + 1) '[' ++ rest) = .error error ∧
      error.fault = .tooDeep .arr := by
  refine ⟨locate (List.replicate (room + 1) '[' ++ rest) (.tooDeep .arr) room, ?_, rfl⟩
  have unspaced : Cursor.skipBlank ⟨List.replicate (room + 1) '[' ++ rest, 0⟩ =
      ⟨List.replicate (room + 1) '[' ++ rest, 0⟩ := by
    simp [Cursor.skipBlank, Cursor.advance, List.replicate_succ, isJsonBlank]
  rw [read, readDocument, if_neg (by simp [List.replicate_succ]), unspaced, readValue_of_brackets]
  simp [bind, Except.bind]

/-! An integer on its own -/

section

variable {first : Char} {digits : List Char} (start : isDigit first = true)

include start

theorem ne_of_isDigit {c : Char} (other : isDigit c = false) : first ≠ c := by
  rintro rfl
  simp [start] at other

theorem readLiteral_of_isDigit (rest : List Char) : readLiteral (first :: rest) = none := by
  have begins : ∀ literal ∈ literals, ∃ c tail, literal.1.toList = c :: tail ∧
      isDigit c = false := by
    simp [literals, isDigit]
  have unlike : ∀ literal ∈ literals, ¬literal.1.toList.isPrefixOf (first :: rest) = true := by
    intro literal listed
    obtain ⟨c, tail, spelt, other⟩ := begins literal listed
    simp [spelt, List.cons_prefix_cons, Ne.symm (ne_of_isDigit start other)]
  rw [readLiteral, List.find?_eq_none.mpr unlike, Option.map_none]

theorem readNumber_of_digits (nonzero : first ≠ '0') (each : ∀ c ∈ digits, isDigit c = true) :
    readNumber (first :: digits) =
      some (.int (naturalOf (first :: digits)), digits.length + 1) := by
  have unsigned : first ≠ '-' := ne_of_isDigit start rfl
  have whole : (first :: digits).takeWhile isDigit = first :: digits :=
    List.takeWhile_eq_self_iff.mpr (by simpa [start] using each)
  simp [readNumber, unsigned, nonzero, whole]

theorem readScalar_of_digits (nonzero : first ≠ '0') (each : ∀ c ∈ digits, isDigit c = true)
    (long : digitLimit ≤ digits.length) (index : Nat) :
    readScalar ⟨first :: digits, index⟩ = .error (.tooManyDigits (digits.length + 1), index) := by
  have counted : (first :: digits).filter isDigit = first :: digits :=
    List.filter_eq_self.mpr (by simpa [start] using each)
  simp only [readScalar, readLiteral_of_isDigit start, Option.none_or,
    readNumber_of_digits start nonzero each]
  rw [List.take_of_length_le (by simp), counted, List.length_cons, if_pos (by omega)]

theorem readValue_of_isDigit (size room index : Nat) :
    readValue size room ⟨first :: digits, index⟩ = readScalar ⟨first :: digits, index⟩ := by
  cases room <;>
  · rw [readValue, readLevel]
    simp only
    split <;> simp_all [isDigit]

theorem read_of_digits (nonzero : first ≠ '0') (each : ∀ c ∈ digits, isDigit c = true)
    (long : digitLimit ≤ digits.length) (room : Nat) :
    ∃ error, read room (first :: digits) = .error error ∧
      error.fault = .tooManyDigits (digits.length + 1) := by
  have unmarked : (first :: digits).head? ≠ some '\ufeff' := by
    simpa using ne_of_isDigit start rfl
  have unspaced : Cursor.skipBlank ⟨first :: digits, 0⟩ = ⟨first :: digits, 0⟩ := by
    have solid : isJsonBlank first = false := by
      simp only [isJsonBlank, Bool.or_eq_false_iff, decide_eq_false_iff_not]
      exact ⟨⟨⟨ne_of_isDigit start rfl, ne_of_isDigit start rfl⟩, ne_of_isDigit start rfl⟩,
        ne_of_isDigit start rfl⟩
    simp [Cursor.skipBlank, Cursor.advance, solid]
  refine ⟨locate (first :: digits) (.tooManyDigits (digits.length + 1)) 0, ?_, rfl⟩
  rw [read, readDocument, if_neg unmarked, unspaced, readValue_of_isDigit start,
    readScalar_of_digits start nonzero each long]
  rfl

end

end ControlFlow.Json
