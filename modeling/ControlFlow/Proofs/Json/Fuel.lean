import ControlFlow.Proofs.Json.Reader

set_option autoImplicit false

namespace ControlFlow.Json

theorem readString_enough (opened : Nat) {size more : Nat} (le : size ≤ more) (done : List Char)
    (cursor : Cursor) (short : cursor.rest.length < size) :
    readString opened more done cursor = readString opened size done cursor := by
  fun_induction readString opened size done cursor generalizing more with
  | case1 => simp at short
  | case5 fuel done cursor digits here c count escape ih =>
    obtain ⟨more, rfl⟩ := Nat.exists_eq_add_of_le' (Nat.lt_of_lt_of_le (Nat.succ_pos _) le)
    have shorter : (cursor.advance (2 + count)).rest.length < fuel := by
      rw [Cursor.advance, List.length_drop]
      rw [here] at short ⊢
      simp only [List.length_cons] at short ⊢
      omega
    rw [readString]
    simp only [here, escape]
    exact ih (Nat.le_of_succ_le_succ le) shorter
  | case7 fuel done cursor c rest unlike here d escape ih =>
    obtain ⟨more, rfl⟩ := Nat.exists_eq_add_of_le' (Nat.lt_of_lt_of_le (Nat.succ_pos _) le)
    simp only [here, List.length_cons] at short
    rw [readString]
    simp only [here, escape]
    exact ih (Nat.le_of_succ_le_succ le) (by simp only; omega)
  | case10 fuel done cursor c rest closing escape simple here slash control ih =>
    obtain ⟨more, rfl⟩ := Nat.exists_eq_add_of_le' (Nat.lt_of_lt_of_le (Nat.succ_pos _) le)
    simp only [here, List.length_cons] at short
    rw [readString]
    simp only [here, if_neg slash, if_neg control]
    exact ih (Nat.le_of_succ_le_succ le) (by simp only; omega)
  | case2 | case3 | case4 | case6 | case8 | case9 =>
    obtain ⟨more, rfl⟩ := Nat.exists_eq_add_of_le' (Nat.lt_of_lt_of_le (Nat.succ_pos _) le)
    rw [readString]
    simp_all

theorem readString_behind_quote {size more : Nat} (le : size ≤ more) {cursor : Cursor}
    {rest : List Char} (here : cursor.rest = '"' :: rest) (short : cursor.rest.length < size) :
    readString cursor.index more [] ⟨rest, cursor.index + 1⟩ =
      readString cursor.index size [] ⟨rest, cursor.index + 1⟩ := by
  rw [here, List.length_cons] at short
  exact readString_enough cursor.index le [] ⟨rest, cursor.index + 1⟩ (Nat.lt_of_succ_lt short)

theorem length_skipBlank_le (cursor : Cursor) : cursor.skipBlank.rest.length ≤ cursor.rest.length :=
  (remains_skipBlank cursor).suffix.length_le

theorem length_behind_blank_lt {cursor : Cursor} {c : Char} {rest : List Char}
    (here : cursor.rest = c :: rest) :
    (cursor.advance 1).skipBlank.rest.length < cursor.rest.length := by
  refine (length_skipBlank_le _).trans_lt ?_
  simp [Cursor.advance, here]

section

variable {size : Nat} {readItem readMore : ValueReader}
  (shortens : ∀ cursor item after, readItem cursor = .ok (item, after) →
    after.rest.length < cursor.rest.length)
  (agree : ∀ cursor, cursor.rest.length < size → readMore cursor = readItem cursor)

include shortens agree

theorem readItems_enough {fuel more : Nat} (le : fuel ≤ more) (cursor : Cursor)
    (within : cursor.rest.length < size) (short : cursor.rest.length < fuel) (done : List Json) :
    readItems readMore more cursor done = readItems readItem fuel cursor done := by
  induction fuel generalizing more cursor done with
  | zero => simp at short
  | succ fuel ih =>
    obtain ⟨more, rfl⟩ := Nat.exists_eq_add_of_le' (Nat.lt_of_lt_of_le (Nat.succ_pos _) le)
    rw [readItems, readItems, agree cursor within]
    cases read : readItem cursor with
    | error failure => rfl
    | ok pair =>
      obtain ⟨item, after⟩ := pair
      have shorter := (length_skipBlank_le after).trans_lt (shortens _ _ _ read)
      simp only [bind, Except.bind]
      split
      · rfl
      next rest here =>
        have behind := length_behind_blank_lt here
        exact ih (Nat.le_of_succ_le_succ le) _ (by omega) (by omega) _
      · rfl

theorem readFields_enough {large : Nat} (enlarged : size ≤ large) {fuel more : Nat}
    (le : fuel ≤ more) (cursor : Cursor) (within : cursor.rest.length < size)
    (short : cursor.rest.length < fuel) (done : List (String × Json)) :
    readFields large readMore more cursor done = readFields size readItem fuel cursor done := by
  induction fuel generalizing more cursor done with
  | zero => simp at short
  | succ fuel ih =>
    obtain ⟨more, rfl⟩ := Nat.exists_eq_add_of_le' (Nat.lt_of_lt_of_le (Nat.succ_pos _) le)
    rw [readFields, readFields]
    split
    next rest here =>
      rw [readString_behind_quote enlarged here within]
      cases outcome : readString cursor.index size [] ⟨rest, cursor.index + 1⟩ with
      | error failure => rfl
      | ok pair =>
        obtain ⟨name, afterKey⟩ := pair
        have keyed : afterKey.rest.length < cursor.rest.length := by
          have remains := ((readString_grounded 0 _ _ _ _).value _ _ outcome).2.suffix.length_le
          simp only [here, List.length_cons]
          exact Nat.lt_succ_of_le remains
        have coloned := (length_skipBlank_le afterKey).trans_lt keyed
        simp only [bind, Except.bind]
        split
        next afterColon colon =>
          have valued := (length_behind_blank_lt colon).trans coloned
          rw [agree _ (by omega)]
          cases read : readItem (afterKey.skipBlank.advance 1).skipBlank with
          | error failure => rfl
          | ok pair =>
            obtain ⟨value, after⟩ := pair
            have shorter := (length_skipBlank_le after).trans_lt (shortens _ _ _ read)
            simp only
            split
            · rfl
            next rest here =>
              have behind := length_behind_blank_lt here
              exact ih (Nat.le_of_succ_le_succ le) _ (by omega) (by omega) _
            · rfl
        · rfl
    · rfl

end

theorem readValue_shortens (size room : Nat) (cursor : Cursor) (value : Json) (after : Cursor)
    (read : readValue size room cursor = .ok (value, after)) :
    after.rest.length < cursor.rest.length := by
  obtain ⟨taken, whole, some⟩ := ((readValue_grounded size room cursor).value value after read).2
  rw [← whole, List.length_append]
  omega

theorem readValue_enough {size more : Nat} (le : size ≤ more) (room : Nat) (cursor : Cursor)
    (short : cursor.rest.length < size) :
    readValue more room cursor = readValue size room cursor := by
  induction room generalizing cursor with
  | zero =>
    rw [readValue, readValue, readLevel, readLevel]
    split
    next rest here =>
      rw [readString_behind_quote le here short]
    · rfl
    · rfl
    · rfl
  | succ room ih =>
    rw [readValue, readValue, readLevel, readLevel]
    split
    next rest here =>
      rw [readString_behind_quote le here short]
    next rest here =>
      have start := length_skipBlank_le ⟨rest, cursor.index + 1⟩
      simp only [here, List.length_cons] at short start
      simp only [readList]
      rw [readItems_enough (readValue_shortens size room) ih le _ (by omega) (by omega)]
    next rest here =>
      have start := length_skipBlank_le ⟨rest, cursor.index + 1⟩
      simp only [here, List.length_cons] at short start
      simp only [readObject]
      rw [readFields_enough (readValue_shortens size room) ih le le _ (by omega) (by omega)]
    · rfl

end ControlFlow.Json
