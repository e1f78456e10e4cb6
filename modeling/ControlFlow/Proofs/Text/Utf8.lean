import ControlFlow.Text.Utf8
import Mathlib.Data.Char
import Mathlib.Data.List.Basic
import Mathlib.Data.List.TakeWhile
import Mathlib.Tactic.SplitIfs

set_option autoImplicit false

namespace ControlFlow.Text

def octets (point : Nat) : List Nat :=
  if point ≤ 0x7f then [point]
  else if point ≤ 0x7ff then [192 + point / 64, 128 + point % 64]
  else if point ≤ 0xffff then [224 + point / 4096, 128 + point / 64 % 64, 128 + point % 64]
  else [240 + point / 262144, 128 + point / 4096 % 64, 128 + point / 64 % 64, 128 + point % 64]

theorem isValidChar_toNat (c : Char) : c.toNat.isValidChar := c.valid

theorem toNat_ofNat_of_valid {point : Nat} (valid : point.isValidChar) :
    (Char.ofNat point).toNat = point := by
  rw [Char.ofNat, dif_pos valid]
  rfl

theorem map_toNat_utf8EncodeChar (c : Char) :
    (String.utf8EncodeChar c).map UInt8.toNat = octets c.toNat := by
  have bound : c.toNat ≤ 0x10ffff := by
    have valid := isValidChar_toNat c
    rw [Nat.isValidChar] at valid
    omega
  have value : c.val.toNat = c.toNat := rfl
  simp only [String.utf8EncodeChar, value, octets]
  split_ifs <;>
    simp only [List.map_cons, List.map_nil, UInt8.toNat_ofNat', List.cons.injEq, and_true,
      Nat.reducePow] <;>
    omega

theorem octets_ne_nil (point : Nat) : octets point ≠ [] := by
  rw [octets]
  split_ifs <;> simp

theorem isContinuation_iff (byte : Nat) :
    isContinuation byte = true ↔ 0x80 ≤ byte ∧ byte ≤ 0xbf := by
  simp [isContinuation]

/-! One character -/

/-- What a lead byte and the bytes behind it spell. The bounds of the first byte behind the lead
keep out forms that are too long, surrogates, and points past the last. -/
inductive Spells (byte : Nat) : List Nat → Nat → Prop where
  | two {first : Nat} (lead : 0xc2 ≤ byte ∧ byte ≤ 0xdf) (next : 0x80 ≤ first ∧ first ≤ 0xbf) :
      Spells byte [first] (byte % 32 * 64 + first % 64)
  | three {first second : Nat} (lead : 0xe0 ≤ byte ∧ byte ≤ 0xef)
      (next : 0x80 ≤ first ∧ first ≤ 0xbf) (least : byte = 0xe0 → 0xa0 ≤ first)
      (greatest : byte = 0xed → first ≤ 0x9f) (last : 0x80 ≤ second ∧ second ≤ 0xbf) :
      Spells byte [first, second] ((byte % 16 * 64 + first % 64) * 64 + second % 64)
  | four {first second third : Nat} (lead : 0xf0 ≤ byte ∧ byte ≤ 0xf4)
      (next : 0x80 ≤ first ∧ first ≤ 0xbf) (least : byte = 0xf0 → 0x90 ≤ first)
      (greatest : byte = 0xf4 → first ≤ 0x8f) (middle : 0x80 ≤ second ∧ second ≤ 0xbf)
      (last : 0x80 ≤ third ∧ third ≤ 0xbf) :
      Spells byte [first, second, third]
        (((byte % 8 * 64 + first % 64) * 64 + second % 64) * 64 + third % 64)

section

variable {byte : Nat} {follow : List Nat} {point : Nat}

theorem Spells.isValidChar (spells : Spells byte follow point) : point.isValidChar := by
  rw [Nat.isValidChar]
  cases spells <;> omega

theorem Spells.octets_eq (spells : Spells byte follow point) : octets point = byte :: follow := by
  cases spells with
  | two lead next =>
    rw [octets, if_neg (by omega), if_pos (by omega)]
    simp only [List.cons.injEq, and_true]
    omega
  | three lead next least greatest last =>
    rw [octets, if_neg (by omega), if_neg (by omega), if_pos (by omega)]
    simp only [List.cons.injEq, and_true]
    omega
  | four lead next least greatest middle last =>
    rw [octets, if_neg (by omega), if_neg (by omega), if_neg (by omega)]
    simp only [List.cons.injEq, and_true]
    omega

theorem spells_of_octets (valid : point.isValidChar) (written : octets point = byte :: follow)
    (long : 0x80 ≤ byte) : Spells byte follow point := by
  rw [Nat.isValidChar] at valid
  rw [octets] at written
  split_ifs at written with one two three <;> cases written
  · omega
  · have spells : Spells (192 + point / 64) [128 + point % 64] _ := .two (by omega) (by omega)
    have same : (192 + point / 64) % 32 * 64 + (128 + point % 64) % 64 = point := by omega
    rwa [same] at spells
  · have spells : Spells (224 + point / 4096) [128 + point / 64 % 64, 128 + point % 64] _ :=
      .three (by omega) (by omega) (by omega) (by omega) (by omega)
    have same : ((224 + point / 4096) % 16 * 64 + (128 + point / 64 % 64) % 64) * 64 +
        (128 + point % 64) % 64 = point := by omega
    rwa [same] at spells
  · have spells : Spells (240 + point / 262144)
        [128 + point / 4096 % 64, 128 + point / 64 % 64, 128 + point % 64] _ :=
      .four (by omega) (by omega) (by omega) (by omega) (by omega) (by omega)
    have same : (((240 + point / 262144) % 8 * 64 + (128 + point / 4096 % 64) % 64) * 64 +
        (128 + point / 64 % 64) % 64) * 64 + (128 + point % 64) % 64 = point := by omega
    rwa [same] at spells

end

theorem lead?_eq_some_iff (byte : Nat) (lead : Lead) :
    lead? byte = some lead ↔
      (0xc2 ≤ byte ∧ byte ≤ 0xdf) ∧ lead = ⟨1, 0x80, 0xbf⟩ ∨
      (0xe0 ≤ byte ∧ byte ≤ 0xef) ∧ lead = ⟨2, if byte = 0xe0 then 0xa0 else 0x80,
        if byte = 0xed then 0x9f else 0xbf⟩ ∨
      (0xf0 ≤ byte ∧ byte ≤ 0xf4) ∧ lead = ⟨3, if byte = 0xf0 then 0x90 else 0x80,
        if byte = 0xf4 then 0x8f else 0xbf⟩ := by
  rw [lead?]
  grind

theorem continued_eq_follow_iff {lead : Lead} (some : 1 ≤ lead.follow) (rest : List Nat) :
    continued lead rest = lead.follow ↔
      ∃ first more tail, rest = first :: (more ++ tail) ∧ more.length + 1 = lead.follow ∧
        lead.least ≤ first ∧ first ≤ lead.greatest ∧ ∀ byte ∈ more, isContinuation byte = true := by
  rw [continued]
  constructor
  · intro complete
    split at complete
    · omega
    next first more taken =>
      split at complete
      next within =>
        rw [Bool.and_eq_true, decide_eq_true_eq, decide_eq_true_eq] at within
        have short : more.length + 1 ≤ lead.follow := by
          have size := congrArg List.length taken
          rw [List.length_take, List.length_cons] at size
          omega
        have all : (more.takeWhile isContinuation).length = more.length := by
          have part := (List.takeWhile_prefix isContinuation (l := more)).length_le
          omega
        have same := (List.takeWhile_prefix isContinuation (l := more)).eq_of_length all
        refine ⟨first, more, rest.drop lead.follow, ?_, by omega, within.1, within.2, ?_⟩
        · rw [← List.cons_append, ← taken, List.take_append_drop]
        · exact List.takeWhile_eq_self_iff.mp same
      · omega
  · rintro ⟨first, more, tail, rfl, size, least, greatest, continues⟩
    have taken : (first :: (more ++ tail)).take lead.follow = first :: more := by
      rw [← size, List.take_succ_cons, List.take_left]
    simp only [taken, least, greatest, decide_true, Bool.and_self, if_true,
      List.takeWhile_eq_self_iff.mpr continues]
    omega

theorem decodeLong_of_lead {byte : Nat} {lead : Lead} (found : lead? byte = some lead)
    (rest : List Nat) (position : Nat) (c : Char) (count : Nat) :
    decodeLong byte rest position = .ok (c, count) ↔
      continued lead rest = lead.follow ∧ count = lead.follow ∧
        c = Char.ofNat ((rest.take lead.follow).foldl (fun point b => point * 64 + b % 64)
          (leadBits lead byte)) := by
  simp only [decodeLong, found]
  split_ifs with whole cut
  · simp only [whole, Except.ok.injEq, Prod.mk.injEq, true_and]
    exact ⟨fun ⟨spelled, size⟩ => ⟨size.symm, spelled.symm⟩,
      fun ⟨size, spelled⟩ => ⟨spelled.symm, size.symm⟩⟩
  · simp [whole]
  · simp [whole]

theorem spells_of_decodeLong {byte : Nat} {rest : List Nat} {position : Nat} {c : Char}
    {count : Nat} (decoded : decodeLong byte rest position = .ok (c, count)) :
    ∃ follow tail point, rest = follow ++ tail ∧ count = follow.length ∧ c = Char.ofNat point ∧
      Spells byte follow point := by
  cases found : lead? byte with
  | none => simp [decodeLong, found] at decoded
  | some lead =>
    obtain ⟨whole, rfl, rfl⟩ := (decodeLong_of_lead found _ _ _ _).mp decoded
    have some : 1 ≤ lead.follow := by
      rcases (lead?_eq_some_iff byte lead).mp found with ⟨-, rfl⟩ | ⟨-, rfl⟩ | ⟨-, rfl⟩ <;> simp
    obtain ⟨first, more, tail, rfl, size, least, greatest, continues⟩ :=
      (continued_eq_follow_iff some rest).mp whole
    simp only [isContinuation_iff] at continues
    refine ⟨first :: more, tail, _, rfl, size.symm, rfl, ?_⟩
    rw [← size, List.take_succ_cons, List.take_left]
    rcases (lead?_eq_some_iff byte lead).mp found with ⟨range, rfl⟩ | ⟨range, rfl⟩ | ⟨range, rfl⟩
    · obtain rfl := List.length_eq_zero_iff.mp (Nat.succ.inj size)
      exact .two range ⟨least, greatest⟩
    · obtain ⟨second, rfl⟩ := List.length_eq_one_iff.mp (Nat.succ.inj size)
      have last := continues second (by simp)
      clear continues found whole decoded
      simp only at least greatest
      split_ifs at least greatest <;>
        exact .three range (by omega) (by omega) (by omega) last
    · obtain ⟨second, third, rfl⟩ := List.length_eq_two.mp (Nat.succ.inj size)
      have middle := continues second (by simp)
      have last := continues third (by simp)
      clear continues found whole decoded
      simp only at least greatest
      split_ifs at least greatest <;>
        exact .four range (by omega) (by omega) (by omega) middle last

theorem decodeLong_of_spells {byte point : Nat} {follow : List Nat}
    (spells : Spells byte follow point) (tail : List Nat) (position : Nat) :
    decodeLong byte (follow ++ tail) position = .ok (Char.ofNat point, follow.length) := by
  cases spells with
  | two lead next =>
    have found := (lead?_eq_some_iff byte _).mpr (.inl ⟨lead, rfl⟩)
    refine (decodeLong_of_lead found _ _ _ _).mpr ⟨?_, rfl, rfl⟩
    refine (continued_eq_follow_iff (by simp) _).mpr ⟨_, [], tail, rfl, rfl, next.1, next.2, ?_⟩
    simp
  | three lead next least greatest last =>
    have found := (lead?_eq_some_iff byte _).mpr (.inr (.inl ⟨lead, rfl⟩))
    refine (decodeLong_of_lead found _ _ _ _).mpr ⟨?_, rfl, rfl⟩
    refine (continued_eq_follow_iff (by simp) _).mpr ⟨_, [_], tail, rfl, rfl, ?_, ?_, ?_⟩
    · simp only
      split_ifs <;> omega
    · simp only
      split_ifs <;> omega
    · simpa [isContinuation_iff] using last
  | four lead next least greatest middle last =>
    have found := (lead?_eq_some_iff byte _).mpr (.inr (.inr ⟨lead, rfl⟩))
    refine (decodeLong_of_lead found _ _ _ _).mpr ⟨?_, rfl, rfl⟩
    refine (continued_eq_follow_iff (by simp) _).mpr ⟨_, [_, _], tail, rfl, rfl, ?_, ?_, ?_⟩
    · simp only
      split_ifs <;> omega
    · simp only
      split_ifs <;> omega
    · simpa [isContinuation_iff] using ⟨middle, last⟩

/-! Whole texts -/

def encoded (text : List Char) : List Nat :=
  text.flatMap fun c => octets c.toNat

theorem encoded_cons (c : Char) (text : List Char) :
    encoded (c :: text) = octets c.toNat ++ encoded text := rfl

theorem encoded_eq_nil_iff (text : List Char) : encoded text = [] ↔ text = [] := by
  cases text with
  | nil => simp [encoded]
  | cons c rest => simp [encoded_cons, octets_ne_nil]

theorem encoded_eq_map (text : List Char) :
    encoded text = (text.flatMap String.utf8EncodeChar).map UInt8.toNat := by
  simp only [encoded, List.map_flatMap, map_toNat_utf8EncodeChar]

-- Below 128 a byte is a character of its own; from there on it leads the bytes of a character.
theorem octets_of_short {byte : Nat} (short : byte < 0x80) :
    octets (Char.ofNat byte).toNat = [byte] := by
  rw [toNat_ofNat_of_valid (.inl (by omega)), octets, if_pos (by omega)]

theorem char_of_short {byte : Nat} {follow : List Nat} {c : Char} (short : byte < 0x80)
    (written : octets c.toNat = byte :: follow) : follow = [] ∧ c = Char.ofNat byte := by
  rw [octets] at written
  split_ifs at written <;> cases written
  · exact ⟨rfl, (Char.ofNat_toNat c).symm⟩
  all_goals omega

theorem encoded_cons_eq_iff {c : Char} {text : List Char} {byte : Nat} {rest : List Nat} :
    encoded (c :: text) = byte :: rest ↔
      ∃ follow, octets c.toNat = byte :: follow ∧ follow ++ encoded text = rest := by
  rw [encoded_cons]
  cases written : octets c.toNat with
  | nil => exact absurd written (octets_ne_nil _)
  | cons first follow => simp [and_assoc]

theorem decodeFrom_eq_ok_iff {fuel : Nat} {bytes : List Nat} (enough : bytes.length ≤ fuel)
    (position : Nat) (done text : List Char) :
    decodeFrom fuel position done bytes = .ok text ↔
      ∃ more, text = done.reverse ++ more ∧ encoded more = bytes := by
  induction fuel generalizing bytes position done with
  | zero =>
    obtain rfl := List.length_eq_zero_iff.mp (Nat.le_zero.mp enough)
    simp [decodeFrom, encoded_eq_nil_iff, @eq_comm _ text]
  | succ fuel ih =>
    cases bytes with
    | nil => simp [decodeFrom, encoded_eq_nil_iff, @eq_comm _ text]
    | cons byte rest =>
      rw [List.length_cons] at enough
      rw [decodeFrom]
      split
      next short =>
        rw [ih (by omega)]
        constructor
        · rintro ⟨more, rfl, rfl⟩
          refine ⟨Char.ofNat byte :: more, by simp, ?_⟩
          rw [encoded_cons, octets_of_short short]
          rfl
        · rintro ⟨more, rfl, written⟩
          cases more with
          | nil => cases written
          | cons c more =>
            obtain ⟨follow, first, rfl⟩ := encoded_cons_eq_iff.mp written
            obtain ⟨rfl, rfl⟩ := char_of_short short first
            exact ⟨more, by simp, rfl⟩
      next long =>
        constructor
        · intro decoded
          cases step : decodeLong byte rest position with
          | error error => simp [step] at decoded
          | ok result =>
            obtain ⟨c, count⟩ := result
            obtain ⟨follow, tail, point, rfl, rfl, rfl, spells⟩ := spells_of_decodeLong step
            simp only [step, List.drop_left] at decoded
            rw [List.length_append] at enough
            obtain ⟨more, rfl, rfl⟩ := (ih (by omega) _ _).mp decoded
            refine ⟨Char.ofNat point :: more, by simp, ?_⟩
            rw [encoded_cons, toNat_ofNat_of_valid spells.isValidChar, spells.octets_eq]
            rfl
        · rintro ⟨more, rfl, written⟩
          cases more with
          | nil => cases written
          | cons c more =>
            obtain ⟨follow, first, rfl⟩ := encoded_cons_eq_iff.mp written
            have spells := spells_of_octets (isValidChar_toNat c) first (by omega)
            rw [List.length_append] at enough
            simp only [decodeLong_of_spells spells, List.drop_left, Char.ofNat_toNat]
            exact (ih (by omega) _ _).mpr ⟨more, by simp, rfl⟩

theorem decodeUtf8_eq_ok_iff (bytes : List UInt8) (text : List Char) :
    decodeUtf8 (bytes.map UInt8.toNat) = .ok text ↔
      text.flatMap String.utf8EncodeChar = bytes := by
  rw [decodeUtf8, decodeFrom_eq_ok_iff le_rfl]
  simp only [List.reverse_nil, List.nil_append, exists_eq_left', encoded_eq_map]
  exact (List.map_injective_iff.mpr fun _ _ => UInt8.toNat_inj.mp).eq_iff

end ControlFlow.Text
