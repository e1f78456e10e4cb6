import ControlFlow.Graph.Thread
import Mathlib.Data.List.DropRight
import Mathlib.Data.List.Nodup

set_option autoImplicit false

namespace ControlFlow

def textNumber (text : String) : Nat :=
  Nat.ofDigitChars 10 (text.toList.rtakeWhile Char.isDigit) 0

def textStem (text : String) : String :=
  String.ofList (text.toList.rdropWhile Char.isDigit)

def addToNumber (amount : Nat) (text : String) : String :=
  textStem text ++ toString (textNumber text + amount)

-- Read from the back: the digits of the number, then a mark that is no digit.
theorem reverse_numbered (lead : String) (number : Nat) :
    (lead ++ "_" ++ toString number).toList.reverse =
      (Nat.toDigits 10 number).reverse ++ '_' :: lead.toList.reverse := by
  simp [String.toList_append]

theorem isDigit_of_mem_reverse (number : Nat) :
    ∀ c ∈ (Nat.toDigits 10 number).reverse, c.isDigit = true := by
  intro c member
  exact Nat.isDigit_of_mem_toDigits (by decide) (by decide) (List.mem_reverse.mp member)

theorem textNumber_numbered (lead : String) (number : Nat) :
    textNumber (lead ++ "_" ++ toString number) = number := by
  have digits : (lead ++ "_" ++ toString number).toList.rtakeWhile Char.isDigit =
      Nat.toDigits 10 number := by
    rw [List.rtakeWhile, reverse_numbered,
      List.takeWhile_append_of_pos (isDigit_of_mem_reverse number),
      List.takeWhile_cons_of_neg (by decide), List.append_nil, List.reverse_reverse]
  rw [textNumber, digits, Nat.ofDigitChars_ten_toDigits]

theorem textStem_numbered (lead : String) (number : Nat) :
    textStem (lead ++ "_" ++ toString number) = lead ++ "_" := by
  have stem : (lead ++ "_" ++ toString number).toList.rdropWhile Char.isDigit =
      (lead ++ "_").toList := by
    rw [List.rdropWhile, reverse_numbered,
      List.dropWhile_append_of_pos (isDigit_of_mem_reverse number),
      List.dropWhile_cons_of_neg (by decide)]
    simp [String.toList_append]
  rw [textStem, stem, String.ofList_toList]

theorem addToNumber_numbered (amount : Nat) (lead : String) (number : Nat) :
    addToNumber amount (lead ++ "_" ++ toString number) =
      lead ++ "_" ++ toString (number + amount) := by
  rw [addToNumber, textStem_numbered, textNumber_numbered]

@[simp] theorem textNumber_nodeId (index : Nat) : textNumber (nodeId index) = index :=
  textNumber_numbered "node" index

theorem nodeId_injective : Function.Injective nodeId :=
  Function.LeftInverse.injective textNumber_nodeId

theorem nodeId_ne_edgeId (node edge : Nat) : nodeId node ≠ edgeId edge := by
  intro same
  have stems := congrArg textStem same
  rw [show textStem (nodeId node) = "node_" from textStem_numbered "node" node,
    show textStem (edgeId edge) = "edge_" from textStem_numbered "edge" edge] at stems
  simp at stems

theorem edgeId_injective : Function.Injective edgeId :=
  Function.LeftInverse.injective (textNumber_numbered "edge")

@[simp] theorem addToNumber_nodeId (amount index : Nat) :
    addToNumber amount (nodeId index) = nodeId (index + amount) :=
  addToNumber_numbered amount "node" index

@[simp] theorem addToNumber_edgeId (amount index : Nat) :
    addToNumber amount (edgeId index) = edgeId (index + amount) :=
  addToNumber_numbered amount "edge" index

@[simp] theorem addToNumber_placeholderMessage (amount : Nat) (kind : String) (index : Nat) :
    addToNumber amount (placeholderMessage kind index) =
      placeholderMessage kind (index + amount) := by
  have split (number : Nat) : placeholderMessage kind number =
      "unsupported statement '" ++ kind ++ "' replaced by placeholder " ++ "node" ++ "_" ++
        toString number := by
    have mark : nodeId number = "node" ++ "_" ++ toString number := rfl
    unfold placeholderMessage
    simp only [mark, String.append_assoc]
  rw [split, split, addToNumber_numbered]

@[simp] theorem idRange_one (first : Nat) : idRange first 1 = [nodeId first] := rfl

theorem idRange_add (first left right : Nat) :
    idRange first (left + right) = idRange first left ++ idRange (first + left) right := by
  rw [idRange, ← List.range'_append_1, List.map_append]
  rfl

theorem mem_idRange (first count index : Nat) :
    nodeId index ∈ idRange first count ↔ first ≤ index ∧ index < first + count := by
  rw [idRange, List.mem_map_of_injective nodeId_injective, List.mem_range'_1]

theorem idRange_nodup (first count : Nat) : (idRange first count).Nodup :=
  List.Nodup.map nodeId_injective List.nodup_range'

theorem idRange_subset {first count inner innerCount : Nat} (low : first ≤ inner)
    (high : inner + innerCount ≤ first + count) :
    idRange inner innerCount ⊆ idRange first count := by
  intro id member
  obtain ⟨index, -, rfl⟩ := List.mem_map.mp member
  rw [mem_idRange] at member ⊢
  omega

theorem idRange_disjoint {first count other otherCount : Nat}
    (apart : first + count ≤ other ∨ other + otherCount ≤ first) :
    (idRange first count).Disjoint (idRange other otherCount) := by
  intro id here there
  obtain ⟨index, -, rfl⟩ := List.mem_map.mp here
  rw [mem_idRange] at here there
  omega

theorem map_addToNumber_idRange (amount first count : Nat) :
    (idRange first count).map (addToNumber amount) = idRange (first + amount) count := by
  have shifted : addToNumber amount ∘ nodeId = nodeId ∘ (amount + ·) := by
    funext index
    simp [Nat.add_comm]
  rw [idRange, List.map_map, shifted, ← List.map_map, List.map_add_range', idRange, Nat.add_comm]

end ControlFlow
