import Mathlib.Algebra.GroupWithZero.Nat
import TagConsole.Proofs.Text.Hex
import TagConsole.Uuid

/-!
Identifiers as texts. An identifier is read back from the hyphenated form in which it is written.
-/

namespace TagConsole.Uuid

theorem splitGroups_joined {sizes : List Nat} {cs : List Char} (whole : cs.length = sizes.sum) :
    joinGroups sizes (splitGroups sizes cs) = some cs ∧
      (splitGroups sizes cs).length = cs.length + (sizes.length - 1) := by
  induction sizes generalizing cs with
  | nil =>
    obtain rfl := List.eq_nil_of_length_eq_zero whole
    exact ⟨rfl, rfl⟩
  | cons size sizes ih =>
    rw [List.sum_cons] at whole
    cases sizes with
    | nil => exact ⟨if_pos whole, rfl⟩
    | cons next sizes =>
      have front : (cs.take size).length = size := by
        rw [List.length_take]
        omega
      obtain ⟨joined, length⟩ := @ih (cs.drop size) (by rw [List.length_drop]; omega)
      have split : splitGroups (size :: next :: sizes) cs =
          cs.take size ++ '-' :: splitGroups (next :: sizes) (cs.drop size) := rfl
      constructor
      · rw [split, joinGroups, List.drop_left' front, List.take_left' front]
        · change (joinGroups (next :: sizes) _).map _ = _
          rw [joined, Option.map_some, List.take_append_drop]
        · nofun
      · rw [split, List.length_append, List.length_cons, length, front, List.length_drop]
        simp only [List.length_cons]
        omega

theorem length_digits (bytes : List UInt8) : (bytes.flatMap Hex.encodeByte).length = 2 * bytes.length := by
  induction bytes with
  | nil => rfl
  | cons b bytes ih =>
    rw [List.flatMap_cons, List.length_append, ih, List.length_cons]
    simp only [Hex.encodeByte, List.length_cons, List.length_nil]
    omega

theorem ofText?_text (uuid : Uuid) : ofText? uuid.text = some uuid := by
  have whole : (uuid.bytes.flatMap Hex.encodeByte).length = groups.sum := by
    rw [length_digits, uuid.length_bytes]
    rfl
  obtain ⟨joined, length⟩ := splitGroups_joined whole
  have size : uuid.text.toList.length = 36 := by
    rw [text, String.toList_ofList, length, whole]
    rfl
  rw [ofText?, size]
  change (joinGroups groups uuid.text.toList).bind ofDigits? = some uuid
  rw [text, String.toList_ofList, joined, Option.bind_some, ofDigits?, Hex.decodeChars_encode, Option.bind_some,
    ofBytes?, dif_pos uuid.length_bytes]

end TagConsole.Uuid
