import TagConsole.Text.Utf8

/-!
Texts as bytes. Every text is read back from the bytes that it is written as, and what is read from bytes is written
as these bytes.
-/

namespace TagConsole.Text

theorem toList_loop (bytes : ByteArray) (i : Nat) (before : List UInt8) :
    ByteArray.toList.loop bytes i before = before.reverse ++ bytes.data.toList.drop i := by
  fun_induction ByteArray.toList.loop bytes i before with
  | case1 i before within ih =>
    have head : bytes.get! i = bytes.data.toList[i] := getElem!_pos bytes.data i within
    rw [ih, head, List.reverse_cons, List.append_assoc, List.singleton_append, ← List.drop_eq_getElem_cons]
  | case2 i before beyond =>
    have none : bytes.data.toList.drop i = [] := List.drop_eq_nil_of_le (Nat.not_lt.mp beyond)
    rw [none, List.append_nil]

theorem toList_toByteArray (bytes : ByteArray) : bytes.toList.toByteArray = bytes := by
  apply ByteArray.ext
  rw [List.data_toByteArray, ByteArray.toList, toList_loop]
  rfl

theorem ofUtf8?_toUtf8 (text : String) : ofUtf8? (toUtf8 text) = some text := by
  rw [ofUtf8?, toUtf8, toList_toByteArray]
  exact dif_pos text.isValidUTF8

theorem toByteArray_toList (bytes : List UInt8) : bytes.toByteArray.toList = bytes := by
  rw [ByteArray.toList, toList_loop, List.data_toByteArray]
  rfl

theorem ofUtf8?_eq_some {bytes : List UInt8} {text : String} : ofUtf8? bytes = some text ↔ toUtf8 text = bytes := by
  constructor
  · intro read
    unfold ofUtf8? String.fromUTF8? at read
    split at read
    · cases read
      exact toByteArray_toList bytes
    · cases read
  · rintro rfl
    exact ofUtf8?_toUtf8 text

theorem printable?_eq_some {bytes : List UInt8} {text : String} : printable? bytes = some text ↔
    toUtf8 text = bytes ∧ ∀ c ∈ text.toList, isControl c = true → isBlank c = true := by
  have shown (c : Char) : (!isControl c || isBlank c) = true ↔ (isControl c = true → isBlank c = true) := by
    cases isControl c <;> simp
  rw [printable?, Option.filter_eq_some_iff, ofUtf8?_eq_some, List.all_eq_true]
  simp only [shown]

end TagConsole.Text
