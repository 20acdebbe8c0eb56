import TagConsole.Proofs.Text.Numerals
import TagConsole.Wire.Slot

/-!
Which numbers and which texts are slots.
-/

namespace TagConsole

theorem eq_error_iff_of_only {ε α : Type} {x : Except ε α} {only error : ε}
    (told : ∀ error, x = .error error → error = only) : x = .error error ↔ (¬ ∃ a, x = .ok a) ∧ error = only := by
  constructor
  · intro failed
    refine ⟨?_, told error failed⟩
    rintro ⟨a, done⟩
    cases done.symm.trans failed
  · rintro ⟨none, rfl⟩
    cases result : x with
    | ok a => exact absurd ⟨a, result⟩ none
    | error error => rw [told error result]

namespace Wire.Slot

theorem ofInt_eq_ok {n : Int} {slot : Slot} : ofInt n = .ok slot ↔ n = slot.number.toNat := by
  obtain ⟨number, bound⟩ := slot
  have small : number.toNat ≤ 7 := bound
  unfold ofInt ofByte
  constructor
  · intro read
    split at read
    · rename_i range
      have value : (UInt8.ofNat n.toNat).toNat = n.toNat := UInt8.toNat_ofNat_of_lt (by simp [UInt8.size]; omega)
      split at read
      · cases read
        change n = (UInt8.ofNat n.toNat).toNat
        omega
      · cases read
    · cases read
  · change n = number.toNat → _
    rintro rfl
    have same : UInt8.ofNat (number.toNat : Int).toNat = number := by simp
    rw [if_pos (by omega), same, dif_pos bound]
    rfl

theorem exists_of_le {n : Nat} (small : n ≤ 7) :
    ∃ slot : Slot, slot.number = UInt8.ofNat n ∧ slot.number.toNat = n := by
  have value : (UInt8.ofNat n).toNat = n := UInt8.toNat_ofNat_of_lt (by simp [UInt8.size]; omega)
  refine ⟨⟨UInt8.ofNat n, ?_⟩, rfl, value⟩
  rw [UInt8.le_iff_toNat_le, value]
  exact small

theorem exists_ofInt_iff {n : Int} : (∃ slot, ofInt n = .ok slot) ↔ 0 ≤ n ∧ n ≤ 7 := by
  simp only [ofInt_eq_ok]
  constructor
  · rintro ⟨slot, rfl⟩
    have small : slot.number.toNat ≤ 7 := slot.number_le
    omega
  · rintro ⟨positive, small⟩
    obtain ⟨slot, -, value⟩ := exists_of_le (n := n.toNat) (by omega)
    exact ⟨slot, by omega⟩

theorem ofInt_eq_error {n : Int} {error : Error} :
    ofInt n = .error error ↔ (n < 0 ∨ 7 < n) ∧ error = .outOfRange n := by
  have told (error : Error) (refused : ofInt n = .error error) : error = .outOfRange n := by
    unfold ofInt ofByte at refused
    split at refused
    · split at refused
      · cases refused
      · cases refused
        rfl
    · cases refused
      rfl
  have outside : ¬ (0 ≤ n ∧ n ≤ 7) ↔ n < 0 ∨ 7 < n := by omega
  rw [eq_error_iff_of_only told, exists_ofInt_iff, outside]

theorem ofText_eq_ok {text : String} {slot : Slot} :
    ofText text = .ok slot ↔ Text.IsNumeral text.toList slot.number.toNat := by
  have small : slot.number.toNat ≤ 7 := slot.number_le
  have fits : Text.inInt64 slot.number.toNat = true := by
    simp [Text.inInt64]
    omega
  unfold ofText
  constructor
  · intro read
    split at read
    · rename_i n found
      obtain rfl := ofInt_eq_ok.mp read
      exact (Text.readInt64?_eq_some.mp found).1
    · cases read
  · intro numeral
    rw [Text.readInt64?_eq_some.mpr ⟨numeral, fits⟩]
    exact ofInt_eq_ok.mpr rfl

theorem ofText_zeros (zeros : Nat) (slot : Slot) :
    ofText (String.ofList (List.replicate zeros '0') ++ slot.text) = .ok slot := by
  have digits : Text.IsDigits slot.text.toList slot.number.toNat := Text.isDigits_toString _
  rw [ofText_eq_ok, String.toList_append, String.toList_ofList]
  exact .plain (digits.zeros zeros)

theorem ofText_minusZero (zeros : Nat) :
    ofText ("-" ++ String.ofList (List.replicate (zeros + 1) '0')) = .ok ⟨0, by decide⟩ := by
  have zero : Text.IsDigits ['0'] 0 := Text.isDigits_toDigits 0
  have numeral := Text.IsNumeral.minus (zero.zeros zeros)
  have spelled : ("-" ++ String.ofList (List.replicate (zeros + 1) '0')).toList =
      '-' :: (List.replicate zeros '0' ++ ['0']) := by
    simp [List.replicate_succ']
  rw [ofText_eq_ok, spelled]
  exact numeral

section Refused

variable {text told : String} {n : Int}

theorem ofText_of_numeral (numeral : Text.IsNumeral text.toList n) (fits : Text.inInt64 n = true) :
    ofText text = ofInt n := by
  rw [ofText, Text.readInt64?_eq_some.mpr ⟨numeral, fits⟩]

theorem ofText_eq_outOfRange : ofText text = .error (.outOfRange n) ↔
    Text.IsNumeral text.toList n ∧ Text.inInt64 n = true ∧ (n < 0 ∨ 7 < n) := by
  constructor
  · intro refused
    unfold ofText at refused
    split at refused
    · rename_i m found
      obtain ⟨outside, same⟩ := ofInt_eq_error.mp refused
      cases same
      obtain ⟨numeral, fits⟩ := Text.readInt64?_eq_some.mp found
      exact ⟨numeral, fits, outside⟩
    · cases refused
  · rintro ⟨numeral, fits, outside⟩
    rw [ofText_of_numeral numeral fits]
    exact ofInt_eq_error.mpr ⟨outside, rfl⟩

theorem ofText_eq_notANumber : ofText text = .error (.notANumber told) ↔
    (∀ n, Text.IsNumeral text.toList n → ¬ Text.inInt64 n = true) ∧ told = text := by
  constructor
  · intro refused
    unfold ofText at refused
    split at refused
    · obtain ⟨-, same⟩ := ofInt_eq_error.mp refused
      cases same
    · rename_i none
      cases refused
      refine ⟨fun n numeral fits => ?_, rfl⟩
      cases none.symm.trans (Text.readInt64?_eq_some.mpr ⟨numeral, fits⟩)
  · rintro ⟨misfit, rfl⟩
    have none : Text.readInt64? told = none := by
      rw [Option.eq_none_iff_forall_ne_some]
      intro n found
      obtain ⟨numeral, fits⟩ := Text.readInt64?_eq_some.mp found
      exact misfit n numeral fits
    rw [ofText, none]

end Refused

theorem ofInt_toNat (b : UInt8) : ofInt b.toNat = ofByte b := by
  have byte := b.toNat_lt
  have same : UInt8.ofNat (b.toNat : Int).toNat = b := by simp
  rw [ofInt, if_pos (by omega), same, ofByte]
  split <;> rfl

theorem ofText_toString (b : UInt8) : ofText (toString b.toNat) = ofByte b := by
  have numeral : Text.IsNumeral (toString b.toNat).toList b.toNat := Text.isNumeral_toString b.toNat
  have byte := b.toNat_lt
  rw [ofText_of_numeral numeral (Text.inInt64_iff.mpr (by omega)), ofInt_toNat]

end Wire.Slot

end TagConsole
