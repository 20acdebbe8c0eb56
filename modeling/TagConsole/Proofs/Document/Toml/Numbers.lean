import Mathlib.Data.List.Basic
import TagConsole.Document.Toml.Number

/-!
Integers in documents. The numeral of an integer is read back, and it is taken for nothing else that a document may
hold.
-/

namespace TagConsole.Document.Toml

structure Digits (digits : List Char) : Prop where
  digit : ∀ c ∈ digits, c.isDigit = true
  start : digits = ['0'] ∨ ∃ head tail, digits = head :: tail ∧ head ≠ '0'

theorem digitChar_ne_zero : ∀ n < 10, n ≠ 0 → n.digitChar ≠ '0' := by decide

theorem toDigits_head {n : Nat} (positive : n ≠ 0) : ∃ head tail, Nat.toDigits 10 n = head :: tail ∧ head ≠ '0' := by
  induction n using Nat.strongRecOn with
  | _ n ih =>
    by_cases small : n < 10
    · rw [Nat.toDigits_of_lt_base small]
      exact ⟨_, _, rfl, digitChar_ne_zero n small positive⟩
    · obtain ⟨head, tail, spelled, other⟩ := ih (n / 10) (by omega) (by omega)
      rw [Nat.toDigits_of_base_le (by decide) (by omega), spelled]
      exact ⟨head, _, rfl, other⟩

theorem toDigits_digits (n : Nat) : Digits (Nat.toDigits 10 n) where
  digit _ member := Nat.isDigit_of_mem_toDigits (by decide) (by decide) member
  start := by
    by_cases zero : n = 0
    · rw [zero]
      exact .inl rfl
    · exact .inr (toDigits_head zero)

variable {digits : List Char}

theorem digitValue?_of_isDigit {c : Char} (digit : c.isDigit = true) :
    Hex.digitValue? c = some (c.toNat - '0'.toNat) := by
  rw [Char.isDigit, Bool.and_eq_true, decide_eq_true_eq, decide_eq_true_eq] at digit
  rw [Hex.digitValue?, if_pos (by simpa [Char.le_def] using digit)]

theorem valueIn_digits (digit : ∀ c ∈ digits, c.isDigit = true) : valueIn 10 digits = Nat.ofDigitChars 10 digits 0 := by
  rw [Nat.ofDigitChars_eq_foldl, valueIn]
  refine List.foldl_ext _ _ _ fun n c member => ?_
  rw [digitValue?_of_isDigit (digit c member), Option.getD_some]

theorem takeDigits_eq (digit : ∀ c ∈ digits, c.isDigit = true) (rest : List Char) :
    takeDigits Char.isDigit (digits ++ '\n' :: rest) = (digits, '\n' :: rest) := by
  induction digits with
  | nil => rfl
  | cons c cs ih =>
    obtain ⟨first, digit⟩ := List.forall_mem_cons.mp digit
    have solid : c ≠ '_' := by
      rintro rfl
      revert first
      decide
    rw [List.cons_append, takeDigits.eq_def]
    split
    · rename_i same
      exact absurd (List.cons.inj same).1 solid
    · rename_i same
      obtain ⟨rfl, rfl⟩ := List.cons.inj same
      rw [if_pos first, ih digit]
    · contradiction

theorem readWhole_digits (canonical : Digits digits) (rest : List Char) :
    readWhole (digits ++ '\n' :: rest) = some (digits, '\n' :: rest) := by
  obtain rfl | ⟨head, tail, rfl, other⟩ := canonical.start
  · rfl
  · rw [List.cons_append]
    unfold readWhole
    split
    · rename_i same
      exact absurd (List.cons.inj same).1 other
    · rw [readDigits, if_pos (canonical.digit head (by simp)), ← List.cons_append, takeDigits_eq canonical.digit]

theorem Digits.exists_head (canonical : Digits digits) : ∃ head tail, digits = head :: tail ∧ head.isDigit = true := by
  obtain rfl | ⟨head, tail, rfl, -⟩ := canonical.start
  · exact ⟨_, _, rfl, rfl⟩
  · exact ⟨_, _, rfl, canonical.digit head (by simp)⟩

def numeral (negative : Bool) (digits : List Char) : List Char := if negative then '-' :: digits else digits

section Numeral

variable (canonical : Digits digits) (negative : Bool) (rest : List Char)

include canonical

theorem readSign_numeral : readSign (numeral negative digits ++ rest) = (negative, digits ++ rest) := by
  cases negative with
  | true => rfl
  | false =>
    obtain ⟨head, tail, rfl, digit⟩ := canonical.exists_head
    change readSign (head :: (tail ++ rest)) = _
    unfold readSign
    split
    · rename_i same
      obtain ⟨rfl, -⟩ := List.cons.inj same
      exact absurd digit (by decide)
    · rename_i same
      obtain ⟨rfl, -⟩ := List.cons.inj same
      exact absurd digit (by decide)
    · rfl

theorem readReal_numeral : readReal (numeral negative digits ++ '\n' :: rest) = none := by
  rw [readReal, readSign_numeral canonical]
  simp only [Option.bind_eq_bind]
  rw [readWhole_digits canonical]
  rfl

theorem readSpecial_numeral : readSpecial (numeral negative digits ++ '\n' :: rest) = none := by
  rw [readSpecial, readSign_numeral canonical]
  obtain ⟨head, tail, rfl, digit⟩ := canonical.exists_head
  dsimp only
  split
  · rename_i same
    obtain ⟨rfl, -⟩ := List.cons.inj same
    exact absurd digit (by decide)
  · rename_i same
    obtain ⟨rfl, -⟩ := List.cons.inj same
    exact absurd digit (by decide)
  · rfl

theorem numeral_ne_radix {c : Char} (unbroken : c ≠ '\n') (cs : List Char) :
    numeral negative digits ++ '\n' :: rest ≠ '0' :: c :: cs := by
  intro same
  cases negative with
  | true => exact absurd (List.cons.inj same).1 (by decide)
  | false =>
    obtain rfl | ⟨head, tail, rfl, other⟩ := canonical.start
    · exact unbroken (List.cons.inj (List.cons.inj same).2).1.symm
    · exact other (List.cons.inj same).1

theorem readInteger_numeral {n : Int} (small : Text.inInt64 n = true)
    (value : n = if negative then -(Nat.ofDigitChars 10 digits 0 : Int) else Nat.ofDigitChars 10 digits 0) :
    readInteger (numeral negative digits ++ '\n' :: rest) = some (n, '\n' :: rest) := by
  have decimal : readDecimal (numeral negative digits ++ '\n' :: rest) = some (n, '\n' :: rest) := by
    rw [readDecimal, readSign_numeral canonical]
    simp only [Option.bind_eq_bind]
    rw [readWhole_digits canonical, Option.bind_some, valueIn_digits canonical.digit, value]
    rfl
  unfold readInteger
  -- A radix has its letter behind a zero, where here the line ends.
  split
  · rename_i same
    exact absurd same (numeral_ne_radix canonical negative rest (by decide) _)
  · rename_i same
    exact absurd same (numeral_ne_radix canonical negative rest (by decide) _)
  · rename_i same
    exact absurd same (numeral_ne_radix canonical negative rest (by decide) _)
  · rw [decimal]
    exact Option.filter_some_pos small

end Numeral

theorem skipChar?_field {negative : Bool} {size low high value : Nat} {cs rest : List Char} {c : Char}
    (digit : ∀ c ∈ digits, c.isDigit = true)
    (read : readField (size + 1) low high (numeral negative digits ++ '\n' :: cs) = some (value, rest))
    (mark : c.isDigit = false) (unbroken : c ≠ '\n') : skipChar? c rest = none := by
  simp only [readField, Option.ite_none_right_eq_some, List.all_eq_true] at read
  obtain ⟨⟨-, taken, -⟩, left⟩ := read
  obtain ⟨-, rfl⟩ := Prod.mk.inj (Option.some.inj left)
  cases negative with
  | true => exact absurd (taken '-' (by simp [numeral])) (by decide)
  | false =>
    change ∀ c ∈ (digits ++ '\n' :: cs).take (size + 1), c.isDigit = true at taken
    change skipChar? c ((digits ++ '\n' :: cs).drop (size + 1)) = none
    -- Otherwise the end of the line would be among the digits of the field.
    have within : size + 1 ≤ digits.length := by
      by_contra beyond
      obtain ⟨more, longer⟩ := Nat.exists_eq_add_of_lt (Nat.not_le.mp beyond)
      refine absurd (taken '\n' ?_) (by decide)
      rw [List.take_append, longer, show digits.length + more + 1 - digits.length = more + 1 by omega]
      simp
    rw [List.drop_append_of_le_length within]
    cases left : digits.drop (size + 1) with
    | nil => exact if_neg unbroken
    | cons d others =>
      refine if_neg ?_
      rintro rfl
      rw [digit c (List.mem_of_mem_drop (left ▸ List.mem_cons_self))] at mark
      cases mark

theorem readDate_numeral (canonical : Digits digits) (negative : Bool) (rest : List Char) :
    readDate (numeral negative digits ++ '\n' :: rest) = none := by
  have noDay : readDay (numeral negative digits ++ '\n' :: rest) = none := by
    rw [readDay]
    simp only [Option.bind_eq_bind]
    cases read : readField 4 0 9999 (numeral negative digits ++ '\n' :: rest) with
    | none => rfl
    | some found =>
      rw [Option.bind_some, skipChar?_field canonical.digit read (by decide) (by decide)]
      rfl
  have noTime : readTime (numeral negative digits ++ '\n' :: rest) = none := by
    rw [readTime]
    simp only [Option.bind_eq_bind]
    cases read : readField 2 0 23 (numeral negative digits ++ '\n' :: rest) with
    | none => rfl
    | some found =>
      rw [Option.bind_some, skipChar?_field canonical.digit read (by decide) (by decide)]
      rfl
  rw [readDate, noDay, noTime]

theorem toList_toString (n : Int) : (toString n).toList = numeral (n < 0) (Nat.toDigits 10 n.natAbs) := by
  cases n with
  | ofNat n =>
    change (Nat.repr n).toList = Nat.toDigits 10 n
    rw [Nat.repr_eq_ofList_toDigits, String.toList_ofList]
  | negSucc n =>
    rw [decide_eq_true (Int.negSucc_lt_zero n)]
    change ("-" ++ Nat.repr (n + 1)).toList = '-' :: Nat.toDigits 10 (n + 1)
    simp [Nat.repr_eq_ofList_toDigits]

theorem toString_head (n : Int) :
    ∃ head tail, (toString n).toList = head :: tail ∧ (head = '-' ∨ head.isDigit = true) := by
  rw [toList_toString]
  cases decide (n < 0) with
  | true => exact ⟨_, _, rfl, .inl rfl⟩
  | false =>
    obtain ⟨head, tail, spelled, digit⟩ := (toDigits_digits n.natAbs).exists_head
    exact ⟨head, tail, spelled, .inr digit⟩

theorem readNumber_toString {n : Int} (small : Text.inInt64 n = true) (rest : List Char) :
    readNumber ((toString n).toList ++ '\n' :: rest) = some (.integer n, '\n' :: rest) := by
  have canonical := toDigits_digits n.natAbs
  have value : n = if (n < 0 : Bool) then -(Nat.ofDigitChars 10 (Nat.toDigits 10 n.natAbs) 0 : Int)
      else Nat.ofDigitChars 10 (Nat.toDigits 10 n.natAbs) 0 := by
    rw [Nat.ofDigitChars_ten_toDigits]
    split_ifs with negative
    · have := of_decide_eq_true negative
      omega
    · have := of_decide_eq_false (Bool.not_eq_true _ ▸ negative)
      omega
  rw [toList_toString, readNumber, readDate_numeral canonical, readReal_numeral canonical,
    readSpecial_numeral canonical, readInteger_numeral canonical _ rest small value]
  rfl

end TagConsole.Document.Toml
