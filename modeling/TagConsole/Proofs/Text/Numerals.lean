import Mathlib.Algebra.Group.Int.Defs
import Mathlib.Data.Option.Basic
import TagConsole.Text.Blank
import TagConsole.Text.Numeral

/-!
Decimal numerals: digits with any number of zeros in front, and where it is allowed a sign.
-/

namespace TagConsole.Text

def IsDigits (cs : List Char) (n : Nat) : Prop :=
  cs ≠ [] ∧ (∀ c ∈ cs, c.isDigit = true) ∧ n = Nat.ofDigitChars 10 cs 0

inductive IsNumeral : List Char → Int → Prop where
  | plain {cs n} (digits : IsDigits cs n) : IsNumeral cs n
  | plus {cs n} (digits : IsDigits cs n) : IsNumeral ('+' :: cs) n
  | minus {cs n} (digits : IsDigits cs n) : IsNumeral ('-' :: cs) (-n)

variable {cs : List Char} {n : Nat}

theorem readDigits?_eq_some : readDigits? cs = some n ↔ IsDigits cs n := by
  have value : valueOfDigits cs = Nat.ofDigitChars 10 cs 0 := Nat.ofDigitChars_eq_foldl.symm
  rw [readDigits?, value, IsDigits, ← and_assoc, eq_comm (a := n)]
  simp

theorem not_isDigits {c : Char} (other : c.isDigit = false) : ¬ IsDigits (c :: cs) n := by
  rintro ⟨-, digits, -⟩
  simp [digits c (by simp)] at other

theorem readSigned?_eq_some {text : String} {value : Int} :
    readSigned? text = some value ↔ IsNumeral text.toList value := by
  unfold readSigned?
  -- A sign is no digit, so what starts with one is spelled in one way only.
  split
  case h_1 cs start =>
    rw [start, Option.map_eq_some_iff]
    constructor
    · rintro ⟨n, digits, rfl⟩
      exact .plus (readDigits?_eq_some.mp digits)
    · rintro (digits | digits)
      · exact absurd digits (not_isDigits (by decide))
      · exact ⟨_, readDigits?_eq_some.mpr digits, rfl⟩
  case h_2 cs start =>
    rw [start, Option.map_eq_some_iff]
    simp only [Option.bind_eq_bind, Option.bind_eq_some_iff, Option.pure_def, Option.some.injEq]
    constructor
    · rintro ⟨_, ⟨n, digits, rfl⟩, rfl⟩
      exact .minus (readDigits?_eq_some.mp digits)
    · rintro (digits | _ | digits)
      · exact absurd digits (not_isDigits (by decide))
      · exact ⟨_, ⟨_, readDigits?_eq_some.mpr digits, rfl⟩, rfl⟩
  case h_3 cs noPlus noMinus =>
    rw [Option.map_eq_some_iff]
    constructor
    · rintro ⟨n, digits, rfl⟩
      exact .plain (readDigits?_eq_some.mp digits)
    · generalize chars : text.toList = cs at noPlus noMinus ⊢
      rintro (digits | digits | digits)
      · exact ⟨_, readDigits?_eq_some.mpr digits, rfl⟩
      · exact absurd rfl (noPlus _)
      · exact absurd rfl (noMinus _)

theorem readInt64?_eq_some {text : String} {value : Int} :
    readInt64? text = some value ↔ IsNumeral text.toList value ∧ inInt64 value = true := by
  rw [readInt64?, Option.filter_eq_some_iff, readSigned?_eq_some]

theorem inInt64_iff {n : Int} : inInt64 n = true ↔ -2 ^ 63 ≤ n ∧ n < 2 ^ 63 := by
  simp only [inInt64, Bool.and_eq_true, decide_eq_true_eq]
  omega

theorem IsDigits.zeros (digits : IsDigits cs n) (zeros : Nat) : IsDigits (List.replicate zeros '0' ++ cs) n := by
  obtain ⟨nonempty, each, rfl⟩ := digits
  refine ⟨List.append_ne_nil_of_right_ne_nil _ nonempty, ?_, ?_⟩
  · intro c member
    rcases List.mem_append.mp member with zero | later
    · rw [List.eq_of_mem_replicate zero]
      decide
    · exact each c later
  · rw [Nat.ofDigitChars_append, Nat.ofDigitChars_replicate_zero, Nat.mul_zero]

theorem IsNumeral.unique {value value' : Int} (numeral : IsNumeral cs value) (numeral' : IsNumeral cs value') :
    value = value' := by
  rw [← String.toList_ofList (l := cs), ← readSigned?_eq_some] at numeral numeral'
  exact Option.some.inj (numeral.symm.trans numeral')

theorem isDigits_toDigits (n : Nat) : IsDigits (Nat.toDigits 10 n) n :=
  ⟨Nat.toDigits_ne_nil, fun _ member => Nat.isDigit_of_mem_toDigits (by decide) (by decide) member,
    Nat.ofDigitChars_ten_toDigits.symm⟩

theorem isDigits_toString (n : Nat) : IsDigits (toString n).toList n := by
  change IsDigits (Nat.repr n).toList n
  rw [Nat.repr_eq_ofList_toDigits, String.toList_ofList]
  exact isDigits_toDigits n

theorem isNumeral_toString (n : Int) : IsNumeral (toString n).toList n := by
  cases n with
  | ofNat n => exact .plain (isDigits_toString n)
  | negSucc n =>
    have spelled : ("-" ++ Nat.repr (n + 1)).toList = '-' :: Nat.toDigits 10 (n + 1) := by
      simp [Nat.repr_eq_ofList_toDigits]
    change IsNumeral ("-" ++ Nat.repr (n + 1)).toList (-((n + 1 : Nat) : Int))
    rw [spelled]
    exact .minus (isDigits_toDigits (n + 1))

theorem isBlank_of_isDigit {c : Char} (digit : c.isDigit = true) : isBlank c = false := by
  have range : 48 ≤ c.toNat ∧ c.toNat ≤ 57 := by
    rw [Char.isDigit, Bool.and_eq_true, decide_eq_true_eq, decide_eq_true_eq] at digit
    exact digit
  simp only [isBlank, inRanges, blankRanges, List.any_cons, List.any_nil, Bool.or_false, Bool.or_eq_false_iff,
    Bool.and_eq_false_iff, decide_eq_false_iff_not]
  omega

theorem IsDigits.visible (digits : IsDigits cs n) : ∀ c ∈ cs, isBlank c = false :=
  fun c member => isBlank_of_isDigit (digits.2.1 c member)

theorem IsNumeral.visible {value : Int} (numeral : IsNumeral cs value) : cs ≠ [] ∧ ∀ c ∈ cs, isBlank c = false := by
  have signs : isBlank '+' = false ∧ isBlank '-' = false := by decide
  cases numeral with
  | plain digits => exact ⟨digits.1, digits.visible⟩
  | plus digits => exact ⟨List.cons_ne_nil _ _, List.forall_mem_cons.mpr ⟨signs.1, digits.visible⟩⟩
  | minus digits => exact ⟨List.cons_ne_nil _ _, List.forall_mem_cons.mpr ⟨signs.2, digits.visible⟩⟩

end TagConsole.Text
