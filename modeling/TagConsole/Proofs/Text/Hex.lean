import Mathlib.Tactic.SplitIfs
import TagConsole.Hex

/-!
Hexadecimal digits. A text spells bytes exactly if it is, up to the case of its letters, what writing them gives.
Arguments are read as the one text that they are together.
-/

namespace TagConsole.Hex

theorem char_le_iff {c d : Char} : c ≤ d ↔ c.toNat ≤ d.toNat := by
  rw [Char.le_def, UInt32.le_iff_toNat_le, Char.toNat_val, Char.toNat_val]

theorem toNat_ofNat {n : Nat} (valid : n.isValidChar) : (Char.ofNat n).toNat = n := by
  rw [Char.ofNat, dif_pos valid]
  rfl

theorem toNat_toLower (c : Char) :
    c.toLower.toNat = if 65 ≤ c.toNat ∧ c.toNat ≤ 90 then c.toNat + 32 else c.toNat := by
  have capital : (c.val ≥ 'A'.val ∧ c.val ≤ 'Z'.val) ↔ 65 ≤ c.toNat ∧ c.toNat ≤ 90 := by
    simp [UInt32.le_iff_toNat_le]
  unfold Char.toLower
  simp only [capital]
  split
  · rename_i upper
    simp only [Char.toNat_mk, UInt32.toNat_add]
    simp
    omega
  · rfl

theorem toNat_digitChar {n : Nat} (small : n < 16) :
    (digitChar n).toNat = if n < 10 then 48 + n else 87 + n := by
  unfold digitChar
  split <;> exact toNat_ofNat (.inl (by omega))

theorem digitValue?_eq_some {c : Char} {n : Nat} : digitValue? c = some n ↔ n < 16 ∧ c.toLower = digitChar n := by
  have same (small : n < 16) : c.toLower = digitChar n ↔
      (if 65 ≤ c.toNat ∧ c.toNat ≤ 90 then c.toNat + 32 else c.toNat) = if n < 10 then 48 + n else 87 + n := by
    rw [← toNat_toLower, ← toNat_digitChar small, Char.toNat_inj]
  rw [and_congr_right same]
  simp only [digitValue?, Bool.and_eq_true, decide_eq_true_eq, char_le_iff, Char.reduceToNat]
  split_ifs <;> grind

theorem ofNat_halves (b : UInt8) : UInt8.ofNat (16 * (b.toNat / 16) + b.toNat % 16) = b := by
  rw [Nat.div_add_mod, UInt8.ofNat_toNat]

theorem toNat_ofNat_halves {high low : Nat} (highSmall : high < 16) (lowSmall : low < 16) :
    (UInt8.ofNat (16 * high + low)).toNat = 16 * high + low :=
  UInt8.toNat_ofNat_of_lt (by simp [UInt8.size]; omega)

theorem encodeByte_ofNat {high low : Nat} (highSmall : high < 16) (lowSmall : low < 16) :
    encodeByte (UInt8.ofNat (16 * high + low)) = [digitChar high, digitChar low] := by
  rw [encodeByte, toNat_ofNat_halves highSmall lowSmall, show (16 * high + low) / 16 = high by omega,
    show (16 * high + low) % 16 = low by omega]

theorem decodeChars_eq_some {cs : List Char} {bytes : List UInt8} :
    decodeChars cs = some bytes ↔ cs.map Char.toLower = bytes.flatMap encodeByte := by
  fun_induction decodeChars cs generalizing bytes with
  | case1 => cases bytes <;> simp [encodeByte]
  | case2 c => cases bytes <;> simp [encodeByte]
  | case3 high low rest ih =>
    simp only [Option.bind_eq_bind, Option.bind_eq_some_iff, Option.pure_def, Option.some.injEq]
    constructor
    · rintro ⟨h, isHigh, l, isLow, later, found, rfl⟩
      obtain ⟨highSmall, high⟩ := digitValue?_eq_some.mp isHigh
      obtain ⟨lowSmall, low⟩ := digitValue?_eq_some.mp isLow
      rw [List.map_cons, List.map_cons, high, low, ih.mp found, List.flatMap_cons,
        encodeByte_ofNat highSmall lowSmall]
      rfl
    · intro spelled
      cases bytes with
      | nil => simp at spelled
      | cons b bytes =>
        -- The first byte is written as the next two digits.
        have bound := b.toNat_lt
        simp only [List.map_cons, List.flatMap_cons, encodeByte, List.cons_append, List.nil_append,
          List.cons.injEq] at spelled
        obtain ⟨high, low, later⟩ := spelled
        exact ⟨_, digitValue?_eq_some.mpr ⟨by omega, high⟩, _, digitValue?_eq_some.mpr ⟨by omega, low⟩, bytes,
          ih.mpr later, by rw [ofNat_halves]⟩

theorem toLower_digitChar {n : Nat} (small : n < 16) : (digitChar n).toLower = digitChar n := by
  rw [← Char.toNat_inj, toNat_toLower, toNat_digitChar small]
  grind

theorem decodeChars_encode (bytes : List UInt8) : decodeChars (bytes.flatMap encodeByte) = some bytes := by
  have small (b : UInt8) : (encodeByte b).map Char.toLower = encodeByte b := by
    have bound := b.toNat_lt
    rw [encodeByte, List.map_cons, List.map_cons, List.map_nil, toLower_digitChar (by omega),
      toLower_digitChar (by omega)]
  rw [decodeChars_eq_some, List.map_flatMap]
  simp only [small]

inductive IsDigit (c : Char) : Nat → Prop where
  | decimal {n} (small : n < 10) (code : c.toNat = '0'.toNat + n) : IsDigit c n
  | smallLetter {n} (small : n < 6) (code : c.toNat = 'a'.toNat + n) : IsDigit c (10 + n)
  | capitalLetter {n} (small : n < 6) (code : c.toNat = 'A'.toNat + n) : IsDigit c (10 + n)

/-- Two digits for each of some bytes, the high one first. -/
inductive Spells : List Char → List UInt8 → Prop where
  | nil : Spells [] []
  | byte {high low h l b cs bytes} (isHigh : IsDigit high h) (isLow : IsDigit low l) (value : b.toNat = 16 * h + l)
      (later : Spells cs bytes) : Spells (high :: low :: cs) (b :: bytes)

section Spells

variable {c : Char} {n : Nat} {cs : List Char} {bytes : List UInt8}

theorem digitValue?_eq_some_iff_isDigit : digitValue? c = some n ↔ IsDigit c n := by
  simp only [digitValue?, Bool.and_eq_true, decide_eq_true_eq, char_le_iff, Char.reduceToNat]
  constructor
  · intro value
    split_ifs at value with decimal small capital
    · cases value
      exact .decimal (by omega) (by simp; omega)
    · cases value
      rw [Nat.add_comm]
      exact .smallLetter (by omega) (by simp; omega)
    · cases value
      rw [Nat.add_comm]
      exact .capitalLetter (by omega) (by simp; omega)
  · rintro (⟨small, code⟩ | ⟨small, code⟩ | ⟨small, code⟩)
    all_goals
      simp only [Char.reduceToNat] at code
      grind

theorem IsDigit.lt (digit : IsDigit c n) : n < 16 :=
  (digitValue?_eq_some.mp (digitValue?_eq_some_iff_isDigit.mpr digit)).1

theorem IsDigit.code (digit : IsDigit c n) : 48 ≤ c.toNat ∧ c.toNat ≤ 57 ∨ 65 ≤ c.toNat ∧ c.toNat ≤ 102 := by
  cases digit <;> simp_all <;> omega

theorem decodeChars_eq_some_iff_spells : decodeChars cs = some bytes ↔ Spells cs bytes := by
  fun_induction decodeChars cs generalizing bytes with
  | case1 =>
    constructor
    · rintro ⟨⟩
      exact .nil
    · rintro ⟨⟩
      rfl
  | case2 c =>
    constructor
    · rintro ⟨⟩
    · rintro ⟨⟩
  | case3 high low rest ih =>
    simp only [Option.bind_eq_bind, Option.bind_eq_some_iff, Option.pure_def, Option.some.injEq,
      digitValue?_eq_some_iff_isDigit]
    constructor
    · rintro ⟨h, isHigh, l, isLow, later, found, rfl⟩
      exact .byte isHigh isLow (toNat_ofNat_halves isHigh.lt isLow.lt) (ih.mp found)
    · rintro (_ | ⟨isHigh, isLow, value, later⟩)
      refine ⟨_, isHigh, _, isLow, _, ih.mpr later, ?_⟩
      rw [← value, UInt8.ofNat_toNat]

theorem Spells.length (spells : Spells cs bytes) : cs.length = 2 * bytes.length := by
  induction spells with
  | nil => rfl
  | byte isHigh isLow value later ih =>
    rw [List.length_cons, List.length_cons, ih, List.length_cons]
    omega

theorem Spells.digits (spells : Spells cs bytes) : ∀ c ∈ cs, ∃ n, IsDigit c n := by
  induction spells with
  | nil => simp
  | byte isHigh isLow value later ih =>
    exact List.forall_mem_cons.mpr ⟨⟨_, isHigh⟩, List.forall_mem_cons.mpr ⟨⟨_, isLow⟩, ih⟩⟩

theorem Spells.ne_nil_iff (spells : Spells cs bytes) : cs ≠ [] ↔ bytes ≠ [] := by
  cases spells with
  | nil => simp
  | byte => simp

theorem exists_spells_iff : (∃ bytes, Spells cs bytes) ↔ cs.length % 2 = 0 ∧ ∀ c ∈ cs, ∃ n, IsDigit c n := by
  constructor
  · rintro ⟨bytes, spells⟩
    have length := spells.length
    exact ⟨by omega, spells.digits⟩
  · rintro ⟨even, digits⟩
    fun_induction decodeChars cs with
    | case1 => exact ⟨[], .nil⟩
    | case2 c => simp at even
    | case3 high low rest ih =>
      simp only [List.forall_mem_cons] at digits
      obtain ⟨⟨h, isHigh⟩, ⟨l, isLow⟩, others⟩ := digits
      rw [List.length_cons, List.length_cons] at even
      obtain ⟨bytes, later⟩ := ih (by omega) others
      exact ⟨_, .byte isHigh isLow (toNat_ofNat_halves isHigh.lt isLow.lt) later⟩

end Spells

def unspaced (args : List String) : List Char := (String.join args).toList.filter (· ≠ ' ')

theorem decodeArgs_eq {args : List String} (some : args ≠ []) : decodeArgs args = decodeChars (unspaced args) := by
  rw [decodeArgs, if_neg (by simpa using some), unspaced, String.toList_join]

structure DigitsRead : Prop where
  text : ∀ text bytes, decode text = some bytes ↔ Spells text.toList bytes
  arguments : ∀ args bytes, decodeArgs args = some bytes ↔ args ≠ [] ∧ Spells (unspaced args) bytes
  pairs : ∀ cs bytes, Spells cs bytes → cs.length = 2 * bytes.length ∧ ∀ c ∈ cs, ∃ n, IsDigit c n
  borders : ∀ args args', args ≠ [] → args' ≠ [] → unspaced args = unspaced args' → decodeArgs args = decodeArgs args'
  written : ∀ bytes, decode (encode bytes) = some bytes
  rewritten : ∀ text bytes, decode text = some bytes → encode bytes = text.map Char.toLower
  ascii : ∀ text : String, (∃ c ∈ text.toList, 128 ≤ c.toNat) → decode text = none

/-- Digits are read exactly, wherever they are cut into arguments, and bytes are read back from theirs. -/
theorem digits_read : DigitsRead where
  text text bytes := decodeChars_eq_some_iff_spells
  arguments args bytes := by
    by_cases none : args = []
    · subst none
      exact iff_of_false nofun (fun found => found.1 rfl)
    · rw [decodeArgs_eq none, decodeChars_eq_some_iff_spells, and_iff_right none]
  pairs cs bytes spells := ⟨spells.length, spells.digits⟩
  borders args args' some some' same := by rw [decodeArgs_eq some, decodeArgs_eq some', same]
  written bytes := by rw [decode, encode, String.toList_ofList, decodeChars_encode]
  rewritten text bytes decoded := by
    rw [encode, ← decodeChars_eq_some.mp decoded, ← String.toList_inj, String.toList_ofList, String.toList_map]
  ascii text := by
    rintro ⟨c, member, foreign⟩
    rw [Option.eq_none_iff_forall_ne_some]
    intro bytes decoded
    obtain ⟨n, digit⟩ := (decodeChars_eq_some_iff_spells.mp decoded).digits c member
    have code := digit.code
    omega

end TagConsole.Hex
