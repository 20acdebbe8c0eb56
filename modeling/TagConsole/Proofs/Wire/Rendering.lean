import Mathlib.Data.Bool.AllAny
import TagConsole.Proofs.Text.Hex
import TagConsole.Proofs.Text.Utf8
import TagConsole.Wire.Reply

/-!
What the operator sees of a device. Bytes that are a text without control characters are shown as this text, all others
as their digits. No status shows as another one does.
-/

namespace TagConsole.Wire

def IsPlain (bytes : List UInt8) (text : String) : Prop :=
  Text.toUtf8 text = bytes ∧ ∀ c ∈ text.toList, Text.isControl c = true → Text.isBlank c = true

/-- How bytes are shown: as the text that they are, or in small digits. -/
inductive Shows (bytes : List UInt8) : String → Prop where
  | text {text} (plain : IsPlain bytes text) : Shows bytes text
  | digits {digits} (garbled : ∀ text, ¬ IsPlain bytes text) (small : digits.map Char.toLower = digits)
      (decoded : Hex.decode digits = some bytes) : Shows bytes digits

inductive Labelled : UInt8 → String → Prop where
  | named (status : Status) : Labelled status.byte status.name
  | number {b} {digits : String} (unnamed : ∀ status : Status, status.byte ≠ b)
      (capital : digits.map Char.toUpper = digits) (spelled : Hex.Spells digits.toList [b]) :
      Labelled b ("0x" ++ digits)

section Bytes

variable {bytes : List UInt8} {text : String}

theorem isPlain_iff : IsPlain bytes text ↔ Text.printable? bytes = some text := Text.printable?_eq_some.symm

theorem renderFrame_shows (frame : Frame) : Shows frame (renderFrame frame) := by
  unfold renderFrame
  cases printable : Text.printable? frame with
  | some text => exact .text (isPlain_iff.mpr printable)
  | none =>
    have garbled (text : String) : ¬ IsPlain frame text := by simp [isPlain_iff, printable]
    have decoded := Hex.decodeChars_encode frame
    have small := Hex.decodeChars_eq_some.mp decoded
    refine .digits garbled ?_ ?_
    · rw [← String.toList_inj, String.toList_map, Option.getD_none, Hex.encode, String.toList_ofList, small]
    · rw [Hex.decode, Option.getD_none, Hex.encode, String.toList_ofList, decoded]

theorem not_isControl_of_isDigit {c : Char} {n : Nat} (digit : Hex.IsDigit c n) : Text.isControl c = false := by
  have code := digit.code
  simp only [Text.isControl, Text.inRanges, List.any_cons, List.any_nil, Bool.or_false, Bool.or_eq_false_iff,
    Bool.and_eq_false_iff, decide_eq_false_iff_not]
  omega

/-- Nothing that a device sends can control the terminal. -/
theorem Shows.harmless (shows : Shows bytes text) :
    ∀ c ∈ text.toList, Text.isControl c = true → Text.isBlank c = true := by
  cases shows with
  | text plain => exact plain.2
  | digits garbled small decoded =>
    intro c member control
    obtain ⟨n, digit⟩ := (Hex.decodeChars_eq_some_iff_spells.mp decoded).digits c member
    simp [not_isControl_of_isDigit digit] at control

end Bytes

section Labels

variable {b b' : UInt8} {label : String}

def capitalDigit (n : Nat) : Char :=
  if n.digitChar.isDigit then n.digitChar else Text.upperHexLetters.getD (n.digitChar.toNat - 'a'.toNat) n.digitChar

theorem upperHex_byte (b : UInt8) :
    Text.upperHex 2 b.toNat = String.ofList [capitalDigit (b.toNat / 16), capitalDigit (b.toNat % 16)] := by
  have bound := b.toNat_lt
  generalize b.toNat = n at *
  have low : (16).toDigits (n % 16) = [(n % 16).digitChar] := Nat.toDigits_of_lt_base (by omega)
  rw [Text.upperHex, Text.digitsIn]
  by_cases short : n < 16
  · have zero : n / 16 = 0 := by omega
    rw [Nat.mod_eq_of_lt short] at low ⊢
    rw [low, zero]
    rfl
  · have high : (16).toDigits (n / 16) = [(n / 16).digitChar] := Nat.toDigits_of_lt_base (by omega)
    have whole := Nat.toDigits_append_toDigits (b := 16) (n := n / 16) (d := n % 16) (by omega) (by omega) (by omega)
    rw [Nat.div_add_mod, low, high] at whole
    rw [← whole]
    rfl

theorem upperHex_spells (b : UInt8) : Hex.Spells (Text.upperHex 2 b.toNat).toList [b] ∧
    (Text.upperHex 2 b.toNat).map Char.toUpper = Text.upperHex 2 b.toNat := by
  have table : ∀ n < 16, Hex.digitValue? (capitalDigit n) = some n ∧ (capitalDigit n).toUpper = capitalDigit n := by
    decide
  have bound := b.toNat_lt
  obtain ⟨highValue, highCapital⟩ := table (b.toNat / 16) (by omega)
  obtain ⟨lowValue, lowCapital⟩ := table (b.toNat % 16) (by omega)
  rw [upperHex_byte, String.toList_ofList, ← String.toList_inj, String.toList_map, String.toList_ofList]
  constructor
  · exact .byte (Hex.digitValue?_eq_some_iff_isDigit.mp highValue) (Hex.digitValue?_eq_some_iff_isDigit.mp lowValue)
      (Nat.div_add_mod _ _).symm .nil
  · rw [List.map_cons, List.map_cons, List.map_nil, highCapital, lowCapital]

theorem Reply.labelled (reply : Reply) : Labelled reply.status reply.label := by
  unfold Reply.label
  cases found : Status.ofByte? reply.status with
  | some status =>
    have byte : status.byte = reply.status := by simpa using List.find?_some found
    rw [← byte]
    exact .named status
  | none =>
    have others := List.find?_eq_none.mp found
    have unnamed (status : Status) : status.byte ≠ reply.status := by
      have member : status ∈ Status.all := by cases status <;> decide
      simpa using others status member
    obtain ⟨spelled, capital⟩ := upperHex_spells reply.status
    exact .number unnamed capital spelled

theorem Labelled.chars (labelled : Labelled b label) : ∀ c ∈ label.toList, c ≠ ':' ∧ Text.isControl c = false := by
  cases labelled with
  | named status => cases status <;> exact List.all_iff_forall_prop.mp (by decide)
  | number unnamed capital spelled =>
    have signs : ∀ c ∈ "0x".toList, c ≠ ':' ∧ Text.isControl c = false :=
      List.all_iff_forall_prop.mp (by decide)
    intro c member
    rw [String.toList_append, List.mem_append] at member
    rcases member with sign | digits
    · exact signs c sign
    · obtain ⟨n, digit⟩ := spelled.digits c digits
      refine ⟨?_, not_isControl_of_isDigit digit⟩
      rintro rfl
      have code := digit.code
      simp at code

theorem Status.byte_eq_of_name {status other : Status} (same : status.name = other.name) :
    status.byte = other.byte := by
  revert same
  cases status <;> cases other <;> decide

theorem Labelled.byte_eq (labelled : Labelled b label) (labelled' : Labelled b' label) : b = b' := by
  have named {digits : String} (status : Status) : status.name ≠ "0x" ++ digits := by
    rw [ne_eq, ← String.toList_inj, String.toList_append]
    cases status <;> simp [Status.name]
  cases labelled with
  | named status =>
    generalize same : status.name = label at labelled'
    cases labelled' with
    | named other => exact Status.byte_eq_of_name same
    | number => exact absurd same (named status)
  | @number _ digits _ _ spelled =>
    generalize same : "0x" ++ digits = label at labelled'
    cases labelled' with
    | named other => exact absurd same.symm (named other)
    | @number _ digits' _ _ spelled' =>
      rw [String.append_right_inj] at same
      subst same
      have decoded := Hex.decodeChars_eq_some_iff_spells.mpr spelled
      have decoded' := Hex.decodeChars_eq_some_iff_spells.mpr spelled'
      exact List.head_eq_of_cons_eq (Option.some.inj (decoded.symm.trans decoded'))

end Labels

section Replies

variable {reply other : Reply}

theorem Reply.render_toList (reply : Reply) : ∃ rest, reply.render.toList = reply.label.toList ++ rest ∧
    ∀ c ∈ rest.head?, c = ':' := by
  unfold Reply.render
  split
  · exact ⟨[], (List.append_nil _).symm, by simp⟩
  · exact ⟨(": " ++ renderFrame reply.payload).toList, by simp, by simp⟩

theorem Reply.status_eq_of_render (same : reply.render = other.render) : reply.status = other.status := by
  have label (reply : Reply) : reply.render.toList.takeWhile (· ≠ ':') = reply.label.toList := by
    obtain ⟨rest, whole, colon⟩ := reply.render_toList
    have inside : ∀ c ∈ reply.label.toList, decide (c ≠ ':') = true :=
      fun c member => decide_eq_true (reply.labelled.chars c member).1
    rw [whole, List.takeWhile_append_of_pos inside]
    cases rest with
    | nil => simp
    | cons c rest => simp [colon c rfl]
  have labels : reply.label = other.label := by rw [← String.toList_inj, ← label, ← label, same]
  exact reply.labelled.byte_eq (labels ▸ other.labelled)

theorem Reply.render_harmless (reply : Reply) :
    ∀ c ∈ reply.render.toList, Text.isControl c = true → Text.isBlank c = true := by
  have between : ∀ c ∈ ": ".toList, Text.isControl c = true → Text.isBlank c = true :=
    List.all_iff_forall_prop.mp (by decide)
  intro c member control
  have labels (member : c ∈ reply.label.toList) : Text.isBlank c = true := by
    simp [(reply.labelled.chars c member).2] at control
  unfold Reply.render at member
  split at member
  · exact labels member
  · rw [String.toList_append, String.toList_append, List.mem_append, List.mem_append] at member
    rcases member with (label | colon) | shown
    · exact labels label
    · exact between c colon control
    · exact (renderFrame_shows reply.payload).harmless c shown control

end Replies

structure Rendered : Prop where
  frame : ∀ frame, Shows frame (renderFrame frame)
  decoded : ∀ frame, frame ≠ [] → ∃ reply, Reply.ofFrame? frame = some reply ∧ frame = reply.status :: reply.payload ∧
    Labelled reply.status reply.label
  bare : ∀ reply : Reply, reply.payload = [] → reply.render = reply.label
  full : ∀ reply : Reply, reply.payload ≠ [] →
    ∃ text, Shows reply.payload text ∧ reply.render = reply.label ++ ": " ++ text
  harmless : ∀ c, (∃ frame, c ∈ (renderFrame frame).toList) ∨ (∃ reply : Reply, c ∈ reply.render.toList) →
    Text.isControl c = true → Text.isBlank c = true
  distinct : ∀ reply other : Reply, reply.status ≠ other.status → reply.render ≠ other.render

theorem device_data_rendered : Rendered where
  frame := renderFrame_shows
  decoded frame some := by
    obtain ⟨status, payload, rfl⟩ := List.exists_cons_of_ne_nil some
    exact ⟨⟨status, payload⟩, rfl, rfl, Reply.labelled _⟩
  bare reply none := by simp [Reply.render, none]
  full reply some := ⟨_, renderFrame_shows reply.payload, by simp [Reply.render, some]⟩
  harmless c := by
    rintro (⟨frame, member⟩ | ⟨reply, member⟩)
    · exact (renderFrame_shows frame).harmless c member
    · exact reply.render_harmless c member
  distinct reply other differs same := differs (Reply.status_eq_of_render same)

end TagConsole.Wire
