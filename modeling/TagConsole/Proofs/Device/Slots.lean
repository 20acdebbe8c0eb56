import TagConsole.Proofs.Device.Operations
import TagConsole.Proofs.Dialect.Phrases
import TagConsole.Proofs.Wire.Frames

/-!
Slots from texts, numbers and bytes. All three agree on what is a slot, and so no frame can set one that is not there.
-/

namespace TagConsole.Device

open Dialect (translated?)
open Wire (Command Frame Opcode Slot header)

def SetsSlot (frame : Frame) : Prop := ∃ n : Nat, n ≤ 7 ∧ frame = [0x00, 0x00, 0x10, 0x01, UInt8.ofNat n]

theorem setsSlot_frame (slot : Slot) : SetsSlot (Command.setSlot slot).frame := by
  refine ⟨slot.number.toNat, slot.number_le, ?_⟩
  rw [UInt8.ofNat_toNat]
  exact Command.frame_setSlot [slot.number]

theorem Operation.Carries.setsSlot {operation : Operation} {command : Command} (carries : operation.Carries command)
    (sets : command.opcode = .setSlot) : SetsSlot command.frame := by
  cases carries with
  | @setSlot n small =>
    obtain ⟨slot, number, -⟩ := Slot.exists_of_le small
    rw [← number]
    exact setsSlot_frame slot
  | _ => cases sets

/-- How slots come about, and the frames that set them. -/
structure SlotsAgree : Prop where
  numbers : ∀ n : Nat, (∃ slot : Slot, slot.number.toNat = n) ↔ n ≤ 7
  text : ∀ (text : String) (n : Nat), (∃ slot, Slot.ofText text = .ok slot ∧ slot.number.toNat = n) ↔
    Text.IsNumeral text.toList n ∧ n ≤ 7
  outOfRange : ∀ text n, Slot.ofText text = .error (.outOfRange n) ↔
    Text.IsNumeral text.toList n ∧ (-2 ^ 63 ≤ n ∧ n < 2 ^ 63) ∧ ¬ (0 ≤ n ∧ n ≤ 7)
  notANumber : ∀ text told, Slot.ofText text = .error (.notANumber told) ↔
    (¬ ∃ n, Text.IsNumeral text.toList n ∧ -2 ^ 63 ≤ n ∧ n < 2 ^ 63) ∧ told = text
  zeros : ∀ (zeros : Nat) (slot : Slot), Slot.ofText (String.ofList (List.replicate zeros '0') ++ slot.text) = .ok slot
  minusZero : ∀ zeros : Nat, Slot.ofText ("-" ++ String.ofList (List.replicate (zeros + 1) '0')) = Slot.ofByte 0
  byte : ∀ b : UInt8, Slot.ofInt b.toNat = Slot.ofByte b ∧ Slot.ofText (toString b.toNat) = Slot.ofByte b
  lines : ∀ line command, translated? line = some command → header command.frame = Opcode.setSlot.code.toNat →
    SetsSlot command.frame
  /-- So does that of an operation, unless the caller brings the frame. -/
  operations : ∀ (operation : Operation) deadlines request, operation.IsTyped →
    operation.request deadlines = .ok request → header request.frame = Opcode.setSlot.code.toNat →
    SetsSlot request.frame

theorem slots_agree : SlotsAgree where
  numbers n := by
    constructor
    · rintro ⟨slot, rfl⟩
      exact slot.number_le
    · intro small
      obtain ⟨slot, -, value⟩ := Slot.exists_of_le small
      exact ⟨slot, value⟩
  text text n := by
    constructor
    · rintro ⟨slot, read, rfl⟩
      exact ⟨Slot.ofText_eq_ok.mp read, slot.number_le⟩
    · rintro ⟨numeral, small⟩
      obtain ⟨slot, -, value⟩ := Slot.exists_of_le small
      exact ⟨slot, Slot.ofText_eq_ok.mpr (by rwa [value]), value⟩
  outOfRange text n := by
    have outside : n < 0 ∨ 7 < n ↔ ¬ (0 ≤ n ∧ n ≤ 7) := by omega
    rw [Slot.ofText_eq_outOfRange, Text.inInt64_iff, outside]
  notANumber text told := by
    simp only [Slot.ofText_eq_notANumber, Text.inInt64_iff, not_exists, not_and]
  zeros := Slot.ofText_zeros
  minusZero := Slot.ofText_minusZero
  byte b := ⟨Slot.ofInt_toNat b, Slot.ofText_toString b⟩
  lines line command translated sets := by
    obtain ⟨phrase, -, ok⟩ := Dialect.translated?_eq_some.mp translated
    obtain ⟨slot, rfl⟩ := Dialect.Phrase.setSlot_of_command ok (Command.header_eq_iff.mp sets)
    exact setsSlot_frame slot
  operations operation deadlines request typed accepted sets := by
    obtain ⟨command, carries⟩ := typed.carries accepted
    cases accepted.symm.trans (carries.request_eq deadlines)
    exact carries.setsSlot (Command.header_eq_iff.mp sets)

end TagConsole.Device
