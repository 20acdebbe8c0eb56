import TagConsole.Proofs.Device.Operations
import TagConsole.Proofs.Text.Words
import TagConsole.Proofs.Wire.Frames

/-!
Arguments that are checked. An operation whose argument does not fit is over before it does anything, and any other one
makes one request.
-/

namespace TagConsole.Device

open Wire (Command Frame Slot)
open Session (Moment Outcome)

def IsUid (text : String) : Prop := ∃ digits, Text.Trims text.toList digits ∧ digits ≠ [] ∧ digits.length % 2 = 0 ∧
  ∀ c ∈ digits, ∃ n, Hex.IsDigit c n

namespace Operation

inductive Misfits : Operation → Error → Prop where
  | slot {n} (outside : n < 0 ∨ 7 < n) : Misfits (.setSlot n) (.invalidSlot (.outOfRange n))
  | uid {text} (garbled : ¬ IsUid text) : Misfits (.setUid text) (.invalidUid text)

inductive Asks : Operation → Frame → Prop where
  | slot {n : Nat} (small : n ≤ 7) : Asks (.setSlot n) [0x00, 0x00, 0x10, 0x01, UInt8.ofNat n]
  | uid {text digits uid} (trims : Text.Trims text.toList digits) (spells : Hex.Spells digits uid)
      (nonempty : uid ≠ []) : Asks (.setUid text) ([0x00, 0x00, 0x30, 0x02] ++ uid)

section Arguments

variable {operation : Operation} {command : Command} {error : Error} {frame : Frame} {text : String} {uid : List UInt8}

theorem readUid_eq_ok_iff_spells :
    readUid text = .ok uid ↔ uid ≠ [] ∧ ∃ digits, Text.Trims text.toList digits ∧ Hex.Spells digits uid := by
  rw [readUid_eq_ok, ← Hex.decodeChars_eq_some, Hex.decodeChars_eq_some_iff_spells, Text.trim, String.toList_ofList]
  simp only [← Text.trimChars_eq_iff, exists_eq_left']

theorem isUid_iff : IsUid text ↔ ∃ uid, readUid text = .ok uid := by
  simp only [readUid_eq_ok_iff_spells]
  constructor
  · rintro ⟨digits, trims, nonempty, pairs⟩
    obtain ⟨uid, spells⟩ := Hex.exists_spells_iff.mpr pairs
    exact ⟨uid, spells.ne_nil_iff.mp nonempty, digits, trims, spells⟩
  · rintro ⟨uid, nonempty, digits, trims, spells⟩
    exact ⟨digits, trims, spells.ne_nil_iff.mpr nonempty, Hex.exists_spells_iff.mp ⟨uid, spells⟩⟩

theorem readUid_eq_error : readUid text = .error error ↔ ¬ IsUid text ∧ error = .invalidUid text := by
  have told (error : Error) (refused : readUid text = .error error) : error = .invalidUid text := by
    unfold readUid at refused
    split at refused
    · cases refused
    · cases refused
      rfl
  rw [isUid_iff]
  exact eq_error_iff_of_only told

theorem request_eq_error {deadlines : Config.DeviceSection} :
    operation.request deadlines = .error error ↔ operation.Misfits error := by
  constructor
  · intro refused
    cases operation with
    | setSlot n =>
      simp only [Operation.request] at refused
      split at refused
      · cases refused
      · rename_i read
        cases refused
        obtain ⟨outside, rfl⟩ := Slot.ofInt_eq_error.mp read
        exact .slot outside
    | setUid text =>
      simp only [Operation.request] at refused
      split at refused
      · cases refused
      · rename_i read
        cases refused
        obtain ⟨garbled, rfl⟩ := readUid_eq_error.mp read
        exact .uid garbled
    | _ => cases refused
  · intro misfits
    cases misfits with
    | slot outside => simp only [Operation.request, Slot.ofInt_eq_error.mpr ⟨outside, rfl⟩]
    | uid garbled => simp only [Operation.request, readUid_eq_error.mpr ⟨garbled, rfl⟩]

theorem Asks.carries (asks : operation.Asks frame) : ∃ command, operation.Carries command ∧ command.frame = frame ∧
    ∀ deadlines : Config.DeviceSection, deadlines.deadline command.opcode = deadlines.set := by
  cases asks with
  | @slot n small =>
    exact ⟨_, .setSlot small, Command.frame_setSlot [UInt8.ofNat n], fun _ => rfl⟩
  | @uid _ _ uid trims spells nonempty =>
    have code : Wire.bigEndian 0x3002 = [0x00, 0x00, 0x30, 0x02] := by decide
    have whole : Command.frame ⟨.setUid, uid⟩ = Wire.bigEndian 0x3002 ++ uid := rfl
    have read := readUid_eq_ok.mp (readUid_eq_ok_iff_spells.mpr ⟨nonempty, _, trims, spells⟩)
    exact ⟨_, .setUid read.1 read.2, by rw [whole, code], fun _ => rfl⟩

end Arguments

end Operation

section Checked

variable {s s' : Session} {operation : Operation} {error : Error}

theorem Operation.Misfits.errand_eq (misfits : operation.Misfits error) (deadlines : Config.DeviceSection) :
    operation.errand deadlines = .done (.error error) := by
  rw [Operation.errand, Operation.request_eq_error.mpr misfits]

end Checked

end TagConsole.Device
