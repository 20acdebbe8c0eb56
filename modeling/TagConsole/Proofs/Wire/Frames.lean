import Mathlib.Data.Nat.Digits.Lemmas
import TagConsole.Wire.Command
import TagConsole.Wire.Reply

/-!
Frames lose nothing. What a command was can be read off its frame, and a reply is its frame cut behind the first byte.
-/

namespace TagConsole.Wire

def header (frame : Frame) : Nat := Nat.ofDigits 256 ((frame.take 4).map UInt8.toNat).reverse

section Header

variable {frame other : Frame} {opcode : UInt32} {payload : List UInt8}

theorem header_four (a b c d : UInt8) (payload : List UInt8) : header (a :: b :: c :: d :: payload) =
    ((a.toNat * 256 + b.toNat) * 256 + c.toNat) * 256 + d.toNat := by
  simp only [header, List.take_succ_cons, List.take_zero, List.map_cons, List.map_nil, List.reverse_cons,
    List.reverse_nil, List.nil_append, List.cons_append, Nat.ofDigits_cons, Nat.ofDigits_nil]
  omega

theorem digits_lt (bytes : List UInt8) : ∀ n ∈ (bytes.map UInt8.toNat).reverse, n < 256 := by
  intro n member
  obtain ⟨b, -, rfl⟩ := List.mem_map.mp (List.mem_reverse.mp member)
  exact b.toNat_lt

theorem header_lt (frame : Frame) : header frame < 2 ^ 32 := by
  have few : ((frame.take 4).map UInt8.toNat).reverse.length ≤ 4 := by simp
  have bound := Nat.ofDigits_lt_base_pow_length (by decide) (digits_lt (frame.take 4))
  exact bound.trans_le (Nat.pow_le_pow_right (by decide) few)

theorem eq_of_header (long : 4 ≤ frame.length) (long' : 4 ≤ other.length) (same : header frame = header other)
    (rest : frame.drop 4 = other.drop 4) : frame = other := by
  have digits := Nat.ofDigits_inj_of_len_eq (by decide) (by simp [long, long']) (digits_lt _) (digits_lt _) same
  have first := List.map_injective_iff.mpr (fun _ _ => UInt8.toNat_inj.mp) (List.reverse_inj.mp digits)
  rw [← List.take_append_drop 4 frame, first, rest, List.take_append_drop]

theorem length_encode (opcode : UInt32) (payload : List UInt8) : 4 ≤ (encode opcode payload).length := by
  simp [encode, bigEndian]

theorem drop_encode (opcode : UInt32) (payload : List UInt8) : (encode opcode payload).drop 4 = payload := rfl

theorem header_encode (opcode : UInt32) (payload : List UInt8) : header (encode opcode payload) = opcode.toNat := by
  have size := opcode.toNat_lt
  simp only [encode, bigEndian, List.cons_append, List.nil_append, header_four, UInt32.toNat_toUInt8,
    UInt32.toNat_shiftRight, Nat.shiftRight_eq_div_pow]
  simp
  omega

theorem encode_eq_iff : encode opcode payload = frame ↔
    4 ≤ frame.length ∧ header frame = opcode.toNat ∧ frame.drop 4 = payload := by
  constructor
  · rintro rfl
    exact ⟨length_encode _ _, header_encode _ _, drop_encode _ _⟩
  · rintro ⟨long, same, rfl⟩
    exact eq_of_header (length_encode _ _) long ((header_encode _ _).trans same.symm) (drop_encode _ _)

end Header

section Command

variable {frame : Frame} {command : Command}

theorem Opcode.ofCode?_eq_some {code : UInt32} {opcode : Opcode} : ofCode? code = some opcode ↔ opcode.code = code := by
  constructor
  · intro found
    simpa using List.find?_some found
  · rintro rfl
    cases opcode <;> rfl

theorem Opcode.code_injective : Function.Injective code := by
  intro opcode other same
  have found := ofCode?_eq_some.mpr same
  rw [ofCode?_eq_some.mpr rfl] at found
  exact (Option.some.inj found).symm

theorem Command.header_eq_iff {opcode : Opcode} : header command.frame = opcode.code.toNat ↔ command.opcode = opcode := by
  rw [Command.frame, header_encode, UInt32.toNat_inj, Opcode.code_injective.eq_iff]

theorem Command.frame_setSlot (payload : List UInt8) :
    Command.frame ⟨.setSlot, payload⟩ = [0x00, 0x00, 0x10, 0x01] ++ payload := by
  have code : bigEndian 0x1001 = [0x00, 0x00, 0x10, 0x01] := by decide
  exact congrArg (· ++ payload) code

theorem Command.frame_eq_iff : command.frame = frame ↔ 4 ≤ frame.length ∧
    Opcode.ofCode? (UInt32.ofNat (header frame)) = some command.opcode ∧ frame.drop 4 = command.payload := by
  rw [Command.frame, encode_eq_iff, Opcode.ofCode?_eq_some, ← UInt32.toNat_inj, UInt32.toNat_ofNat']
  refine and_congr_right fun _ => and_congr_left fun _ => ?_
  rw [Nat.mod_eq_of_lt (header_lt frame), eq_comm]

end Command

section Reply

variable {frame : Frame} {reply : Reply}

theorem Reply.ofFrame?_eq_none : Reply.ofFrame? frame = none ↔ frame = [] := by
  cases frame <;> simp [Reply.ofFrame?]

theorem Reply.ofFrame?_eq_some : Reply.ofFrame? frame = some reply ↔ reply.status :: reply.payload = frame := by
  cases frame with
  | nil => simp [Reply.ofFrame?]
  | cons status payload =>
    rw [Reply.ofFrame?, Option.some.injEq, List.cons.injEq, eq_comm (a := reply.status), eq_comm (a := reply.payload)]
    constructor
    · rintro rfl
      exact ⟨rfl, rfl⟩
    · rintro ⟨rfl, rfl⟩
      rfl

end Reply

/-- What is on the wire is all that was meant. -/
structure Lossless : Prop where
  encoded : ∀ opcode payload, header (encode opcode payload) = opcode.toNat ∧ (encode opcode payload).drop 4 = payload
  encode_injective : Function.Injective2 encode
  opcode : ∀ command : Command, Opcode.ofCode? (UInt32.ofNat (header command.frame)) = some command.opcode ∧
    command.frame.drop 4 = command.payload
  frame_injective : Function.Injective Command.frame
  /-- The frames of a command are those with its opcode in front, looked up in the registry. -/
  frames : ∀ (command : Command) (frame : Frame), command.frame = frame ↔ 4 ≤ frame.length ∧
    Opcode.ofCode? (UInt32.ofNat (header frame)) = some command.opcode ∧ frame.drop 4 = command.payload
  empty : ∀ frame, Reply.ofFrame? frame = none ↔ frame = []
  decoded : ∀ frame reply, Reply.ofFrame? frame = some reply ↔ reply.status :: reply.payload = frame
  ofFrame_injective : Function.Injective Reply.ofFrame?
  isOk : ∀ frame, (∃ reply, Reply.ofFrame? frame = some reply ∧ reply.isOk = true) ↔ ∃ payload, frame = 0 :: payload

theorem frames_lossless : Lossless where
  encoded opcode payload := ⟨header_encode opcode payload, drop_encode opcode payload⟩
  encode_injective opcode other payload payload' same := by
    obtain ⟨-, number, rest⟩ := encode_eq_iff.mp same
    exact ⟨UInt32.toNat_inj.mp (number.symm.trans (header_encode _ _)), rest.symm⟩
  opcode command := (Command.frame_eq_iff.mp rfl).2
  frame_injective command other same := by
    obtain ⟨opcode, payload⟩ := command
    obtain ⟨-, known, rest⟩ := Command.frame_eq_iff.mp same
    obtain ⟨-, known', rest'⟩ := (@Command.frame_eq_iff _ other).mp rfl
    cases known.symm.trans known'
    cases rest.symm.trans rest'
    rfl
  frames command frame := Command.frame_eq_iff
  empty frame := Reply.ofFrame?_eq_none
  decoded frame reply := Reply.ofFrame?_eq_some
  ofFrame_injective frame other same := by
    cases found : Reply.ofFrame? frame with
    | none => rw [Reply.ofFrame?_eq_none.mp found, Reply.ofFrame?_eq_none.mp (same.symm.trans found)]
    | some reply => rw [← Reply.ofFrame?_eq_some.mp found, ← Reply.ofFrame?_eq_some.mp (same.symm.trans found)]
  isOk frame := by
    constructor
    · rintro ⟨reply, found, ok⟩
      have status : reply.status = 0 := eq_of_beq ok
      exact ⟨reply.payload, by rw [← Reply.ofFrame?_eq_some.mp found, status]⟩
    · rintro ⟨payload, rfl⟩
      exact ⟨⟨0, payload⟩, rfl, rfl⟩

end TagConsole.Wire
