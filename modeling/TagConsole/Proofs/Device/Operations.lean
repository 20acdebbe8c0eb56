import TagConsole.Device.Session
import TagConsole.Proofs.Session.Errands
import TagConsole.Proofs.Text.Hex
import TagConsole.Proofs.Wire.Slots

/-!
Typed operations. Each of them is the command that it carries, sent with the deadline of the opcode, and a reading of
what comes of that.
-/

namespace TagConsole.Device

open Wire (Command Frame Opcode Reply Slot)
open Session (Outcome)

namespace Operation

inductive Carries : Operation → Command → Prop where
  | getVersion : Carries .getVersion ⟨.getVersion, []⟩
  | scanTags : Carries .scanTags ⟨.scanTag, []⟩
  | setSlot {n : Nat} (small : n ≤ 7) : Carries (.setSlot n) ⟨.setSlot, [UInt8.ofNat n]⟩
  | getSlot : Carries .getSlot ⟨.getSlot, []⟩
  | setUid {text uid} (nonempty : uid ≠ [])
      (spelled : (Text.trim text).toList.map Char.toLower = uid.flatMap Hex.encodeByte) :
      Carries (.setUid text) ⟨.setUid, uid⟩
  | setSak {sak} : Carries (.setSak sak) ⟨.setSak, [sak]⟩
  | setAtqa {first second} : Carries (.setAtqa first second) ⟨.setAtqa, [first, second]⟩
  | startEmulation : Carries .startEmulation ⟨.startEmulation, []⟩
  | stopEmulation : Carries .stopEmulation ⟨.stopEmulation, []⟩

def IsTyped : Operation → Prop
  | sendRaw _ | execute _ _ => False
  | _ => True

def IsSetter : Operation → Prop
  | setSlot _ | setUid _ | setSak _ | setAtqa _ _ | startEmulation | stopEmulation => True
  | _ => False

inductive Means : Operation → List UInt8 → Except Error Result → Prop where
  | version {payload} : Means .getVersion payload (.ok (.text (Text.ofUtf8Lossy payload)))
  | noTag : Means .scanTags [] (.ok (.tags []))
  | tag {payload digits} (nonempty : payload ≠ []) (spelled : digits.toList = payload.flatMap Hex.encodeByte)
      (decoded : Hex.decode digits = some payload) :
      Means .scanTags payload (.ok (.tags ["Card found: " ++ digits]))
  | slot {n : UInt8} {rest slot} (number : slot.number = n) : Means .getSlot (n :: rest) (.ok (.slot slot))
  | largeSlot {n : UInt8} {rest} (large : 7 < n) :
      Means .getSlot (n :: rest) (.error (.malformedReply .getSlot (Slot.Error.outOfRange n.toNat).message))
  | noSlot : Means .getSlot [] (.error (.malformedReply .getSlot "empty payload"))
  | done {operation payload} (setter : operation.IsSetter) : Means operation payload (.ok .done)

/-- How an operation reads what comes of its command alone. -/
inductive Reads (operation : Operation) (command : Command) : Except Error Result → Except Error Result → Prop where
  | failed {error} : Reads operation command (.error error) (.error error)
  | accepted {payload result} (means : operation.Means payload result) :
      Reads operation command (.ok (.reply ⟨0, payload⟩)) result
  | rejected {status payload} (bad : status ≠ 0) : Reads operation command (.ok (.reply ⟨status, payload⟩))
      (.error (.rejected command.opcode (Reply.label ⟨status, payload⟩)))

section Carries

variable {operation : Operation} {command : Command}

theorem readUid_eq_ok {text : String} {uid : List UInt8} : readUid text = .ok uid ↔ uid ≠ [] ∧
    (Text.trim text).toList.map Char.toLower = uid.flatMap Hex.encodeByte := by
  rw [← Hex.decodeChars_eq_some]
  unfold readUid Hex.decode
  constructor
  · intro read
    split at read
    · rename_i byte bytes decoded
      cases read
      exact ⟨List.cons_ne_nil byte bytes, decoded⟩
    · cases read
  · rintro ⟨nonempty, decoded⟩
    obtain ⟨byte, bytes, rfl⟩ := List.exists_cons_of_ne_nil nonempty
    rw [decoded]

theorem Carries.request_eq (carries : operation.Carries command) (deadlines : Config.DeviceSection) :
    operation.request deadlines = .ok ⟨command.frame, deadlines.deadline command.opcode⟩ := by
  cases carries with
  | @setSlot n small =>
    obtain ⟨slot, number, value⟩ := Slot.exists_of_le small
    have read : Slot.ofInt n = .ok slot := Slot.ofInt_eq_ok.mpr (by rw [value])
    simp only [request, read, Command.setSlot, number]
    rfl
  | setUid nonempty spelled =>
    simp only [request, readUid_eq_ok.mpr ⟨nonempty, spelled⟩]
    rfl
  | _ => rfl

theorem IsTyped.carries (typed : operation.IsTyped) {deadlines : Config.DeviceSection} {request : Request}
    (accepted : operation.request deadlines = .ok request) : ∃ command, operation.Carries command := by
  cases operation with
  | getVersion => exact ⟨_, .getVersion⟩
  | scanTags => exact ⟨_, .scanTags⟩
  | setSlot n =>
    simp only [Operation.request] at accepted
    split at accepted
    · rename_i slot read
      rw [Slot.ofInt_eq_ok.mp read]
      exact ⟨_, .setSlot slot.number_le⟩
    · cases accepted
  | getSlot => exact ⟨_, .getSlot⟩
  | setUid text =>
    simp only [Operation.request] at accepted
    split at accepted
    · rename_i uid read
      obtain ⟨nonempty, spelled⟩ := readUid_eq_ok.mp read
      exact ⟨_, .setUid nonempty spelled⟩
    · cases accepted
  | setSak sak => exact ⟨_, .setSak⟩
  | setAtqa first second => exact ⟨_, .setAtqa⟩
  | startEmulation => exact ⟨_, .startEmulation⟩
  | stopEmulation => exact ⟨_, .stopEmulation⟩
  | sendRaw frame => exact typed.elim
  | execute command timeout => exact typed.elim

theorem Means.unique {payload : List UInt8} {result result' : Except Error Result}
    (means : operation.Means payload result) (means' : operation.Means payload result') : result = result' := by
  cases means with
  | version =>
    cases means' with
    | version => rfl
    | done setter => cases setter
  | noTag =>
    cases means' with
    | noTag => rfl
    | tag nonempty => exact absurd rfl nonempty
    | done setter => cases setter
  | tag nonempty spelled =>
    cases means' with
    | noTag => exact absurd rfl nonempty
    | tag _ spelled' => rw [String.toList_inj.mp (spelled.trans spelled'.symm)]
    | done setter => cases setter
  | @slot n rest slot number =>
    have bound : n ≤ 7 := number ▸ slot.number_le
    cases means' with
    | @slot _ _ slot' number' =>
      obtain ⟨_, _⟩ := slot
      obtain ⟨_, _⟩ := slot'
      cases number
      cases number'
      rfl
    | largeSlot large => exact absurd bound (UInt8.not_le.mpr large)
    | done setter => cases setter
  | @largeSlot n rest large =>
    cases means' with
    | @slot _ _ slot' number' => exact absurd (number' ▸ slot'.number_le) (UInt8.not_le.mpr large)
    | largeSlot => rfl
    | done setter => cases setter
  | noSlot =>
    cases means' with
    | noSlot => rfl
    | done setter => cases setter
  | done setter =>
    cases means' with
    | done => rfl
    | _ => cases setter

theorem Reads.unique {generic result result' : Except Error Result} (reads : operation.Reads command generic result)
    (reads' : operation.Reads command generic result') : result = result' := by
  cases reads with
  | failed =>
    cases reads'
    rfl
  | accepted means =>
    cases reads' with
    | accepted means' => exact means.unique means'
    | rejected bad => exact absurd rfl bad
  | rejected bad =>
    cases reads' with
    | accepted => exact absurd rfl bad
    | rejected => rfl

theorem interpret_rejected (carries : operation.Carries command) {status : UInt8} (bad : status ≠ 0)
    (payload : List UInt8) : operation.interpret (status :: payload) =
      .error (.rejected command.opcode (Reply.label ⟨status, payload⟩)) := by
  have refuses (opcode : Opcode) : accept opcode ⟨status, payload⟩ =
      .error (.rejected opcode (Reply.label ⟨status, payload⟩)) := by
    simp [accept, Reply.isOk, Wire.Status.byte, bad]
  cases carries
  all_goals
    change Except.bind (accept _ ⟨status, payload⟩) _ = _
    rw [refuses]
    rfl

theorem interpret_accepted (carries : operation.Carries command) (payload : List UInt8) :
    operation.Means payload (operation.interpret (0 :: payload)) := by
  cases carries with
  | getVersion => exact .version
  | scanTags =>
    cases payload with
    | nil => exact .noTag
    | cons byte bytes =>
      refine .tag (List.cons_ne_nil byte bytes) String.toList_ofList ?_
      rw [Hex.decode, Hex.encode, String.toList_ofList, Hex.decodeChars_encode]
  | getSlot =>
    cases payload with
    | nil => exact .noSlot
    | cons byte bytes =>
      change Means _ _ (((Slot.ofByte byte).mapError _).bind _)
      by_cases small : byte ≤ Wire.lastSlot
      · rw [Slot.ofByte, dif_pos small]
        exact .slot rfl
      · rw [Slot.ofByte, dif_neg small]
        exact .largeSlot (UInt8.not_le.mp small)
  | _ => exact .done trivial

theorem Carries.reads (carries : operation.Carries command) (timeout : Nat) (outcome : Outcome) :
    operation.Reads command ((Operation.execute command timeout).conclude outcome) (operation.conclude outcome) := by
  cases outcome with
  | done => exact .failed
  | failed error => exact .failed
  | reply frame =>
    cases frame with
    | nil => exact .failed
    | cons status payload =>
      by_cases good : status = 0
      · subst good
        exact .accepted (interpret_accepted carries payload)
      · have rejected := interpret_rejected carries good payload
        rw [conclude, conclude, rejected]
        exact .rejected good

end Carries

def generic (command : Command) (deadlines : Config.DeviceSection) : Operation :=
  .execute command (deadlines.deadline command.opcode)

inductive Answered : Outcome → Except Error Result → Prop where
  | failed {error} : Answered (.failed error) (.error (.session error))
  | emptyReply : Answered (.reply []) (.error .emptyReply)
  | reply {status payload} : Answered (.reply (status :: payload)) (.ok (.reply ⟨status, payload⟩))

/-- An operation is its command sent by itself, and a reading of what comes of that. -/
structure Agrees (s : Session) (operation : Operation) (command : Command) : Prop where
  request : ∀ deadlines, operation.request deadlines = .ok ⟨command.frame, deadlines.deadline command.opcode⟩ ∧
    (generic command deadlines).request deadlines = operation.request deadlines
  /-- Whatever else happens meanwhile, both take the same steps. -/
  runs : ∀ deadlines past s' result, (operation.errand deadlines).Runs s past s' result ↔
    ∃ answer, ((generic command deadlines).errand deadlines).Runs s past s' answer ∧
      operation.Reads command answer result
  answered : ∀ deadlines past s' answer, ((generic command deadlines).errand deadlines).Runs s past s' answer →
    ∃ outcome, s'.call? s.nextCall = some (.ended outcome) ∧ Answered outcome answer ∧
      if s.isConnected then outcome.Returned (deadlines.deadline command.opcode) else outcome = .failed .notConnected
  read : ∀ outcome answer, Answered outcome answer → ∃! result, operation.Reads command answer result
  finishes : ∀ (deadlines : Config.DeviceSection) (actions later : List Session.Action) (s' : Session),
    actions = .begin (.request command.frame (deadlines.deadline command.opcode)) :: later →
    s.run actions = some s' → (∀ m ∈ s.moments actions, m.action ≠ .cancel s.nextCall) → s'.Finishes s.nextCall
  performed : (Device.run operation s).2 = (Device.run (generic command s.config.device) s).2 ∧
    operation.Reads command (Device.run (generic command s.config.device) s).1 (Device.run operation s).1
  executed : ∃ past t, (operation.errand s.config.device).Runs s past t (Device.run operation s).1 ∧
    (Device.run operation s).2 = t.dropCall s.nextCall

section Agrees

variable {s s' : Session} {operation : Operation} {command : Command} {past : List Session.Moment}

theorem Carries.errand_eq (carries : operation.Carries command) (deadlines : Config.DeviceSection) :
    operation.errand deadlines = .call (.request command.frame (deadlines.deadline command.opcode))
      fun outcome _ => operation.conclude outcome := by
  rw [Operation.errand, carries.request_eq]

theorem IsTyped.asks (typed : operation.IsTyped) (deadlines : Config.DeviceSection) (asked : Session.Operation) :
    (operation.errand deadlines).operation? = some asked ↔ ∃ command, operation.Carries command ∧
      asked = .request command.frame (deadlines.deadline command.opcode) := by
  rw [Session.Errand.operation?_eq_some]
  constructor
  · rintro ⟨conclude, call⟩
    cases accepted : operation.request deadlines with
    | error error =>
      rw [Operation.errand, accepted] at call
      cases call
    | ok request =>
      obtain ⟨command, carries⟩ := typed.carries accepted
      cases (carries.errand_eq deadlines).symm.trans call
      exact ⟨command, carries, rfl⟩
  · rintro ⟨command, carries, rfl⟩
    exact ⟨_, carries.errand_eq deadlines⟩

theorem generic_errand (command : Command) (deadlines : Config.DeviceSection) :
    (generic command deadlines).errand deadlines =
      .call (.request command.frame (deadlines.deadline command.opcode))
        fun outcome _ => (generic command deadlines).conclude outcome := rfl

theorem answered_of_reply (deadlines : Config.DeviceSection) (frame : Frame) :
    Answered (.reply frame) ((generic command deadlines).conclude (.reply frame)) := by
  cases frame with
  | nil => exact .emptyReply
  | cons status payload => exact .reply

theorem generic_answered {deadlines : Config.DeviceSection} {answer : Except Error Result} (sound : s.Sound)
    (runs : ((generic command deadlines).errand deadlines).Runs s past s' answer) :
    ∃ outcome, s'.call? s.nextCall = some (.ended outcome) ∧ Answered outcome answer ∧
      if s.isConnected then outcome.Returned (deadlines.deadline command.opcode)
      else outcome = .failed .notConnected := by
  rw [generic_errand] at runs
  cases runs with
  | alone done => cases done
  | @calls _ _ _ _ outcome call run ended =>
    cases call
    have fate := Session.request_ended sound run ended
    refine ⟨outcome, ended, ?_, fate⟩
    cases outcome with
    | reply frame => exact answered_of_reply deadlines frame
    | failed error => exact .failed
    | done =>
      -- A request is never over without a reply or a failure.
      split at fate
      · cases fate
      · cases fate

theorem errand_blind (operation : Operation) (deadlines : Config.DeviceSection) :
    (operation.errand deadlines).IsBlind := by
  intro asked conclude call outcome t t'
  unfold Operation.errand at call
  split at call
  · cases call
  · cases call
    rfl

theorem Carries.agrees (carries : operation.Carries command) (well : s.Well) : Agrees s operation command := by
  have sound := well.sound
  constructor
  case request => exact fun deadlines => ⟨carries.request_eq deadlines, (carries.request_eq deadlines).symm⟩
  case runs =>
    intro deadlines past s' result
    rw [carries.errand_eq, generic_errand]
    exact Session.Errand.call_runs_iff (fun outcome _ => carries.reads _ outcome) fun _ _ _ => Reads.unique
  case answered => exact fun deadlines past s' answer runs => generic_answered sound runs
  case read =>
    intro outcome answer answered
    have exactly (result) (reads : operation.Reads command answer result) :
        ∃! result, operation.Reads command answer result := ⟨result, reads, fun _ reads' => reads'.unique reads⟩
    cases answered with
    | failed => exact exactly _ .failed
    | emptyReply => exact exactly _ .failed
    | @reply status payload => exact exactly _ (carries.reads 0 (.reply (status :: payload)))
  case finishes =>
    rintro deadlines _ later s' rfl run kept
    exact Session.request_can_end sound run kept
  case performed =>
    rw [Device.run, Device.run, carries.errand_eq, generic_errand]
    exact ⟨rfl, carries.reads _ _⟩
  case executed => exact Session.Errand.complete_runs well _ (operation.errand_blind s.config.device)

end Agrees

end Operation

end TagConsole.Device
