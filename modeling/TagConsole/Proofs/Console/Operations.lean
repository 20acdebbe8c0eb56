import TagConsole.Proofs.Console.Delivery
import TagConsole.Proofs.Device.Operations
import TagConsole.Proofs.Dialect.Grammar

/-!
Typed lines that stand for an operation. Where a link is in use they ask for the same request, so that a line writes
the frame of its operation and waits as long for the reply.
-/

namespace TagConsole.Console

open Device (Operation)
open Dialect (Phrase translated?)

/-- The lines that do what an operation does. -/
inductive Twins : String → Operation → Prop where
  | version : Twins "hw version" .getVersion
  | search : Twins "hf search" .scanTags
  | slot (n : Int) : Twins ("data setslot " ++ toString n) (.setSlot n)

structure Alike (console : Console) (s : Session) (line : String) (operation : Operation) : Prop where
  command : ∀ command, translated? line = some command ↔ operation.Carries command
  asks : s.isConnected = true → ∀ asked, (console.errand s line).operation? = some asked ↔ ∃ command,
    operation.Carries command ∧ asked = .request command.frame (s.config.device.deadline command.opcode)
  same : s.isConnected = true → (console.errand s line).operation? = (operation.errand s.config.device).operation?
  /-- Whatever else happens meanwhile, both take the same steps. -/
  runs : s.isConnected = true → ∀ past s', (∃ result, Runs console s line past s' result) ↔
    ∃ result, (operation.errand s.config.device).Runs s past s' result
  closed : s.isConnected = false → (console.errand s line).operation? = none ∧ ∀ frame timeout,
    (operation.errand s.config.device).operation? = some (.request frame timeout) →
      (s.begin (.request frame timeout)).call? s.nextCall = some (.ended (.failed .notConnected)) ∧
        (s.begin (.request frame timeout)).bus = s.bus

section Twins

variable {console : Console} {s s' : Session} {line : String} {operation : Operation} {command : Wire.Command}

theorem words_setSlot (n : Int) : Text.words ("data setslot " ++ toString n) = ["data", "setslot", toString n] := by
  have joined : Text.unwords ["data", "setslot", toString n] = "data setslot " ++ toString n := by
    simp [Text.unwords, ← String.toList_inj]
  have plain (word : String) (none : word.toList.any Text.isBlank = false) : ∀ c ∈ word.toList, Text.isBlank c = false :=
    fun c member => Bool.eq_false_iff.mpr (List.any_eq_false.mp none c member)
  rw [← joined, Text.words_unwords]
  rw [List.forall_mem_cons, List.forall_mem_cons, List.forall_mem_singleton]
  exact ⟨⟨by decide, plain "data" (by decide)⟩, ⟨by decide, plain "setslot" (by decide)⟩,
    (Text.isNumeral_toString n).visible⟩

theorem ofLine?_setSlot (n : Int) :
    Phrase.ofLine? ("data setslot " ++ toString n) = some ⟨"data", ["setslot", toString n]⟩ := by
  have small : Text.lower "data" = "data" := by decide +kernel
  rw [Phrase.ofLine?, words_setSlot]
  simp only [small]

theorem Twins.isTyped (twins : Twins line operation) : operation.IsTyped := by
  cases twins with
  | version => trivial
  | search => trivial
  | slot => trivial

theorem Twins.translated (twins : Twins line operation) : translated? line = some command ↔ operation.Carries command := by
  cases twins with
  | version =>
    rw [show translated? "hw version" = some ⟨.getVersion, []⟩ by decide +kernel]
    constructor
    · rintro ⟨⟩
      exact .getVersion
    · rintro ⟨⟩
      rfl
  | search =>
    rw [show translated? "hf search" = some ⟨.scanTag, []⟩ by decide +kernel]
    constructor
    · rintro ⟨⟩
      exact .scanTags
    · rintro ⟨⟩
      rfl
  | slot n =>
    have reads (phrase : Phrase) : phrase.setSlot [toString n] = .ok command ↔ (Operation.setSlot n).Carries command := by
      rw [Phrase.setSlot_eq_ok]
      constructor
      · rintro ⟨_, _, m, ⟨⟩, numeral, small, rfl⟩
        rw [(Text.isNumeral_toString n).unique numeral]
        exact .setSlot small
      · rintro ⟨⟩
        exact ⟨_, _, _, rfl, Text.isNumeral_toString _, ‹_›, rfl⟩
    rw [← reads ⟨"data", ["setslot", toString n]⟩, Dialect.translated?_eq_some, ofLine?_setSlot]
    constructor
    · rintro ⟨phrase, ⟨⟩, ok⟩
      exact ok
    · exact fun ok => ⟨_, rfl, ok⟩

theorem Twins.alike (twins : Twins line operation) (tidy : s.Tidy) (console : Console) :
    Alike console s line operation := by
  have asks (asked : Session.Operation) : (console.errand s line).operation? = some asked ↔ ∃ command,
      operation.Carries command ∧ s.isConnected = true ∧
        asked = .request command.frame (s.config.device.deadline command.opcode) := by
    rw [Session.Errand.operation?_eq_some, calls_iff]
    exact exists_congr fun command => and_congr_left fun _ => twins.translated
  have same (isOpen : s.isConnected = true) :
      (console.errand s line).operation? = (operation.errand s.config.device).operation? := by
    refine Option.ext fun asked => ?_
    rw [asks, twins.isTyped.asks]
    simp [isOpen]
  constructor
  case command => exact fun command => twins.translated
  case asks =>
    intro isOpen asked
    rw [asks]
    simp [isOpen]
  case same => exact same
  case runs =>
    intro isOpen past s'
    simp only [runs_iff_errand]
    exact ⟨Session.Errand.runs_congr (same isOpen), Session.Errand.runs_congr (same isOpen).symm⟩
  case closed =>
    intro closed
    refine ⟨?_, fun frame timeout _ => Session.begin_refused tidy closed frame timeout⟩
    rw [Option.eq_none_iff_forall_ne_some]
    intro asked same
    obtain ⟨-, -, isOpen, -⟩ := (asks asked).mp same
    simp [closed] at isOpen

end Twins

structure OperationsAgree (s : Session) : Prop where
  accepted : ∀ (operation : Operation) (deadlines : Config.DeviceSection), operation.IsTyped →
    ((∃ request, operation.request deadlines = .ok request) ↔ ∃ command, operation.Carries command)
  agrees : ∀ operation command, operation.Carries command → Operation.Agrees s operation command
  alike : ∀ console line operation, Twins line operation → Alike console s line operation

/-- In every session that can come about, typed operations agree with their commands and with their lines. -/
theorem operations_agree {config : Config} {bus : Link.Bus} {actions : List Session.Action} {s : Session}
    (run : (Session.fresh config bus).run actions = some s) : OperationsAgree s where
  accepted _ deadlines typed :=
    ⟨fun ⟨_, accepted⟩ => typed.carries accepted, fun ⟨_, carries⟩ => ⟨_, carries.request_eq deadlines⟩⟩
  agrees _ _ carries := carries.agrees (Session.well_of_run run)
  alike console _ _ twins := twins.alike (Session.sound_of_run run).tidy console

theorem operations_agree_slot : ∃ bus actions s past s', (Session.fresh {} bus).run actions = some s ∧
    (Operation.getSlot.errand s.config.device).Runs s past s' (.ok (.slot ⟨3, by decide⟩)) ∧
    Session.received 0 (Session.ownSteps s.nextCall past) = [Wire.Command.getSlot.frame] ∧ OperationsAgree s := by
  let bus : Link.Bus := { devices := [.ofInfo ⟨"adapter", .usb, none⟩ (.always [0, 3]) []] }
  let actions : List Session.Action :=
    [.begin (.connect .usb none), .resume 0, .resume 0, .work 0, .resume 0]
  let asked : List Session.Action :=
    [.begin (.request Wire.Command.getSlot.frame 3000), .resume 1, .work 1, .read 0 0, .read 0 0, .read 0 0,
      .receive 1, .resume 1]
  have ends : ((Session.fresh {} bus).run actions).any (fun s => s.config.device.deadline .getSlot = 3000 ∧
      (s.run asked).any (fun s' => s'.outcome? s.nextCall = some (.reply [0, 3])) = true ∧
      Session.received 0 (Session.ownSteps s.nextCall (s.moments asked)) = [Wire.Command.getSlot.frame]) = true := by
    decide +kernel
  obtain ⟨s, run, ends⟩ := (Option.any_eq_true _ _).mp ends
  obtain ⟨deadline, ends, writes⟩ := of_decide_eq_true ends
  obtain ⟨s', run', ends⟩ := (Option.any_eq_true _ _).mp ends
  have ended := Session.call?_of_outcome? (of_decide_eq_true ends)
  have agree := operations_agree run
  have call : (Operation.generic .getSlot s.config.device).errand s.config.device = .call
      (.request Wire.Command.getSlot.frame 3000) fun outcome _ =>
        (Operation.generic .getSlot s.config.device).conclude outcome := by
    rw [← deadline]
    rfl
  have runs := Session.Errand.Runs.calls call run' ended
  have means : Operation.getSlot.Means [3] (.ok (.slot ⟨3, by decide⟩)) := .slot rfl
  have reads := ((agree.agrees _ _ .getSlot).runs s.config.device _ _ _).mpr ⟨_, runs, .accepted means⟩
  exact ⟨bus, actions, s, _, s', run, reads, writes, agree⟩

end TagConsole.Console
