import TagConsole.Proofs.Console.Lines
import TagConsole.Proofs.Session.Errands

/-!
Typed lines on a session. A line reaches the device exactly if it stands for a command and a link is in use, and
the lines that it brings about say how far it came.
-/

namespace TagConsole.Console

open Dialect (Phrase translated?)
open Session (Moment ownSteps received)

/-- A line runs to its end on a session, while anything else may happen there. -/
inductive Runs (console : Console) (s : Session) (input : String) :
    List Moment → Session → Execution × Console → Prop where
  | alone {result} (done : console.errand s input = .done result) : Runs console s input [] s result
  | calls {operation conclude later s' outcome} (call : console.errand s input = .call operation conclude)
      (run : s.run (.begin operation :: later) = some s') (ended : s'.call? s.nextCall = some (.ended outcome)) :
      Runs console s input (s.moments (.begin operation :: later)) s' (conclude outcome s')

inductive Answered : Session.Outcome → Line → Prop where
  | reply {frame reply} (whole : Wire.Reply.ofFrame? frame = some reply) :
      Answered (.reply frame) ⟨.response, reply.render⟩
  | emptyReply {frame} (empty : Wire.Reply.ofFrame? frame = none) :
      Answered (.reply frame) ⟨.error, (Failure.ofDevice .emptyReply).message⟩
  | failed {error} : Answered (.failed error) ⟨.error, (Failure.ofDevice (.session error)).message⟩

section Errand

variable {console : Console} {s : Session} {input : String}

theorem answerLines_conclude (command : Wire.Command) {timeout : Nat} {outcome : Session.Outcome}
    (returned : outcome.Returned timeout) : ∃ line, Answered outcome line ∧
      answerLines (replyOf ((Device.Operation.execute command timeout).conclude outcome)) = [line] := by
  have failed (error : Session.Error) : failureLines (.ofDevice (.session error)) =
      [⟨.error, (Failure.ofDevice (.session error)).message⟩] := by
    cases error <;> rfl
  cases returned with
  | @reply frame =>
    rw [Device.Operation.conclude, Device.Operation.interpret]
    cases whole : Wire.Reply.ofFrame? frame with
    | some reply => exact ⟨_, .reply whole, rfl⟩
    | none => exact ⟨_, .emptyReply whole, rfl⟩
  | linkClosed => exact ⟨_, .failed, failed _⟩
  | send => exact ⟨_, .failed, failed _⟩
  | timeout => exact ⟨_, .failed, failed _⟩

inductive Asks (console : Console) (s : Session) (input : String) : Prop where
  | nothing {execution after} (done : console.errand s input = .done (execution, after))
      (entered : Entered console s.isConnected input (.done execution) after)
  | request {phrase : Phrase} {command : Wire.Command} (after : Console)
      (found : Phrase.ofLine? input = some phrase) (own : ownAnswer (Text.trim input) = none)
      (isOpen : s.isConnected = true) (ok : phrase.command = .ok command)
      (call : console.errand s input =
        .call (.request command.frame (s.config.device.deadline command.opcode)) fun outcome _ =>
          after.answer [console.echo input, executing phrase] (replyOf ((Device.Operation.execute command
            (s.config.device.deadline command.opcode)).conclude outcome)))

theorem asks (console : Console) (s : Session) (input : String) : Asks console s input := by
  rcases leads : console.enter s.isConnected input with ⟨step, after⟩
  have entered := entered leads
  cases step with
  | done execution => exact .nothing (by rw [errand, leads]) entered
  | request command lines =>
    cases entered with
    | @asks phrase _ found own isOpen ok =>
      refine .request ((console.noted input).display [executing phrase]) found own isOpen ok ?_
      rw [errand, leads]
      rfl

theorem calls_iff (operation : Session.Operation) :
    (∃ conclude, console.errand s input = .call operation conclude) ↔ ∃ command,
      translated? input = some command ∧ s.isConnected = true ∧
      operation = .request command.frame (s.config.device.deadline command.opcode) := by
  cases console.asks s input with
  | nothing done entered =>
    rw [done]
    refine iff_of_false (by simp) ?_
    rintro ⟨command, translated, isOpen, -⟩
    obtain ⟨phrase, found, ok⟩ := Dialect.translated?_eq_some.mp translated
    have own := ownAnswer_device found (Phrase.keyword_of_command ok)
    obtain ⟨failure, refused, -⟩ := entered.refused found own
    exact refused.not_command isOpen ok
  | request after found own isOpen ok call =>
    have translated := Dialect.translated?_eq_some.mpr ⟨_, found, ok⟩
    rw [call]
    constructor
    · rintro ⟨conclude, same⟩
      cases same
      exact ⟨_, translated, isOpen, rfl⟩
    · rintro ⟨command, translated', -, rfl⟩
      obtain rfl := Option.some.inj (translated'.symm.trans translated)
      exact ⟨_, rfl⟩

theorem runs_iff_errand {s' : Session} {past : List Moment} {result : Execution × Console} :
    Runs console s input past s' result ↔ (console.errand s input).Runs s past s' result := by
  constructor
  · intro runs
    cases runs with
    | alone done => exact .alone done
    | calls call run ended => exact .calls call run ended
  · intro runs
    cases runs with
    | alone done => exact .alone done
    | calls call run ended => exact .calls call run ended

theorem errand_blind (console : Console) (s : Session) (input : String) : (console.errand s input).IsBlind := by
  intro operation conclude call outcome t t'
  cases console.asks s input with
  | nothing done => cases done.symm.trans call
  | request _ _ _ _ _ call' =>
    cases call'.symm.trans call
    rfl

theorem execute_runs (well : s.Well) (console : Console) (input : String) : ∃ past t,
    Runs console s input past t ((console.execute s input).1, (console.execute s input).2.1) ∧
      (console.execute s input).2.2 = t.dropCall s.nextCall := by
  obtain ⟨past, t, runs, left⟩ := Session.Errand.complete_runs well (console.errand s input) (console.errand_blind s input)
  rcases whole : s.complete (console.errand s input) with ⟨⟨execution, after⟩, last⟩
  rw [whole] at runs left
  rw [show console.execute s input = (execution, after, last) by rw [execute, whole]]
  exact ⟨past, t, runs_iff_errand.mpr runs, left⟩

end Errand

structure Delivered (console : Console) (s : Session) (input : String) (past : List Moment) (s' : Session)
    (execution : Execution) : Prop where
  /-- A line that stands for no command or finds no link takes no step on the session. -/
  quiet : ¬ ((translated? input).isSome = true ∧ s.isConnected = true) → past = [] ∧ s' = s
  spares : ∀ m ∈ ownSteps s.nextCall past, m.Spares s.nextSeq
  withdrawn : s.nextSeq ∉ s'.waiters
  unwritten : (¬ ∃ m ∈ past, m.Writes s.nextCall) → ∀ d, received d (ownSteps s.nextCall past) = []
  written : (∃ m ∈ past, m.Writes s.nextCall) → ∃ command link, translated? input = some command ∧
    s.isConnected = true ∧ s.active = some link ∧
    Session.WrittenOnce s.nextCall link.transport command.frame past
  blank : Phrase.ofLine? input = none → execution = {}
  clear : execution.directive = .clear ↔ Text.lower (Text.trim input) ∈ ["clear", "cls"]
  quit : execution.directive = .quit ↔ Text.lower (Text.trim input) ∈ ["quit", "exit"]
  refused : ∀ phrase failure, Phrase.ofLine? input = some phrase → ¬ IsOwn (Text.trim input) →
    Refused s.isConnected phrase failure → execution.lines = [console.echo input, ⟨.error, failure.message⟩]
  passed : ∀ phrase, Phrase.ofLine? input = some phrase → ¬ IsOwn (Text.trim input) →
    (∀ failure, ¬ Refused s.isConnected phrase failure) → ∃ outcome line,
      s'.call? s.nextCall = some (.ended outcome) ∧ Answered outcome line ∧
      ((∃ m ∈ past, m.Writes s.nextCall) ↔ ∀ cause, outcome ≠ .failed (.send cause)) ∧
      execution.lines = [console.echo input, executing phrase, line]

section Delivered

variable {console after : Console} {s s' : Session} {input : String} {execution : Execution} {past : List Moment}

theorem Entered.delivered (entered : Entered console s.isConnected input (.done execution) after) (sound : s.Sound) :
    Delivered console s input [] s execution := by
  have absent : s.nextSeq ∉ s.waiters := fun waits => Nat.lt_irrefl _ (sound.queued.waiter_lt _ waits)
  obtain ⟨clear, quit⟩ := entered.directive
  refine ⟨fun _ => ⟨rfl, rfl⟩, by simp [ownSteps], absent, by simp [ownSteps, received], by simp, ?_, clear, quit,
    ?_, ?_⟩
  · intro blank
    cases entered with
    | blank => rfl
    | clears own => simp [ownAnswer_blank blank] at own
    | answers own => simp [ownAnswer_blank blank] at own
    | fails found => simp [found] at blank
  · intro phrase failure found own refused
    obtain ⟨other, refused', rfl⟩ := entered.refused found (ownAnswer_eq_none.mpr own)
    rw [refused.unique refused']
  · intro phrase found own passed
    obtain ⟨failure, refused, -⟩ := entered.refused found (ownAnswer_eq_none.mpr own)
    exact absurd refused (passed failure)

theorem posts_of_call {operation : Session.Operation} {conclude : Session.Outcome → Session → Execution × Console}
    {later : List Session.Action} (sound : s.Sound) (call : console.errand s input = .call operation conclude)
    (run : s.run (.begin operation :: later) = some s') : ∃ command link, translated? input = some command ∧
      s.isConnected = true ∧ s.active = some link ∧
      Session.Posts s.nextCall s.nextSeq (s.config.device.deadline command.opcode) link.transport command.frame s'
        (s.moments (.begin operation :: later)) := by
  obtain ⟨command, translated, isOpen, rfl⟩ := (calls_iff operation).mp ⟨conclude, call⟩
  cases active : s.active with
  | none => simp [Session.not_isConnected_of_idle active] at isOpen
  | some link => exact ⟨command, link, translated, isOpen, rfl, Session.posts_of_run sound active isOpen run⟩

theorem Runs.delivered (runs : Runs console s input past s' (execution, after)) (sound : s.Sound) :
    Delivered console s input past s' execution := by
  generalize whole : (execution, after) = result at runs
  -- what the line asks decides which of the two ways it can run
  cases runs with
  | alone done =>
    cases console.asks s input with
    | nothing done' entered =>
      cases whole.trans (Session.Errand.done.inj (done.symm.trans done'))
      exact entered.delivered sound
    | request _ _ _ _ _ call => cases done.symm.trans call
  | @calls operation conclude later _ outcome call run ended =>
    cases console.asks s input with
    | nothing done => cases call.symm.trans done
    | @request phrase command shown found own isOpen ok call' =>
      obtain ⟨rfl, rfl⟩ := Session.Errand.call.inj (call.symm.trans call')
      obtain ⟨command', link, translated, -, active, posts⟩ := posts_of_call sound call run
      obtain rfl : command = command' :=
        Option.some.inj ((Dialect.translated?_eq_some.mpr ⟨phrase, found, ok⟩).symm.trans translated)
      -- the run is that of one request, and its outcome decides the last line
      have finished := posts.ended ended
      obtain ⟨line, answered, lines⟩ := answerLines_conclude command finished.returned
      have done : execution = ⟨[console.echo input, executing phrase, line], .proceed⟩ := by
        simp only [answer, lines] at whole
        exact (Prod.mk.inj whole).1
      have others := not_clear_or_quit own
      constructor
      case quiet => exact fun stops => absurd ⟨by rw [translated]; rfl, isOpen⟩ stops
      case spares => exact posts.spares
      case withdrawn => exact finished.withdrawn
      case unwritten => exact finished.unwritten
      case written => exact fun writes => ⟨command, link, translated, isOpen, active, finished.written writes⟩
      case blank => simp [found]
      case clear => simpa [done] using others.1
      case quit => simpa [done] using others.2
      case refused =>
        intro phrase' failure found' _ refused
        obtain rfl := Option.some.inj (found.symm.trans found')
        exact (refused.not_command isOpen ok).elim
      case passed =>
        intro phrase' found' _ _
        obtain rfl := Option.some.inj (found.symm.trans found')
        exact ⟨outcome, line, ended, answered, finished.sent, by rw [done]⟩

end Delivered

/-- What a typed line does to a session, and when. -/
structure Delivers (console : Console) (s : Session) (input : String) : Prop where
  calls : ∀ operation, (∃ conclude, console.errand s input = .call operation conclude) ↔ ∃ command,
    translated? input = some command ∧ s.isConnected = true ∧
    operation = .request command.frame (s.config.device.deadline command.opcode)
  /-- It never writes more than the frame of its command, even if it is given up. -/
  atMostOnce : ∀ operation conclude later t, console.errand s input = .call operation conclude →
    s.run (.begin operation :: later) = some t → let past := s.moments (.begin operation :: later)
    (∀ d, received d (ownSteps s.nextCall past) = []) ∨ ∃ command link, translated? input = some command ∧
      s.active = some link ∧ Session.WrittenOnce s.nextCall link.transport command.frame past
  finishes : ∀ operation conclude later t, console.errand s input = .call operation conclude →
    s.run (.begin operation :: later) = some t →
    (∀ m ∈ s.moments (.begin operation :: later), m.action ≠ .cancel s.nextCall) → t.Finishes s.nextCall
  delivered : ∀ past s' execution after, Runs console s input past s' (execution, after) →
    Delivered console s input past s' execution
  executed : ∃ past t, Runs console s input past t ((console.execute s input).1, (console.execute s input).2.1) ∧
    Delivered console s input past t (console.execute s input).1 ∧
    (console.execute s input).2.2 = t.dropCall s.nextCall

/-- A typed line reaches the device exactly when it should. -/
theorem typed_lines_delivered {config : Config} {bus : Link.Bus} {actions : List Session.Action} {s : Session}
    (run : (Session.fresh config bus).run actions = some s) (console : Console) (input : String) :
    Delivers console s input := by
  have sound := Session.sound_of_run run
  refine ⟨fun operation => calls_iff operation, ?_, ?_, fun past s' execution after runs => runs.delivered sound, ?_⟩
  · intro operation conclude later t call run
    obtain ⟨command, link, translated, -, active, posts⟩ := posts_of_call sound call run
    exact posts.atMostOnce.imp id fun once => ⟨command, link, translated, active, once⟩
  · intro operation conclude later t call run kept
    obtain ⟨command, link, -, -, -, posts⟩ := posts_of_call sound call run
    exact posts.finishes kept
  · obtain ⟨past, t, runs, left⟩ := execute_runs (Session.well_of_run run) console input
    exact ⟨past, t, runs, runs.delivered sound, left⟩

theorem typed_lines_delivered_reply : ∃ bus actions s past s' execution after,
    (Session.fresh {} bus).run actions = some s ∧ Runs (new {}) s " HW version " past s' (execution, after) ∧
    received 0 (ownSteps s.nextCall past) = [Wire.Command.getVersion.frame] ∧
    execution.lines = [⟨.command, "proxmark3> HW version"⟩, ⟨.info, "Executing: hw version"⟩, ⟨.response, "OK: A"⟩] ∧
    Delivers (new {}) s " HW version " := by
  let bus : Link.Bus := { devices := [.ofInfo ⟨"adapter", .usb, none⟩ (.always [0, 65]) []] }
  let actions : List Session.Action :=
    [.begin (.connect .usb none), .resume 0, .resume 0, .work 0, .resume 0]
  let asked : List Session.Action :=
    [.begin (.request Wire.Command.getVersion.frame 5000), .resume 1, .work 1, .read 0 0, .read 0 0, .read 0 0,
      .receive 1, .resume 1]
  have ends : ((Session.fresh {} bus).run actions).any (fun s => s.isConnected = true ∧
      s.config.device.deadline .getVersion = 5000 ∧
      (s.run asked).any (fun s' => s'.outcome? s.nextCall = some (.reply [0, 65])) = true ∧
      received 0 (ownSteps s.nextCall (s.moments asked)) = [Wire.Command.getVersion.frame]) = true := by
    decide +kernel
  obtain ⟨s, run, ends⟩ := (Option.any_eq_true _ _).mp ends
  obtain ⟨isOpen, deadline, ends, writes⟩ := of_decide_eq_true ends
  obtain ⟨s', run', ends⟩ := (Option.any_eq_true _ _).mp ends
  have ended := Session.call?_of_outcome? (of_decide_eq_true ends)
  have delivers := typed_lines_delivered run (new {}) " HW version "
  have found : Phrase.ofLine? " HW version " = some ⟨"hw", ["version"]⟩ := by decide +kernel
  have foreign : ¬ IsOwn (Text.trim " HW version ") := by
    rw [← ownAnswer_eq_none]
    exact ownAnswer_device found (by decide)
  have translated : translated? " HW version " = some .getVersion :=
    Dialect.translated?_eq_some.mpr ⟨_, found, rfl⟩
  obtain ⟨conclude, call⟩ := (delivers.calls (.request Wire.Command.getVersion.frame 5000)).mpr
    ⟨_, translated, isOpen, by rw [← deadline]; rfl⟩
  rcases result : conclude (.reply [0, 65]) s' with ⟨execution, after⟩
  have runs : Runs (new {}) s " HW version " (s.moments asked) s' (execution, after) :=
    result ▸ .calls call run' ended
  have passes (failure : Failure) : ¬ Refused s.isConnected ⟨"hw", ["version"]⟩ failure :=
    fun refused => refused.not_command isOpen rfl
  obtain ⟨outcome, line, ended', answered, -, lines⟩ :=
    (delivers.delivered _ _ _ _ runs).passed _ found foreign passes
  cases ended.symm.trans ended'
  cases answered with
  | reply whole =>
    cases whole
    exact ⟨bus, actions, s, _, s', execution, after, run, runs, writes, by rw [lines]; decide +kernel, delivers⟩
  | emptyReply empty => cases empty

end TagConsole.Console
