import TagConsole.Proofs.Session.Correlation
import TagConsole.Proofs.Session.Lifecycle
import TagConsole.Proofs.Session.Withdrawal

/-!
What one request does. It puts its frame on the wire once or not at all, it leaves the link and the other waiters
as they are, and it can always come to its end.
-/

namespace TagConsole

open Wire (Frame)

theorem Link.Simulated.write_log {link link' : Simulated} {frame : Frame} {result : Except Error Nat}
    (write : link.write frame = (result, link')) :
    link'.written = link.written ++ if result.isOk then [frame] else [] := by
  unfold Simulated.write at write
  split at write
  · cases write
    exact (List.append_nil _).symm
  · split at write
    · cases write
      exact (List.append_nil _).symm
    · cases write
      rfl

theorem Link.Bus.write_log {bus bus' : Bus} {device : Nat} {frame : Frame} {result : Except Error Unit}
    (write : bus.write device frame = (result, bus')) (d : Nat) :
    bus'.log d = bus.log d ++ if result.isOk ∧ d = device then [frame] else [] := by
  unfold Bus.write at write
  split at write
  · cases write
    exact (List.append_nil _).symm
  · rename_i known found
    rcases wrote : known.link.write frame with ⟨sent, link'⟩
    rw [wrote] at write
    cases write
    have logged := Link.Simulated.write_log wrote
    by_cases same : d = device
    · subst same
      have ok : (sent.map fun _ => ()).isOk = sent.isOk := by cases sent <;> rfl
      simp [log, updateLink, found, logged, ok]
    · simp [log, updateLink, same, List.getElem?_modify_ne _ _ (Ne.symm same)]

namespace Session

theorem write_log {s : Session} {transport : Nat} {frame : Frame} {result : Except Transport.Error Unit}
    {bus : Link.Bus} (write : s.write transport frame = (result, { s with bus := bus })) :
    (∃ cause, result = .error cause ∧ ∀ d, bus.log d = s.bus.log d) ∨
      result = .ok () ∧ ∃ t device, s.transports[transport]? = some t ∧ t.writer = some device ∧
        ∀ d, bus.log d = s.bus.log d ++ if d = device then [frame] else [] := by
  have same : bus = (s.write transport frame).2.bus := by rw [write]
  have outcome : result = (s.write transport frame).1 := by rw [write]
  rw [same, outcome, Session.write]
  cases found : s.transports[transport]? with
  | none => exact .inl ⟨_, rfl, fun _ => rfl⟩
  | some t =>
    cases writer : t.writer with
    | none =>
      simp only [Transport.write, writer]
      exact .inl ⟨_, rfl, fun _ => trivial⟩
    | some device =>
      simp only [Transport.write, writer]
      rcases wrote : s.bus.write device frame with ⟨_ | _, bus'⟩
      · refine .inl ⟨_, rfl, fun d => ?_⟩
        simpa [Except.isOk, Except.toBool] using Link.Bus.write_log wrote d
      · refine .inr ⟨rfl, t, device, rfl, writer, fun d => ?_⟩
        simpa [Except.isOk, Except.toBool] using Link.Bus.write_log wrote d

namespace Moment

def isOf (m : Moment) (id : Nat) : Bool :=
  match m.action with
  | .begin _ => m.before.nextCall == id
  | action => action.call? == some id

def Writes (m : Moment) (id : Nat) : Prop := ∃ transport w, m.wrote? transport = some w ∧ w.call = id

/-- The step leaves the status, the link and all waiters but one as they are. -/
structure Spares (m : Moment) (n : Nat) : Prop where
  active : m.after.active = m.before.active
  generation : m.after.generation = m.before.generation
  published : m.after.published = m.before.published
  transports : m.after.transports = m.before.transports
  receivers : m.after.receivers = m.before.receivers
  waiters : m.after.waiters.filter (· ≠ n) = m.before.waiters.filter (· ≠ n)
  log : ∀ d, m.after.bus.log d = m.before.bus.log d ++ m.received d

end Moment

def ownSteps (id : Nat) (past : List Moment) : List Moment := past.filter (·.isOf id)

structure Unwritten (id : Nat) (past : List Moment) : Prop where
  received : ∀ d, received d (ownSteps id past) = []
  writes : ∀ m ∈ past, ¬ m.Writes id

def WrittenOnce (id route : Nat) (frame : Frame) (past : List Moment) : Prop :=
  ∃ m ∈ past, ∃ t device, m.before.transports[route]? = some t ∧ t.writer = some device ∧
    ∀ d, received d (ownSteps id past) = if d = device then [frame] else []

/-- What has become of a request, and what it has put on the wire. -/
inductive Posting (id n timeout route : Nat) (frame : Frame) (s : Session) (past : List Moment) : Prop where
  | unsent {stage} (now : s.call? id = some (.request frame timeout stage))
      (number : (Call.request frame timeout stage).seq? = some n)
      (routed : (Call.request frame timeout stage).route? = some route)
      (unsent : (Call.request frame timeout stage).isSent = false) (nothing : Unwritten id past)
  | sent {stage} (now : s.call? id = some (.request frame timeout stage))
      (number : (Call.request frame timeout stage).seq? = some n)
      (sent : (Call.request frame timeout stage).isSent = true) (once : WrittenOnce id route frame past)
      (writes : ∃ m ∈ past, m.Writes id)
  | failed {cause} (now : s.call? id = some (.ended (.failed (.send cause)))) (nothing : Unwritten id past)
      (gone : ∀ later t, s.run later = some t → n ∉ t.waiters)
  | returned {outcome} (now : s.call? id = some (.ended outcome)) (returned : outcome.Returned timeout)
      (sent : ∀ cause, outcome ≠ .failed (.send cause)) (once : WrittenOnce id route frame past)
      (writes : ∃ m ∈ past, m.Writes id) (gone : ∀ later t, s.run later = some t → n ∉ t.waiters)
  | orphaned (now : s.call? id = some (.orphan route frame)) (nothing : Unwritten id past)
      (cancelled : ∃ m ∈ past, m.action = .cancel id)
  | dropped (now : s.call? id = none)
      (atMost : (∀ d, received d (ownSteps id past) = []) ∨ WrittenOnce id route frame past)
      (cancelled : ∃ m ∈ past, m.action = .cancel id)

section HandMail

variable (frame : Frame) (timeout : Nat) (stage : Requesting) (mail : Mail) (chosen : Nat → Bool)

theorem Call.handMail_request :
    ∃ stage', (Call.request frame timeout stage).handMail mail chosen = .request frame timeout stage' := by
  rcases (Call.request frame timeout stage).handMail_cases mail chosen with same | ⟨_, _, _, _, _, request, _, handed⟩
  · exact ⟨stage, same⟩
  · cases request
    exact ⟨_, handed⟩

theorem Call.handMail_nobody (call : Call) : call.handMail mail (fun _ => false) = call := by
  rcases call.handMail_cases mail fun _ => false with same | ⟨_, _, _, _, _, _, chosen, _⟩
  · exact same
  · cases chosen

end HandMail

section Append

variable {id n timeout route : Nat} {frame : Frame} {s : Session} {past : List Moment} {m : Moment}

theorem earlier {P : Moment → Prop} (happened : ∃ m ∈ past, P m) : ∃ m' ∈ past ++ [m], P m' := by
  obtain ⟨m', member, holds⟩ := happened
  exact ⟨m', List.mem_append_left _ member, holds⟩

theorem received_ownSteps (d : Nat) : received d (ownSteps id (past ++ [m])) =
    received d (ownSteps id past) ++ if m.isOf id then m.received d else [] := by
  rw [ownSteps, List.filter_append, List.filter_singleton, received, List.flatMap_append]
  cases m.isOf id <;> simp [received, ownSteps]

theorem Moment.isOf_of_call {action : Action} {s' : Session} (own : action.call? = some id) :
    Moment.isOf ⟨s, action, s'⟩ id = true := by
  cases action with
  | begin operation => cases own
  | _ => simp_all [Moment.isOf]

theorem Moment.isOf_other {action : Action} {s' : Session} (old : id < s.nextCall) (other : action.call? ≠ some id) :
    Moment.isOf ⟨s, action, s'⟩ id = false := by
  cases action with
  | begin operation =>
    simp only [Moment.isOf, beq_eq_false_iff_ne]
    omega
  | _ => simp_all [Moment.isOf]

theorem Moment.Writes.own {action : Action} {s' : Session} (writes : Moment.Writes ⟨s, action, s'⟩ id) :
    action = .work id := by
  obtain ⟨transport, w, wrote, rfl⟩ := writes
  exact (wrote?_eq_some.mp wrote).1

theorem Moment.Writes.after {action : Action} {s' : Session} (writes : Moment.Writes ⟨s, action, s'⟩ id) :
    ∃ frame timeout route seq mail,
      s'.call? id = some (.request frame timeout (.registered route seq mail (.written (.ok ())))) := by
  obtain ⟨transport, w, wrote, rfl⟩ := writes
  exact (wrote?_eq_some.mp wrote).2.2

theorem Unwritten.append (nothing : Unwritten id past) (quiet : m.isOf id = true → ∀ d, m.received d = [])
    (idle : ¬ m.Writes id) : Unwritten id (past ++ [m]) := by
  constructor
  · intro d
    rw [received_ownSteps, nothing.received, List.nil_append]
    split
    · rename_i own
      exact quiet own d
    · rfl
  · intro m' member
    rcases List.mem_append.mp member with old | new
    · exact nothing.writes m' old
    · rwa [List.mem_singleton.mp new]

theorem WrittenOnce.append (once : WrittenOnce id route frame past)
    (quiet : m.isOf id = true → ∀ d, m.received d = []) : WrittenOnce id route frame (past ++ [m]) := by
  obtain ⟨m', member, t, device, found, writer, whole⟩ := once
  refine ⟨m', List.mem_append_left _ member, t, device, found, writer, fun d => ?_⟩
  rw [received_ownSteps, whole d]
  cases own : m.isOf id with
  | true => rw [if_pos rfl, quiet own d, List.append_nil]
  | false => rw [if_neg Bool.false_ne_true, List.append_nil]

theorem writtenOnce (nothing : ∀ d, received d (ownSteps id past) = []) (own : m.isOf id = true) {t : Transport}
    {device : Nat} (found : m.before.transports[route]? = some t) (writer : t.writer = some device)
    (wrote : ∀ d, m.received d = if d = device then [frame] else []) : WrittenOnce id route frame (past ++ [m]) := by
  refine ⟨m, List.mem_concat_self, t, device, found, writer, fun d => ?_⟩
  rw [received_ownSteps, nothing, own, if_pos rfl, wrote d, List.nil_append]

end Append

section Step

variable {id n timeout route : Nat} {frame : Frame} {s s' : Session} {past : List Moment} {action : Action}

theorem Posting.other (posting : Posting id n timeout route frame s past) (sound : s.Sound) (old : id < s.nextCall)
    (stepped : s.step action = some s') (other : action.call? ≠ some id) :
    Posting id n timeout route frame s' (past ++ [⟨s, action, s'⟩]) := by
  have change := (step_move sound.tidy stepped).callChange sound.tidy id
  have foreign : Moment.isOf ⟨s, action, s'⟩ id = false := Moment.isOf_other old other
  have quiet : Moment.isOf ⟨s, action, s'⟩ id = true → ∀ d, Moment.received ⟨s, action, s'⟩ d = [] := by
    simp [foreign]
  have idle : ¬ Moment.Writes ⟨s, action, s'⟩ id := by
    intro writes
    rw [writes.own] at other
    exact other rfl
  have gone (gone : ∀ later t, s.run later = some t → n ∉ t.waiters) :
      ∀ later t, s'.run later = some t → n ∉ t.waiters := by
    intro later t run
    exact gone (action :: later) t (by rw [run_cons, stepped, Option.bind_some, run])
  -- all that another call can do to a request is to hand it mail
  have kept {call : Call} (now : s.call? id = some call) (sends : call.isLifecycle = false) :
      ∃ mail chosen, s'.call? id = some (call.handMail mail chosen) := by
    cases change with
    | same same => exact ⟨.empty, fun _ => false, by rw [same, now, Call.handMail_nobody]⟩
    | mailed mailed =>
      rw [now] at mailed
      exact ⟨_, _, mailed⟩
    | begun new _ _ => omega
    | lifecycle present single _ _ =>
      obtain rfl := Option.some.inj (present.symm.trans now)
      simp [sends] at single
    | advanced present advance _ => exact absurd advance.call?_eq other
  cases posting with
  | @unsent stage now number routed unsent nothing =>
    obtain ⟨mail, chosen, now'⟩ := kept now rfl
    obtain ⟨stage', same⟩ := Call.handMail_request frame timeout stage mail chosen
    refine .unsent (now'.trans (congrArg some same)) ?_ ?_ ?_ (nothing.append quiet idle)
    · rw [← same, Call.seq?_handMail, number]
    · rw [← same, Call.route?_handMail, routed]
    · rw [← same, Call.isSent_handMail, unsent]
  | @sent stage now number sent once writes =>
    obtain ⟨mail, chosen, now'⟩ := kept now rfl
    obtain ⟨stage', same⟩ := Call.handMail_request frame timeout stage mail chosen
    refine .sent (now'.trans (congrArg some same)) ?_ ?_ (once.append quiet) (earlier writes)
    · rw [← same, Call.seq?_handMail, number]
    · rw [← same, Call.isSent_handMail, sent]
  | failed now nothing absent =>
    obtain ⟨mail, chosen, now'⟩ := kept now rfl
    exact .failed now' (nothing.append quiet idle) (gone absent)
  | returned now returned sent once writes absent =>
    obtain ⟨mail, chosen, now'⟩ := kept now rfl
    exact .returned now' returned sent (once.append quiet) (earlier writes) (gone absent)
  | orphaned now nothing cancelled =>
    obtain ⟨mail, chosen, now'⟩ := kept now rfl
    exact .orphaned now' (nothing.append quiet idle) (earlier cancelled)
  | dropped now atMost cancelled =>
    refine .dropped (change.absent_stays now old) (atMost.imp ?_ (·.append quiet)) (earlier cancelled)
    intro nothing d
    rw [received_ownSteps, nothing, foreign]
    rfl

theorem Sound.advances {call : Call} (sound : s.Sound) (stepped : s.step action = some s')
    (own : action.call? = some id) (now : s.call? id = some call) (sends : call.isLifecycle = false) :
    ∃ new waiters bus, Advance s id action call new waiters bus ∧ s'.call? id = new ∧ s'.bus = bus := by
  obtain ⟨new, waiters, bus, advance, after⟩ := (step_move sound.tidy stepped).of_call now sends own
  refine ⟨new, waiters, bus, advance, ?_, by rw [after]⟩
  rw [after, call?, Calls.lookup_update, if_pos rfl, show s.calls.lookup id = some call from now]
  rfl

theorem received_of_same (same : s'.bus = s.bus) (d : Nat) : Moment.received ⟨s, action, s'⟩ d = [] := by
  simp [Moment.received, same]

theorem Unwritten.step {call : Option Call} (nothing : Unwritten id past) (same : s'.bus = s.bus)
    (now : s'.call? id = call) (other : ∀ frame timeout route seq mail,
      call ≠ some (.request frame timeout (.registered route seq mail (.written (.ok ()))))) :
    Unwritten id (past ++ [⟨s, action, s'⟩]) := by
  refine nothing.append (fun _ => received_of_same same) fun writes => ?_
  obtain ⟨_, _, _, _, _, after⟩ := writes.after
  exact other _ _ _ _ _ (now.symm.trans after)

variable {stage : Requesting}

theorem Unwritten.own (nothing : Unwritten id past) (sound : s.Sound) (stepped : s.step action = some s')
    (own : action.call? = some id) (now : s.call? id = some (.request frame timeout stage))
    (number : (Call.request frame timeout stage).seq? = some n)
    (routed : (Call.request frame timeout stage).route? = some route)
    (unsent : (Call.request frame timeout stage).isSent = false) :
    Posting id n timeout route frame s' (past ++ [⟨s, action, s'⟩]) := by
  have mine : Moment.isOf ⟨s, action, s'⟩ id = true := Moment.isOf_of_call own
  obtain ⟨new, waiters, bus, advance, now', bus'⟩ := sound.advances stepped own now rfl
  -- unsent, the request is short of its write, or at it, or its write has failed
  cases advance with
  | registers => exact .unsent now' number routed rfl (nothing.step bus' now' (by simp))
  | refuses =>
    exact .failed now' (nothing.step bus' now' (by simp)) (sound.returned stepped now number now').gone
  | writes write =>
    cases routed
    rcases write_log write with ⟨cause, rfl, logged⟩ | ⟨rfl, t, device, found, writer, logged⟩
    · refine .unsent now' number rfl rfl (nothing.append (fun _ d => ?_) fun writes => ?_)
      · simp [Moment.received, bus', logged]
      · obtain ⟨_, _, _, _, _, after⟩ := writes.after
        cases now'.symm.trans after
    · have received : ∀ d, Moment.received ⟨s, .work id, s'⟩ d = if d = device then [frame] else [] := by
        intro d
        simp [Moment.received, bus', logged]
      refine .sent now' number rfl (writtenOnce nothing.received mine found writer received)
        ⟨_, List.mem_concat_self, route, ?_⟩
      exact ⟨⟨id, _, frame⟩, wrote?_eq_some.mpr ⟨rfl, ⟨_, _, now⟩, _, _, _, _, _, now'⟩, rfl⟩
  | fails =>
    exact .failed now' (nothing.step bus' now' (by simp)) (sound.returned stepped now number now').gone
  | replies sent => simp [Call.isSent, sent] at unsent
  | closes sent => simp [Call.isSent, sent] at unsent
  | awaits => cases unsent
  | expiresAtOnce => cases unsent
  | expires => cases unsent
  | orphansRequest =>
    cases routed
    exact .orphaned now' (nothing.step bus' now' (by simp)) ⟨_, List.mem_concat_self, rfl⟩
  | leaves => exact .dropped now' (.inl (nothing.step bus' now' (by simp)).received) ⟨_, List.mem_concat_self, rfl⟩

theorem WrittenOnce.own (once : WrittenOnce id route frame past) (writes : ∃ m ∈ past, m.Writes id) (sound : s.Sound)
    (stepped : s.step action = some s') (own : action.call? = some id)
    (now : s.call? id = some (.request frame timeout stage))
    (number : (Call.request frame timeout stage).seq? = some n)
    (sent : (Call.request frame timeout stage).isSent = true) :
    Posting id n timeout route frame s' (past ++ [⟨s, action, s'⟩]) := by
  obtain ⟨new, waiters, bus, advance, now', bus'⟩ := sound.advances stepped own now rfl
  have once (same : s'.bus = s.bus) := once.append (m := ⟨s, action, s'⟩) fun _ => received_of_same same
  have returns {outcome : Outcome} (now' : s'.call? id = some (.ended outcome)) (same : s'.bus = s.bus)
      (sent : ∀ cause, outcome ≠ .failed (.send cause)) :
      Posting id n timeout route frame s' (past ++ [⟨s, action, s'⟩]) := by
    have returned := sound.returned stepped now number now'
    exact .returned now' returned.outcome sent (once same) (earlier writes) returned.gone
  -- no advance writes again once the frame is sent
  cases advance with
  | replies => exact returns now' bus' (by simp)
  | closes => exact returns now' bus' (by simp)
  | awaits => exact .sent now' number rfl (once bus') (earlier writes)
  | expiresAtOnce => exact returns now' bus' (by simp)
  | expires => exact returns now' bus' (by simp)
  | leaves => exact .dropped now' (.inr (once bus')) ⟨_, List.mem_concat_self, rfl⟩
  | _ => cases sent

theorem step_absent (own : action.call? = some id) (absent : s.call? id = none) : s.step action = none := by
  cases action with
  | resume id' | work id' | expire id' | cancel id' =>
    cases own
    simp [Session.step, resume, work, expire, cancel, absent]
  | _ => cases own

theorem Posting.own (posting : Posting id n timeout route frame s past) (sound : s.Sound)
    (stepped : s.step action = some s') (own : action.call? = some id) :
    Posting id n timeout route frame s' (past ++ [⟨s, action, s'⟩]) := by
  cases posting with
  | unsent now number routed unsent nothing => exact nothing.own sound stepped own now number routed unsent
  | sent now number sent once writes => exact once.own writes sound stepped own now number sent
  | failed now nothing =>
    obtain ⟨new, waiters, bus, advance, now', bus'⟩ := sound.advances stepped own now rfl
    cases advance with
    | leaves => exact .dropped now' (.inl (nothing.step bus' now' (by simp)).received) ⟨_, List.mem_concat_self, rfl⟩
  | returned now returned sent once =>
    obtain ⟨new, waiters, bus, advance, now', bus'⟩ := sound.advances stepped own now rfl
    cases advance with
    | leaves => exact .dropped now' (.inr (once.append fun _ => received_of_same bus')) ⟨_, List.mem_concat_self, rfl⟩
  | orphaned now nothing cancelled =>
    have mine : Moment.isOf ⟨s, action, s'⟩ id = true := Moment.isOf_of_call own
    obtain ⟨new, waiters, bus, advance, now', bus'⟩ := sound.advances stepped own now rfl
    cases advance with
    | writesOrphan write =>
      rcases write_log write with ⟨cause, rfl, logged⟩ | ⟨rfl, t, device, found, writer, logged⟩
      · refine .dropped now' (.inl fun d => ?_) (earlier cancelled)
        simp [received_ownSteps, nothing.received, Moment.received, bus', logged]
      · refine .dropped now' (.inr (writtenOnce nothing.received mine found writer fun d => ?_)) (earlier cancelled)
        simp [Moment.received, bus', logged]
    | leaves => exact .dropped now' (.inl (nothing.step bus' now' (by simp)).received) (earlier cancelled)
  | dropped now => simp [step_absent own now] at stepped

theorem Advance.spares {call : Call} {new : Option Call} {waiters : List Nat} {bus : Link.Bus}
    (advance : Advance s id action call new waiters bus) (number : ∀ k, call.seq? = some k → k = n) :
    waiters.filter (· ≠ n) = s.waiters.filter (· ≠ n) ∧ ∀ d, s.bus.log d <+: bus.log d := by
  have wrote {result : Except Transport.Error Unit} {transport : Nat} {frame : Frame} {bus : Link.Bus}
      (write : s.write transport frame = (result, { s with bus := bus })) (d : Nat) : s.bus.log d <+: bus.log d := by
    rcases write_log write with ⟨_, _, logged⟩ | ⟨_, _, _, _, _, logged⟩
    · rw [logged]
    · rw [logged]
      exact List.prefix_append _ _
  cases advance with
  | registers | refuses | fails | expiresAtOnce | expires =>
    obtain rfl := number _ rfl
    exact ⟨by simp, fun d => List.prefix_refl _⟩
  | writes write | writesAlone write | writesOrphan write => exact ⟨rfl, wrote write⟩
  | _ => exact ⟨rfl, fun d => List.prefix_refl _⟩

theorem Posting.call (posting : Posting id n timeout route frame s past) :
    s.call? id = none ∨ ∃ call, s.call? id = some call ∧ call.isLifecycle = false ∧
      ∀ k, call.seq? = some k → k = n := by
  have same {stage : Requesting} (number : (Call.request frame timeout stage).seq? = some n) (k : Nat)
      (other : (Call.request frame timeout stage).seq? = some k) : k = n :=
    Option.some.inj (other.symm.trans number)
  cases posting with
  | unsent now number => exact .inr ⟨_, now, rfl, same number⟩
  | sent now number => exact .inr ⟨_, now, rfl, same number⟩
  | failed now => exact .inr ⟨_, now, rfl, by rintro k ⟨⟩⟩
  | returned now => exact .inr ⟨_, now, rfl, by rintro k ⟨⟩⟩
  | orphaned now => exact .inr ⟨_, now, rfl, by rintro k ⟨⟩⟩
  | dropped now => exact .inl now

theorem Posting.spares (posting : Posting id n timeout route frame s past) (sound : s.Sound)
    (stepped : s.step action = some s') (own : action.call? = some id) : Moment.Spares ⟨s, action, s'⟩ n := by
  rcases posting.call with absent | ⟨call, now, sends, number⟩
  · simp [step_absent own absent] at stepped
  · obtain ⟨new, waiters, bus, advance, rfl⟩ := (step_move sound.tidy stepped).of_call now sends own
    obtain ⟨others, logs⟩ := advance.spares number
    exact ⟨rfl, rfl, rfl, rfl, rfl, others, fun d => (List.prefix_iff_eq_append.mp (logs d)).symm⟩

end Step

structure Posts (id n timeout route : Nat) (frame : Frame) (s : Session) (past : List Moment) : Prop where
  sound : s.Sound
  old : id < s.nextCall
  spares : ∀ m ∈ ownSteps id past, m.Spares n
  posting : Posting id n timeout route frame s past

section Run

variable {id n timeout route : Nat} {frame : Frame} {s s' : Session} {past : List Moment} {action : Action}

theorem Posts.step (posts : Posts id n timeout route frame s past) (stepped : s.step action = some s') :
    Posts id n timeout route frame s' (past ++ [⟨s, action, s'⟩]) := by
  obtain ⟨sound, old, spares, posting⟩ := posts
  have later := Nat.lt_of_lt_of_le old (step_move sound.tidy stepped).next_le.1
  by_cases own : action.call? = some id
  · refine ⟨sound.step stepped, later, ?_, posting.own sound stepped own⟩
    intro m member
    rw [ownSteps, List.filter_append, List.mem_append] at member
    rcases member with before | now
    · exact spares m before
    · obtain rfl := List.mem_singleton.mp (List.mem_filter.mp now).1
      exact posting.spares sound stepped own
  · refine ⟨sound.step stepped, later, ?_, posting.other sound old stepped own⟩
    have foreign : Moment.isOf ⟨s, action, s'⟩ id = false := Moment.isOf_other old own
    simpa [ownSteps, List.filter_append, foreign] using spares

theorem Posts.begin {link : ActiveLink} (sound : s.Sound) (active : s.active = some link)
    (isOpen : s.isConnected = true) (stepped : s.step (.begin (.request frame timeout)) = some s') :
    Posts s.nextCall s.nextSeq timeout link.transport frame s' [⟨s, .begin (.request frame timeout), s'⟩] := by
  have own : Moment.isOf ⟨s, .begin (.request frame timeout), s'⟩ s.nextCall = true := by simp [Moment.isOf]
  have sound' := sound.step stepped
  cases step_move sound.tidy stepped with
  | advances present advance => cases advance.call?_eq
  | refusesRequest isClosed => simp [isClosed] at isOpen
  | @requests _ _ link' active' =>
    obtain rfl : link = link' := Option.some.inj (active.symm.trans active')
    refine ⟨sound', Nat.lt_succ_self _, ?_, ?_⟩
    · intro m member
      obtain rfl := List.mem_singleton.mp (List.mem_filter.mp member).1
      exact ⟨rfl, rfl, rfl, rfl, rfl, rfl, fun d => by simp [Moment.received]⟩
    · let queueing : Call := .request frame timeout (.queueing link.transport s.nextSeq)
      have now : List.lookup s.nextCall (s.calls ++ [(s.nextCall, queueing)]) = some queueing := by
        rw [Calls.lookup_add, show s.calls.lookup s.nextCall = none from sound.tidy.call?_nextCall]
        simp
      refine .unsent now rfl rfl rfl ⟨fun d => ?_, fun m member writes => ?_⟩
      · simp [ownSteps, own, received, Moment.received]
      · obtain rfl := List.mem_singleton.mp member
        cases writes.own

theorem posts_of_run {link : ActiveLink} {later : List Action} (sound : s.Sound) (active : s.active = some link)
    (isOpen : s.isConnected = true) (run : s.run (.begin (.request frame timeout) :: later) = some s') :
    Posts s.nextCall s.nextSeq timeout link.transport frame s'
      (s.moments (.begin (.request frame timeout) :: later)) := by
  rw [run_cons, Option.bind_eq_some_iff] at run
  obtain ⟨begun, stepped, run⟩ := run
  have first := Posts.begin sound active isOpen stepped
  rw [moments, stepped]
  exact run_induction (P := fun t past => Posts s.nextCall s.nextSeq timeout link.transport frame t
    (⟨s, .begin (.request frame timeout), begun⟩ :: past)) first
    (fun before action after past posts stepped => posts.step stepped) run

/-- A call writes at most one frame, also if it is cancelled. -/
theorem Posts.atMostOnce (posts : Posts id n timeout route frame s past) :
    (∀ d, received d (ownSteps id past) = []) ∨ WrittenOnce id route frame past := by
  cases posts.posting with
  | unsent _ _ _ _ nothing => exact .inl nothing.received
  | sent _ _ _ once => exact .inr once
  | failed _ nothing => exact .inl nothing.received
  | returned _ _ _ once => exact .inr once
  | orphaned _ nothing => exact .inl nothing.received
  | dropped _ atMost => exact atMost

structure Ended (id n timeout route : Nat) (frame : Frame) (s : Session) (past : List Moment) (outcome : Outcome) :
    Prop where
  returned : outcome.Returned timeout
  withdrawn : n ∉ s.waiters
  sent : (∃ m ∈ past, m.Writes id) ↔ ∀ cause, outcome ≠ .failed (.send cause)
  unwritten : (¬ ∃ m ∈ past, m.Writes id) → ∀ d, received d (ownSteps id past) = []
  written : (∃ m ∈ past, m.Writes id) → WrittenOnce id route frame past

theorem Posts.ended (posts : Posts id n timeout route frame s past) {outcome : Outcome}
    (ended : s.call? id = some (.ended outcome)) : Ended id n timeout route frame s past outcome := by
  cases posts.posting with
  | unsent now => cases now.symm.trans ended
  | sent now => cases now.symm.trans ended
  | failed now nothing gone =>
    cases now.symm.trans ended
    have idle : ¬ ∃ m ∈ past, m.Writes id := fun ⟨m, member, writes⟩ => nothing.writes m member writes
    exact ⟨.send, gone [] s rfl, by simp [idle], fun _ => nothing.received, fun writes => absurd writes idle⟩
  | returned now returned sent once writes gone =>
    cases now.symm.trans ended
    exact ⟨returned, gone [] s rfl, iff_of_true writes sent, fun idle => absurd writes idle, fun _ => once⟩
  | orphaned now => cases now.symm.trans ended
  | dropped now => cases now.symm.trans ended

end Run

def Finishes (s : Session) (id : Nat) : Prop := ∃ s' outcome, s.Leads s' ∧ s'.call? id = some (.ended outcome)

section Finishes

variable {s s' : Session} {id route n timeout : Nat} {frame : Frame} {mail : Mail} {progress : Progress}

theorem finishes_of_ended {outcome : Outcome} (ended : s.call? id = some (.ended outcome)) : s.Finishes id :=
  ⟨s, outcome, .refl s, ended⟩

theorem Finishes.of_leads (finishes : s'.Finishes id) (leads : s.Leads s') : s.Finishes id := by
  obtain ⟨t, outcome, further, ended⟩ := finishes
  exact ⟨t, outcome, leads.trans further, ended⟩

theorem Finishes.before {action : Action} (finishes : s'.Finishes id) (stepped : s.step action = some s') :
    s.Finishes id :=
  finishes.of_leads ((Leads.refl s').head stepped)

theorem CanEnd.finishes {ends : Outcome → Prop} (can : s.CanEnd id ends) : s.Finishes id := by
  obtain ⟨s', outcome, steps, ended, -⟩ := can
  exact ⟨s', outcome, run_of_proceeds steps, ended⟩

theorem sent_finishes (now : s.call? id = some (.request frame timeout (.registered route n mail progress)))
    (sent : progress.isSent = true) : s.Finishes id := by
  -- unless an answer is there already it can wait until its time is over
  have waits {s : Session} {deadline : Nat}
      (now : s.call? id = some (.request frame timeout (.registered route n .empty (.awaiting deadline)))) :
      s.Finishes id := by
    let late : Session := { s with clock := s.clock + deadline }
    have here : late.call? id = _ := now
    have due : deadline ≤ late.clock := Nat.le_add_left _ _
    have expires : late.step (.expire id) = some (late.timedOut id n timeout) := by
      simp [step, expire, here, due]
    have ticks : s.step (.tick deadline) = some late := rfl
    exact ((finishes_of_ended (call?_of_replace here rfl)).before expires).before ticks
  cases handed : mail.outcome? with
  | some outcome => exact (sent_ends now handed sent).finishes
  | none =>
    cases mail with
    | reply reply => cases handed
    | dropped => cases handed
    | empty =>
      cases progress with
      | writing => cases sent
      | awaiting deadline => exact waits now
      | written result =>
        cases result with
        | error cause => cases sent
        | ok _ =>
          have resumes : s.step (.resume id) =
              s.resumeRequest id frame timeout (.registered route n .empty (.written (.ok ()))) := by
            simp [step, resume, now]
          by_cases atOnce : timeout = 0
          · have ends : s.step (.resume id) = some (s.timedOut id n timeout) := by simp [resumes, resumeRequest, atOnce]
            exact (finishes_of_ended (call?_of_replace now rfl)).before ends
          · have goesOn : s.step (.resume id) = some ({ s with turns := s.turns.erase id }.setCall id
                (.request frame timeout (.registered route n .empty (.awaiting (s.clock + timeout))))) := by
              simp [resumes, resumeRequest, atOnce]
            exact (waits (call?_of_replace now rfl)).before goesOn

theorem registered_finishes (now : s.call? id = some (.request frame timeout (.registered route n mail progress))) :
    s.Finishes id := by
  have tried {s : Session} {result : Except Transport.Error Unit}
      (now : s.call? id = some (.request frame timeout (.registered route n mail (.written result)))) :
      s.Finishes id := by
    cases result with
    | ok _ => exact sent_finishes now rfl
    | error cause =>
      have ends : s.step (.resume id) = some (s.giveUp id n (.send cause)) := by
        simp [step, resume, now, resumeRequest]
      exact (finishes_of_ended (call?_of_replace now rfl)).before ends
  cases progress with
  | writing =>
    obtain ⟨s', result, stepped, -, -, now'⟩ := writes_on now
    exact (tried now').before stepped
  | written result => exact tried now
  | awaiting deadline => exact sent_finishes now rfl

theorem turn_finishes (now : s.call? id = some (.request frame timeout (.queueing route n)))
    (turn : s.turns.head? = some id) : s.Finishes id := by
  by_cases isOpen : s.transports[route]?.any (·.isConnected) = true
  · have isOpen' : (s.register n).transports[route]?.any (·.isConnected) = true := isOpen
    have registers : s.step (.resume id) = some ((s.register n).setCall id
        (.request frame timeout (.registered route n .empty .writing))) := by
      simp [step, resume, now, resumeRequest, turn, isOpen']
    exact (registered_finishes (call?_of_replace now rfl)).before registers
  · obtain ⟨s', stepped, -, -, ended⟩ := refuses_of_closed now turn (Bool.eq_false_iff.mpr isOpen)
    exact (finishes_of_ended ended).before stepped

theorem request_finishes {stage : Requesting} (tidy : s.Tidy)
    (now : s.call? id = some (.request frame timeout stage)) : s.Finishes id := by
  cases stage with
  | registered route n mail progress => exact registered_finishes now
  | queueing route n =>
    obtain ⟨s', steps, turn, now', -⟩ := comes_to_turn tidy now
    exact (turn_finishes now' turn).of_leads (run_of_proceeds steps)

theorem Posts.finishes {past : List Moment} (posts : Posts id n timeout route frame s past)
    (kept : ∀ m ∈ past, m.action ≠ .cancel id) : s.Finishes id := by
  have given (cancelled : ∃ m ∈ past, m.action = .cancel id) : False := by
    obtain ⟨m, member, cancels⟩ := cancelled
    exact kept m member cancels
  cases posts.posting with
  | unsent now => exact request_finishes posts.sound.tidy now
  | sent now => exact request_finishes posts.sound.tidy now
  | failed now => exact finishes_of_ended now
  | returned now => exact finishes_of_ended now
  | orphaned _ _ cancelled => exact (given cancelled).elim
  | dropped _ _ cancelled => exact (given cancelled).elim

end Finishes

end Session

end TagConsole
