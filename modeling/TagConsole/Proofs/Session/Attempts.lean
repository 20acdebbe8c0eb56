import TagConsole.Proofs.Session.Isolation
import TagConsole.Proofs.Session.Lifecycle
import TagConsole.Proofs.Session.Release

/-!
Attempts to connect. Each begins anew: whatever the session has done before, what an attempt comes to follows from
what the bus offers, and one that fails leaves nothing behind.
-/

namespace TagConsole.Session

def Outcome.ofConnect : Except Transport.Error Unit → Outcome
  | .error cause => .failed (.connect cause)
  | .ok () => .done

def stepsOf (id : Nat) (past : List Moment) : List Moment :=
  past.filter fun m => (m.before.attempt? id).isSome && m.action.call? = some id

namespace Moment

structure IsQuiet (m : Moment) : Prop where
  record : m.after.bus.record = m.before.bus.record
  written : m.after.bus.written = m.before.bus.written

structure Frees (m : Moment) (previous : Option Nat) : Prop where
  before : m.before.Sound
  after : m.after.Sound
  torn : Torn m.before m.after
  used : ∀ j, m.before.InUse j → previous = some j
  shut : ∀ j, previous = some j → m.after.Shut j
  quiet : m.IsQuiet

structure Opens (m : Moment) (t : Transport) (config : Config) : Prop where
  record : m.after.bus.record = m.before.bus.record ++ (t.openLink config m.before.bus.offer).2.record
  written : m.after.bus.written = m.before.bus.written

structure Discards (m : Moment) (id i : Nat) (cause : Transport.Error) : Prop where
  sound : m.after.Sound
  ended : m.after.call? id = some (.ended (.failed (.connect cause)))
  published : m.after.published = m.before.published ++ [.failed cause.message]
  active : m.after.active = none
  shut : m.after.Shut i
  quiet : m.IsQuiet

end Moment

/-- The steps of one attempt so far, and what they have made of its call. -/
inductive Trial (config : Config) (id i : Nat) (t : Transport) : List Moment → Call → Prop where
  | waits : Trial config id i t [] (.connect i .waiting)
  | takes {m} (quiet : m.IsQuiet) :
      Trial config id i t [m] (.connect i (.releasing (m.before.active.map (·.transport))))
  | frees {own m previous} (before : Trial config id i t own (.connect i (.releasing previous)))
      (frees : m.Frees previous) : Trial config id i t (own ++ [m]) (.connect i .opening)
  | opens {own m} (before : Trial config id i t own (.connect i .opening)) (opens : m.Opens t config) :
      Trial config id i t (own ++ [m]) (.connect i (.opened (t.openLink config m.before.bus.offer).1))
  | refuses {own m result cause} (before : Trial config id i t own (.connect i (.opened result))) (quiet : m.IsQuiet)
      (refused : result >>= t.takeOn config m.before.bus.offer m.before.withholdsReceivers = .error cause) :
      Trial config id i t (own ++ [m]) (.connect i (.discarding cause))
  | installs {own m result} (before : Trial config id i t own (.connect i (.opened result))) (quiet : m.IsQuiet)
      (taken : result >>= t.takeOn config m.before.bus.offer m.before.withholdsReceivers = .ok ()) :
      Trial config id i t (own ++ [m]) (.ended .done)
  | discards {own m cause} (before : Trial config id i t own (.connect i (.discarding cause)))
      (discards : m.Discards id i cause) : Trial config id i t (own ++ [m]) (.ended (.failed (.connect cause)))

section Trial

variable {config : Config} {id i : Nat} {t : Transport} {own : List Moment} {call : Call}

theorem Trial.connect_or_ended (trial : Trial config id i t own call) :
    call.isLifecycle = true ∨ ∃ outcome, call = .ended outcome := by
  cases trial with
  | installs => exact .inr ⟨_, rfl⟩
  | discards => exact .inr ⟨_, rfl⟩
  | _ => exact .inl rfl

theorem Trial.own_transport {transport : Nat} {stage : Connecting}
    (trial : Trial config id i t own (.connect transport stage)) : transport = i := by
  cases trial <;> rfl

theorem writer_of_detached {transports : List Transport} {j : Nat} {u : Transport}
    (found : (transports.modify j (·.detach))[j]? = some u) : u.writer = none := by
  rw [List.getElem?_modify_eq, Option.map_eq_map, Option.map_eq_some_iff] at found
  obtain ⟨u, -, rfl⟩ := found
  rfl

theorem quiet_of_attach {s s' : Session} {action : Action} {device : Nat} {u u' : Transport} {bus : Link.Bus}
    {result : Except Transport.Error Unit} (attached : u.attach s.config s.bus device = (result, u', bus))
    (after : s'.bus = bus) : Moment.IsQuiet ⟨s, action, s'⟩ := by
  have record := u.attach_record s.config s.bus device
  have written := u.attach_written s.config s.bus device
  rw [attached] at record written
  exact ⟨by simpa only [after] using record, by simpa only [after] using written⟩

theorem Trial.step {s s' : Session} {action : Action} {u : Transport} (trial : Trial s.config id i t own call)
    (sound : s.Sound) (found : s.transports[i]? = some u) (kind : t.kind = u.kind) (target : t.target = u.target)
    (previous : ∀ j, call = .connect i (.releasing (some j)) → s.Unclaimed j) (present : s.attempt? id = some call)
    (acts : action.call? = some id) (stepped : s.step action = some s') :
    ∃ new, s'.call? id = some new ∧ Trial s.config id i t (own ++ [⟨s, action, s'⟩]) new := by
  have move := step_move sound.tidy stepped
  have sound' := sound.step stepped
  have stays {j : Nat} (free : s.Unclaimed j) : s'.Unclaimed j := free.step sound.tidy move
  have attempted := present
  -- each stage has one way on, so the case of the step tells the stage and with it the last step of the trial
  obtain ⟨present, connects⟩ := Option.filter_eq_some_iff.mp present
  cases move with
  | @advances _ id' old _ _ _ known advance =>
    obtain rfl : id' = id := Option.some.inj (advance.call?_eq.symm.trans acts)
    obtain rfl := Option.some.inj (known.symm.trans present)
    simp [advance.sends.1] at connects
  | takes known turn stage =>
    cases acts
    obtain rfl := Option.some.inj (known.symm.trans present)
    rcases stage with ⟨transport, rfl, rfl⟩ | ⟨rfl, rfl⟩
    · cases trial
      exact ⟨_, call?_of_replace present rfl, .takes ⟨rfl, rfl⟩⟩
    · cases trial
  | @reopens _ transport freed known =>
    cases acts
    obtain rfl := Option.some.inj (known.symm.trans present)
    obtain rfl := trial.own_transport
    refine ⟨_, call?_of_replace (call?_handMail present) rfl, .frees trial ?_⟩
    refine ⟨sound, sound', sound.torn (.replaced known stepped), ?_, ?_, ⟨rfl, rfl⟩⟩
    · rintro j (⟨generation, active⟩ | ⟨other, call', present', releases⟩)
      · cases active.symm.trans (sound.linked.underway_idle id _ attempted rfl)
      · obtain rfl := sound.tidy.underway_alone present' (Call.isUnderway_of_releasing? releases) attempted rfl
        obtain rfl := Option.some.inj (present'.symm.trans attempted)
        exact releases
    · rintro j rfl
      exact ⟨stays (previous j rfl), fun u released => writer_of_detached released⟩
  | disconnected known =>
    cases acts
    obtain rfl := Option.some.inj (known.symm.trans present)
    cases trial
  | @opens _ transport u' result bus known found' opened =>
    cases acts
    obtain rfl := Option.some.inj (known.symm.trans present)
    obtain rfl := trial.own_transport
    obtain rfl := Option.some.inj (found.symm.trans found')
    have asks := t.openLink_asks s.config
    rw [← u.openLink_congr s.config kind target] at opened
    have result_eq : result = (t.openLink s.config s.bus.offer).1 := by rw [asks.result, opened]
    have bus_eq : bus = (t.openLink s.config s.bus).2 := by rw [opened]
    refine ⟨_, call?_of_replace present rfl, result_eq ▸ .opens trial ?_⟩
    exact ⟨by rw [bus_eq, asks.record], by rw [bus_eq, asks.written]⟩
  | opensNot known =>
    cases acts
    obtain rfl := Option.some.inj (known.symm.trans present)
    obtain rfl := trial.own_transport
    exact ⟨_, call?_of_replace present rfl, .refuses trial ⟨rfl, rfl⟩ rfl⟩
  | @attachesNot _ transport device u' t' bus cause known found' refused =>
    cases acts
    obtain rfl := Option.some.inj (known.symm.trans present)
    obtain rfl := trial.own_transport
    have takes := t.takeOn_offer s.config s.bus s.withholdsReceivers device u'
    rcases refused with refused | ⟨attached, withholds, rfl⟩
    · refine ⟨_, call?_of_replace present rfl, .refuses trial (quiet_of_attach refused rfl) ?_⟩
      change t.takeOn s.config s.bus.offer s.withholdsReceivers device = _
      rw [takes, Transport.takeOn, refused]
      rfl
    · refine ⟨_, call?_of_replace present rfl, .refuses trial (quiet_of_attach attached rfl) ?_⟩
      change t.takeOn s.config s.bus.offer s.withholdsReceivers device = _
      rw [takes, Transport.takeOn, attached, if_pos withholds]
      rfl
  | @installs _ transport device u' t' bus known found' attached handsOut =>
    cases acts
    obtain rfl := Option.some.inj (known.symm.trans present)
    obtain rfl := trial.own_transport
    have takes := t.takeOn_offer s.config s.bus s.withholdsReceivers device u'
    refine ⟨_, call?_of_replace present rfl, .installs trial (quiet_of_attach attached rfl) ?_⟩
    change t.takeOn s.config s.bus.offer s.withholdsReceivers device = _
    rw [takes, Transport.takeOn, attached, if_neg (by simp [handsOut])]
    rfl
  | discards known =>
    cases acts
    obtain rfl := Option.some.inj (known.symm.trans present)
    obtain rfl := trial.own_transport
    refine ⟨_, call?_of_replace present rfl, .discards trial ?_⟩
    refine ⟨sound', call?_of_replace present rfl, rfl, sound.linked.underway_idle id _ attempted rfl, ?_, ⟨rfl, rfl⟩⟩
    refine ⟨⟨?_, ?_⟩, fun u released => writer_of_detached released⟩
    · simpa using (List.getElem?_eq_some_iff.mp found).1
    · rintro other ⟨call', present', opening⟩
      rw [attempt?_ends present rfl rfl] at present'
      split at present'
      · cases present'
      · rename_i apart
        exact apart (sound.linked.opening_unique other call' id _ _ present' attempted opening rfl)
  | _ => cases acts

end Trial

structure Trying (config : Config) (id i : Nat) (t : Transport) (s : Session) (past : List Moment) : Prop where
  old : id < s.nextCall
  configured : s.config = config
  transport : ∃ u, s.transports[i]? = some u ∧ t.kind = u.kind ∧ t.target = u.target
  previous : ∀ j, s.call? id = some (.connect i (.releasing (some j))) → s.Unclaimed j
  trial : (∃ call, s.call? id = some call ∧ Trial config id i t (stepsOf id past) call) ∨
    (.cancel id ∈ past.map (·.action) ∧ s.call? id = none)

section Run

variable {config : Config} {id i : Nat} {t : Transport} {s s' : Session} {action : Action} {past : List Moment}

theorem stepsOf_append (m : Moment) : stepsOf id (past ++ [m]) =
    stepsOf id past ++ if (m.before.attempt? id).isSome = true ∧ m.action.call? = some id then [m] else [] := by
  rw [stepsOf, List.filter_append, stepsOf, List.filter_singleton]
  by_cases own : (m.before.attempt? id).isSome = true ∧ m.action.call? = some id
  · simp [own]
  · have other : ((m.before.attempt? id).isSome && decide (m.action.call? = some id)) = false := by simpa using own
    rw [if_neg own, other, cond_false]

theorem unclaimed_of_active {link : ActiveLink} (linked : s.Linked) (active : s.active = some link) :
    s.Unclaimed link.transport := by
  obtain ⟨t, found, -⟩ := linked.active_open link active
  refine ⟨(List.getElem?_eq_some_iff.mp found).1, ?_⟩
  rintro id ⟨call, present, opening⟩
  have routed := List.mem_map_of_mem (f := (·.transport)) (linked.active_receiver link active)
  exact linked.opening_unrouted id call _ present opening routed

theorem Trying.begin (sound : s.Sound) (kind : Transport.Kind) (target : Option String) :
    Trying s.config s.nextCall s.transports.length { kind := kind, target := target }
      (s.begin (.connect kind target)) [] := by
  have present : (s.begin (.connect kind target)).call? s.nextCall = some (.connect s.transports.length .waiting) := by
    have absent : s.calls.lookup s.nextCall = none := sound.tidy.call?_nextCall
    simp [Session.begin, call?, Calls.lookup_add, absent]
  constructor
  · simp [begin_nextCall]
  · rfl
  · exact ⟨{ kind := kind, target := target }, by simp [Session.begin], rfl, rfl⟩
  · simp [present]
  · exact .inl ⟨_, present, .waits⟩

theorem Trial.takes_active {own : List Moment} {previous : Option Nat}
    (trial : Trial config id i t own (.connect i (.releasing previous))) :
    ∃ m, own = [m] ∧ previous = m.before.active.map (·.transport) := by
  cases trial
  exact ⟨_, rfl, rfl⟩

theorem Trying.step (trying : Trying config id i t s past) (sound : s.Sound) (stepped : s.step action = some s') :
    Trying config id i t s' (past ++ [⟨s, action, s'⟩]) := by
  have move := step_move sound.tidy stepped
  have change := move.callChange sound.tidy id
  obtain ⟨u, found, kind, target⟩ := trying.transport
  have configured := trying.configured
  subst configured
  have older : id < s'.nextCall := Nat.lt_of_lt_of_le trying.old move.next_le.1
  have kept : ∃ u, s'.transports[i]? = some u ∧ t.kind = u.kind ∧ t.target = u.target := by
    obtain ⟨u', found', kind', target', -⟩ := move.keeps_transport found
    exact ⟨u', found', by rw [kind', kind], by rw [target', target]⟩
  rcases trying.trial with ⟨call, present, trial⟩ | ⟨cancelled, absent⟩
  · by_cases acts : call.isLifecycle = true ∧ action.call? = some id
    · have attempted := attempt?_of_call? present acts.1
      obtain ⟨new, now, trial'⟩ := trial.step sound found kind target
        (fun j releasing => trying.previous j (present.trans (congrArg some releasing))) attempted acts.2 stepped
      refine ⟨older, move.config_eq, kept, ?_, .inl ⟨new, now, ?_⟩⟩
      · intro j releasing
        -- the step has just taken the link, which was the active one until now
        obtain rfl := Option.some.inj (now.symm.trans releasing)
        obtain ⟨m, single, taken⟩ := trial'.takes_active
        obtain rfl : ⟨s, action, s'⟩ = m := by simpa using congrArg List.getLast? single
        obtain ⟨link, active, rfl⟩ := Option.map_eq_some_iff.mp taken.symm
        exact (unclaimed_of_active sound.linked active).step sound.tidy move
      · rw [stepsOf_append]
        simpa [attempted, acts.2] using trial'
    · have same : stepsOf id (past ++ [⟨s, action, s'⟩]) = stepsOf id past := by
        rw [stepsOf_append, if_neg, List.append_nil]
        rintro ⟨attempted, acts'⟩
        refine acts ⟨?_, acts'⟩
        obtain ⟨call', attempted⟩ := Option.isSome_iff_exists.mp attempted
        obtain ⟨present', connects⟩ := Option.filter_eq_some_iff.mp attempted
        rwa [← Option.some.inj (present.symm.trans present')] at connects
      rcases trial.connect_or_ended with connects | ⟨outcome, rfl⟩
      · have stays := call?_of_attempt? (move.keeps_attempt sound.tidy (attempt?_of_call? present connects)
          fun acts' => acts ⟨connects, acts'⟩)
        refine ⟨older, move.config_eq, kept, fun j releasing => ?_, .inl ⟨call, stays, same ▸ trial⟩⟩
        rw [stays, ← present] at releasing
        exact (trying.previous j releasing).step sound.tidy move
      · rcases change.ended_stays sound.tidy present with stays | ⟨cancelled, gone⟩
        · exact ⟨older, move.config_eq, kept, by simp [stays], .inl ⟨_, stays, same ▸ trial⟩⟩
        · exact ⟨older, move.config_eq, kept, by simp [gone], .inr ⟨by simp [cancelled], gone⟩⟩
  · have gone := change.absent_stays absent trying.old
    refine ⟨older, move.config_eq, kept, by simp [gone], .inr ⟨?_, gone⟩⟩
    rw [List.map_append, List.mem_append]
    exact .inl cancelled

theorem Trying.run {later : List Action} (trying : Trying config id i t s past) (sound : s.Sound)
    (run : s.run later = some s') : Trying config id i t s' (past ++ s.moments later) := by
  refine sound.run_induction (P := fun s recent => Trying config id i t s (past ++ recent))
    (by rwa [List.append_nil]) ?_ run
  intro before action after recent sound trying stepped
  rw [← List.append_assoc]
  exact trying.step sound stepped

end Run

/-- What a registered request comes to once its link is gone. Its write finds no link any more if it has not come about,
    and whoever has written learns that the link is closed. -/
def Progress.fate : Progress → Outcome
  | writing => .failed (.send .notConnected)
  | written (.error cause) => .failed (.send cause)
  | written (.ok ()) | awaiting _ => .failed .linkClosed

def Call.fate? : Call → Option Outcome
  | request _ _ (.registered _ _ _ progress) => some progress.fate
  | _ => none

@[simp] theorem Call.fate?_handMail (call : Call) (mail : Mail) (chosen : Nat → Bool) :
    (call.handMail mail chosen).fate? = call.fate? :=
  call.handMail_congr mail chosen Call.fate? fun _ _ _ _ _ _ _ => rfl

section Hung

variable {s s' : Session} {action : Action} {id : Nat} {call : Call} {outcome : Outcome}

theorem write_shut {i : Nat} (shut : s.Shut i) (frame : Wire.Frame) : s.write i frame = (.error .notConnected, s) := by
  have found := List.getElem?_eq_getElem shut.unclaimed.lt
  simp [Session.write, found, Transport.write, shut.writer _ found]

theorem RequestChange.keeps_fate (change : RequestChange s action s') (tidy : s.Tidy)
    (present : s.request? id = some call) (dropped : call.mail? = some .dropped) (fate : call.fate? = some outcome)
    (shut : ∀ i, call.route? = some i → s.Shut i) :
    (∃ call', s'.request? id = some call' ∧ call'.mail? = some .dropped ∧ call'.fate? = some outcome ∧
      call'.route? = call.route?) ∨ action = .cancel id ∨ s'.call? id = some (.ended outcome) := by
  have mailed (mail : Mail) (chosen : Nat → Bool) (requests : s'.request? id = some (call.handMail mail chosen)) :
      ∃ call', s'.request? id = some call' ∧ call'.mail? = some .dropped ∧ call'.fate? = some outcome ∧
        call'.route? = call.route? := by
    refine ⟨_, requests, ?_, by rw [Call.fate?_handMail, fate], call.route?_handMail mail chosen⟩
    rw [Call.mail?_handMail, if_neg (by simp [dropped]), dropped]
  cases change with
  | same requests => exact .inl ⟨call, by rw [requests, present], dropped, fate, rfl⟩
  | replied requests => exact .inl (mailed _ _ (by rw [requests, present]; rfl))
  | dropped requests => exact .inl (mailed _ _ (by rw [requests, present]; rfl))
  | added begun active calls =>
    refine .inl ⟨call, ?_, dropped, fate, rfl⟩
    rw [request?_add tidy calls, if_neg, present]
    rintro rfl
    simp [request?, tidy.call?_nextCall] at present
  | @advanced id' old new waiters bus known advance calls =>
    by_cases own : id = id'
    · subst own
      have now : s'.call? id = new := by
        rw [call?, calls, Calls.lookup_update, if_pos rfl, show s.calls.lookup id = some old from known]
        rfl
      obtain rfl := Option.some.inj (known.symm.trans (Option.filter_eq_some_iff.mp present).1)
      cases advance with
      | @writes frame timeout transport n mail result bus write =>
        have refused : result = .error .notConnected := by
          rw [write_shut (shut transport rfl)] at write
          exact (Prod.mk.inj write).1.symm
        subst refused
        exact .inl ⟨_, request?_of_call? now rfl, dropped, fate, rfl⟩
      | fails =>
        cases fate
        exact .inr (.inr now)
      | @closes frame timeout transport n progress sent =>
        have closed : progress.fate = .failed .linkClosed := by
          cases progress with
          | writing => cases sent
          | written result => cases result with
            | error cause => cases sent
            | ok done => rfl
          | awaiting deadline => rfl
        obtain rfl := Option.some.inj fate
        exact .inr (.inr (closed ▸ now))
      | orphansRequest => exact .inr (.inl rfl)
      | leaves begun => exact .inr (.inl rfl)
      | _ => cases dropped
    · exact .inl ⟨call, by rw [request?_update known calls, if_neg own, present], dropped, fate, rfl⟩

inductive Hung (s : Session) (id : Nat) (outcome : Outcome) : Prop where
  | dropped {call : Call} (present : s.request? id = some call) (mail : call.mail? = some .dropped)
      (fate : call.fate? = some outcome) (shut : ∀ i, call.route? = some i → s.Shut i)
  | ended (ended : s.call? id = some (.ended outcome))

theorem fate_ends {transport n timeout : Nat} {frame : Wire.Frame} {progress : Progress} (shut : s.Shut transport)
    (present : s.call? id = some (.request frame timeout (.registered transport n .dropped progress))) :
    s.CanEnd id (· = progress.fate) := by
  have failed {s : Session} {cause : Transport.Error}
      (present : s.call? id = some (.request frame timeout (.registered transport n .dropped (.written (.error cause))))) :
      s.step (.resume id) = some (s.giveUp id n (.send cause)) := by
    simp [step, resume, present, resumeRequest]
  cases progress with
  | writing =>
    have works : s.step (.work id) = some (s.setCall id
        (.request frame timeout (.registered transport n .dropped (.written (.error .notConnected))))) := by
      simp [step, work, present, write_shut shut]
    obtain ⟨s₁, stepped, written⟩ : ∃ s₁, s.step (.work id) = some s₁ ∧ s₁.call? id =
        some (.request frame timeout (.registered transport n .dropped (.written (.error .notConnected)))) :=
      ⟨_, works, call?_of_replace present rfl⟩
    exact ⟨_, _, .head ⟨id, .inr stepped⟩ (.single ⟨id, .inl (failed written)⟩), call?_of_replace written rfl, rfl⟩
  | written result =>
    cases result with
    | error cause => exact ⟨_, _, .single ⟨id, .inl (failed present)⟩, call?_of_replace present rfl, rfl⟩
    | ok done => exact sent_ends present rfl rfl
  | awaiting deadline => exact sent_ends present rfl rfl

theorem Hung.ends (hung : s.Hung id outcome) : s.Ends id (· = outcome) := by
  cases hung with
  | @dropped call present mail fate shut =>
    have present := (Option.filter_eq_some_iff.mp present).1
    unfold Call.fate? at fate
    split at fate
    · cases mail
      cases fate
      exact ⟨fate_ends (shut _ rfl) present, fun outcome ended => by simp [present] at ended⟩
    · cases fate
  | ended ended =>
    refine ⟨⟨s, _, .refl, ended, rfl⟩, fun outcome ended' => ?_⟩
    rw [ended] at ended'
    cases ended'
    rfl

theorem Hung.step (hung : s.Hung id outcome) (sound : s.Sound) (move : Move s action s') :
    action = .cancel id ∨ s'.Hung id outcome := by
  cases hung with
  | dropped present mail fate shut =>
    rcases (move.requestChange sound.tidy sound.linked).keeps_fate sound.tidy present mail fate shut with
      ⟨call', present', mail', fate', route⟩ | cancelled | ended
    · exact .inr (.dropped present' mail' fate' fun i same => (shut i (route ▸ same)).step sound.tidy move)
    · exact .inl cancelled
    · exact .inr (.ended ended)
  | ended ended =>
    rcases (move.callChange sound.tidy id).ended_stays sound.tidy ended with stays | ⟨cancelled, -⟩
    · exact .inr (.ended stays)
    · exact .inl cancelled

theorem Hung.run {later : List Action} (hung : s.Hung id outcome) (sound : s.Sound) (run : s.run later = some s') :
    .cancel id ∈ later ∨ s'.Hung id outcome :=
  sound.unless_cancelled (P := fun s => s.Hung id outcome) hung (fun _ _ _ sound move hung => hung.step sound move) run

end Hung

/-- The steps of an attempt that has come to its end. -/
structure Attempt where
  takes : Moment
  frees : Moment
  opens : Moment
  settles : Moment
  discards : Option Moment

namespace Attempt

def steps (a : Attempt) : List Moment := [a.takes, a.frees, a.opens, a.settles] ++ a.discards.toList

def last (a : Attempt) : Moment := a.discards.getD a.settles

/-- What an attempt comes to and what it asks of the bus depend on the configuration, on what the bus offers when the
    link is opened and when it is taken in use, and on nothing that happened before. -/
structure Anew (a : Attempt) (config : Config) (t : Transport) (outcome : Outcome) : Prop where
  result : outcome = .ofConnect
    (t.connectOn config a.opens.before.bus.offer a.settles.before.bus.offer a.settles.before.withholdsReceivers)
  /-- If the bus has not changed meanwhile, it is what a transport answers that connects for the first time. -/
  first : a.settles.before.bus.offer = a.opens.before.bus.offer → a.settles.before.withholdsReceivers = false →
    outcome = .ofConnect (t.connect config a.opens.before.bus.offer).1
  asks : a.opens.after.bus.record =
    a.opens.before.bus.record ++ (t.openLink config a.opens.before.bus.offer).2.record
  alone : ∀ m ∈ [a.takes, a.frees, a.settles] ++ a.discards.toList, m.after.bus.record = m.before.bus.record
  written : ∀ m ∈ a.steps, m.after.bus.written = m.before.bus.written

/-- What a failed attempt leaves: the status tells why, no link is active, and the transport stays released. So does
    the transport of the link that was active, and whoever waited on it comes to what is left for it. -/
structure Clean (a : Attempt) (id i : Nat) (cause : Transport.Error) : Prop where
  returned : a.last.after.call? id = some (.ended (.failed (.connect cause)))
  published : a.last.after.published = a.last.before.published ++ [.failed cause.message]
  idle : a.last.after.active = none
  released : ∀ later s, a.last.after.run later = some s → ∃ t, s.transports[i]? = some t ∧ t.IsReleased
  previous : ∀ link, a.takes.before.active = some link → ∀ later s, a.frees.after.run later = some s →
    ∃ t, s.transports[link.transport]? = some t ∧ t.IsReleased
  waiting : ∀ other call outcome, a.frees.before.request? other = some call → call.mail? = some .empty →
    call.fate? = some outcome → ∀ later s, a.frees.after.run later = some s →
      .cancel other ∈ later ∨ s.Ends other (· = outcome)
  queueing : ∀ other call, a.frees.before.request? other = some call → call.mail? = none →
    ∀ later s, a.frees.after.run later = some s →
      .cancel other ∈ later ∨ s.Ends other (· = .failed (.send .notConnected))

end Attempt

section Frees

variable {m : Moment} {previous : Option Nat} {other : Nat} {call : Call} {later : List Action} {s : Session}

theorem Moment.Frees.waiting {outcome : Outcome} (frees : m.Frees previous)
    (present : m.before.request? other = some call) (empty : call.mail? = some .empty)
    (fate : call.fate? = some outcome) (run : m.after.run later = some s) :
    .cancel other ∈ later ∨ s.Ends other (· = outcome) := by
  obtain ⟨n, seq⟩ := Option.isSome_iff_exists.mp (Option.filter_eq_some_iff.mp present).2
  obtain ⟨call', present', -, dropped⟩ := frees.torn.closed frees.before.queued present seq empty
  have mailed : call' = call.handMail .dropped (· ∈ m.before.waiters) := by
    have requests := frees.torn.requests other
    rw [present, Option.map_some] at requests
    exact Option.some.inj (present'.symm.trans requests)
  have hung : m.after.Hung other outcome := by
    refine .dropped present' dropped (by rw [mailed, Call.fate?_handMail, fate]) fun i route => ?_
    rw [mailed, Call.route?_handMail] at route
    exact frees.shut i (frees.used i (frees.before.queued.waiting_used other call i present route empty))
  exact (hung.run frees.after run).imp_right Hung.ends

theorem Moment.Frees.queueing (frees : m.Frees previous) (present : m.before.request? other = some call)
    (unregistered : call.mail? = none) (run : m.after.run later = some s) :
    .cancel other ∈ later ∨ s.Ends other (· = .failed (.send .notConnected)) := by
  have stranded := frees.torn.stranded frees.after.queued present unregistered
  have old : other < m.after.nextCall := by
    cases stranded with
    | queueing present => exact frees.after.tidy.lt_nextCall present
    | ended ended => exact frees.after.tidy.lt_nextCall ended
  exact (stranded.run frees.after old run).2.imp_right fun stranded => stranded.ends (frees.after.run run)

end Frees

theorem Shut.released_after {s s' : Session} {i : Nat} {later : List Action} (shut : s.Shut i) (sound : s.Sound)
    (run : s.run later = some s') : ∃ t, s'.transports[i]? = some t ∧ t.IsReleased :=
  (shut.run sound run).released

section Ended

variable {config : Config} {id i : Nat} {t : Transport} {own : List Moment}

theorem Trial.opened {result : Except Transport.Error Nat} (trial : Trial config id i t own (.connect i (.opened result))) :
    ∃ takes frees opens, own = [takes, frees, opens] ∧ takes.IsQuiet ∧
      frees.Frees (takes.before.active.map (·.transport)) ∧ opens.Opens t config ∧
      result = (t.openLink config opens.before.bus.offer).1 := by
  cases trial with
  | @opens _ opens opening asks =>
    cases opening with
    | @frees _ frees _ releasing freed =>
      cases releasing with
      | @takes takes quiet => exact ⟨takes, frees, opens, rfl, quiet, freed, asks, rfl⟩

/-- An attempt that begins with a transport without a link: only opening the link asks the bus for anything. -/
theorem Attempt.Anew.of_quiet {a : Attempt} {outcome : Outcome} (closed : t.isConnected = false)
    (result : outcome = .ofConnect
      (t.connectOn config a.opens.before.bus.offer a.settles.before.bus.offer a.settles.before.withholdsReceivers))
    (opens : a.opens.Opens t config) (quiet : ∀ m ∈ [a.takes, a.frees, a.settles] ++ a.discards.toList, m.IsQuiet) :
    a.Anew config t outcome where
  result := result
  first same handsOut := by rw [result, same, handsOut, t.connect_result config _ closed]
  asks := opens.record
  alone m member := (quiet m member).record
  written m member := by
    by_cases opening : m = a.opens
    · exact opening ▸ opens.written
    · refine (quiet m ?_).written
      simpa [Attempt.steps, opening] using member

theorem Trial.attempt {outcome : Outcome} (trial : Trial config id i t own (.ended outcome))
    (closed : t.isConnected = false) : ∃ a : Attempt, own = a.steps ∧ a.Anew config t outcome ∧
      ∀ error, outcome = .failed error → ∃ cause, error = .connect cause ∧ a.Clean id i cause := by
  cases trial with
  | @installs _ settles _ opened quiet taken =>
    obtain ⟨takes, frees, opens, rfl, taking, freed, asks, rfl⟩ := opened.opened
    have outcome : Outcome.done = .ofConnect (t.connectOn config opens.before.bus.offer settles.before.bus.offer
        settles.before.withholdsReceivers) := by
      rw [Transport.connectOn, taken]
      rfl
    have alone : ∀ m ∈ [takes, frees, settles], m.IsQuiet := by simp [taking, freed.quiet, quiet]
    exact ⟨⟨takes, frees, opens, settles, none⟩, rfl, .of_quiet closed outcome asks alone, by rintro _ ⟨⟩⟩
  | @discards _ discards cause discarding discarded =>
    cases discarding with
    | @refuses _ settles _ _ opened quiet refused =>
      obtain ⟨takes, frees, opens, rfl, taking, freed, asks, rfl⟩ := opened.opened
      have outcome : Outcome.failed (.connect cause) = .ofConnect (t.connectOn config opens.before.bus.offer
          settles.before.bus.offer settles.before.withholdsReceivers) := by
        rw [Transport.connectOn, refused]
        rfl
      have alone : ∀ m ∈ [takes, frees, settles, discards], m.IsQuiet := by
        simp [taking, freed.quiet, quiet, discarded.quiet]
      refine ⟨⟨takes, frees, opens, settles, some discards⟩, rfl, .of_quiet closed outcome asks alone, ?_⟩
      rintro _ ⟨⟩
      refine ⟨cause, rfl, discarded.ended, discarded.published, discarded.active, ?_, ?_, ?_, ?_⟩
      · exact fun later s run => discarded.shut.released_after discarded.sound run
      · intro link active later s run
        exact (freed.shut _ (by rw [active, Option.map_some])).released_after freed.after run
      · exact fun other call outcome present empty fate later s run => freed.waiting present empty fate run
      · exact fun other call present unregistered later s run => freed.queueing present unregistered run

end Ended

/-- A call to connect, whatever the session has done before and whatever else goes on meanwhile. -/
structure Attempted (s s' : Session) (kind : Transport.Kind) (target : Option String) (later : List Action) : Prop where
  ends : .cancel s.nextCall ∈ later ∨ s'.CanEnd s.nextCall fun outcome => ∃ result, outcome = .ofConnect result
  ended : ∀ outcome, s'.call? s.nextCall = some (.ended outcome) → ∃ a : Attempt,
    stepsOf s.nextCall ((s.begin (.connect kind target)).moments later) = a.steps ∧
      a.Anew s.config { kind := kind, target := target } outcome ∧
      ∀ error, outcome = .failed error → ∃ cause, error = .connect cause ∧
        a.Clean s.nextCall s.transports.length cause

theorem Trying.ends {config : Config} {id i : Nat} {t : Transport} {s : Session} {past : List Moment}
    (trying : Trying config id i t s past) (sound : s.Sound) {call : Call} (present : s.call? id = some call)
    (trial : Trial config id i t (stepsOf id past) call) (closed : t.isConnected = false) :
    s.CanEnd id fun outcome => ∃ result, outcome = .ofConnect result := by
  have fate : ∃ s' outcome, Relation.ReflTransGen Proceeds s s' ∧ s'.call? id = some (.ended outcome) := by
    rcases trial.connect_or_ended with connects | ⟨outcome, rfl⟩
    · exact lifecycle_ends sound (attempt?_of_call? present connects)
    · exact ⟨s, outcome, .refl, present⟩
  obtain ⟨s', outcome, steps, ended⟩ := fate
  refine ⟨s', outcome, steps, ended, ?_⟩
  obtain ⟨actions, run⟩ := run_of_proceeds steps
  rcases (trying.run sound run).trial with ⟨call', present', trial'⟩ | ⟨-, absent⟩
  · obtain rfl := Option.some.inj (ended.symm.trans present')
    obtain ⟨a, -, anew, -⟩ := trial'.attempt closed
    exact ⟨_, anew.result⟩
  · simp [ended] at absent

/-- Every attempt to connect begins anew and comes to an end, and one that fails leaves nothing behind. -/
theorem attempts_begin_anew {config : Config} {bus : Link.Bus} {actions later : List Action} {s s' : Session}
    (run : (fresh config bus).run actions = some s) (kind : Transport.Kind) (target : Option String)
    (run' : (s.begin (.connect kind target)).run later = some s') : Attempted s s' kind target later := by
  have sound := sound_of_run run
  have stepped : s.step (.begin (.connect kind target)) = some (s.begin (.connect kind target)) := rfl
  have begun := sound.step stepped
  have trying := (Trying.begin sound kind target).run begun run'
  rw [List.nil_append] at trying
  constructor
  · rcases trying.trial with ⟨call, present, trial⟩ | ⟨cancelled, -⟩
    · exact .inr (trying.ends (begun.run run') present trial rfl)
    · rw [moments_actions run'] at cancelled
      exact .inl cancelled
  · intro outcome ended
    rcases trying.trial with ⟨call, present, trial⟩ | ⟨-, absent⟩
    · obtain rfl := Option.some.inj (ended.symm.trans present)
      exact trial.attempt rfl
    · simp [ended] at absent

theorem attempts_begin_anew_retried : ∃ bus actions later retry s s' s'',
    (fresh {} bus).run actions = some s ∧ s.waiters = [1] ∧ (s.begin (.connect .usb none)).run later = some s' ∧
    s'.published = [.connecting, .connected, .connecting, .failed (Link.Error.notFound "adapter").message] ∧
    Attempted s s' .usb none later ∧
    (s'.begin (.connect .usb none)).run retry = some s'' ∧ s''.status = .connected ∧
    Attempted s' s'' .usb none retry := by
  let bus : Link.Bus := { devices := [.ofInfo ⟨"adapter", .usb, none⟩ .silent []] }
  let actions : List Action :=
    [.begin (.connect .usb none), .resume 0, .resume 0, .work 0, .resume 0, .begin (.request [5] 10), .resume 1, .work 1,
      .resume 1, .happen (.failOpen true)]
  let later : List Action :=
    [.resume 2, .resume 2, .work 2, .resume 2, .resume 1, .resume 2, .happen (.failOpen false)]
  let retry : List Action := [.resume 3, .resume 3, .work 3, .resume 3]
  have ends : ((fresh {} bus).run actions).any (fun s => s.waiters = [1] ∧
      ((s.begin (.connect .usb none)).run later).any (fun s' =>
        s'.published = [.connecting, .connected, .connecting, .failed (Link.Error.notFound "adapter").message] ∧
        ((s'.begin (.connect .usb none)).run retry).any (·.status = .connected) = true) = true) = true := by
    decide +kernel
  obtain ⟨s, run, ends⟩ := (Option.any_eq_true _ _).mp ends
  obtain ⟨waiters, ends⟩ := of_decide_eq_true ends
  obtain ⟨s', run', ends⟩ := (Option.any_eq_true _ _).mp ends
  obtain ⟨published, ends⟩ := of_decide_eq_true ends
  obtain ⟨s'', run'', connected⟩ := (Option.any_eq_true _ _).mp ends
  have whole : (fresh {} bus).run (actions ++ .begin (.connect .usb none) :: later) = some s' := by
    rw [Session.run, List.foldlM_append]
    exact (congrArg (· >>= _) run).trans run'
  exact ⟨bus, actions, later, retry, s, s', s'', run, waiters, run', published,
    attempts_begin_anew run .usb none run', run'', of_decide_eq_true connected,
    attempts_begin_anew whole .usb none run''⟩

/-- A request waits on the link while its write is under way. The link is replaced before the write comes about, and the
    request ends with the failure of its write. -/
theorem waiting_not_closed : ∃ s s' : Session,
    (fresh {} { devices := [.ofInfo ⟨"adapter", .usb, none⟩ .silent []] }).run
      [.begin (.connect .usb none), .resume 0, .resume 0, .work 0, .resume 0, .begin (.request [5] 10), .resume 1,
        .happen (.failOpen true)] = some s ∧
    s.waiters = [1] ∧ s.isLive 1 = true ∧
    (s.begin (.connect .usb none)).run
      [.resume 2, .resume 2, .work 2, .resume 2, .resume 2, .work 1, .resume 1] = some s' ∧
    s'.call? 2 = some (.ended (.failed (.connect (.link (.notFound "adapter"))))) ∧
    s'.call? 1 = some (.ended (.failed (.send .notConnected))) :=
  ⟨_, _, rfl, rfl, rfl, rfl, rfl, rfl⟩

end TagConsole.Session
