import TagConsole.Proofs.Session.Deliveries
import TagConsole.Proofs.Session.Progress

/-!
Links have nothing to do with one another. A request gets its reply from the link that it began on or
none at all, and nothing of a link is left when the next one is put in use.
-/

namespace TagConsole.Session

open Wire (Frame)

section Gone

variable {s s' : Session} {i : Nat}

theorem not_inUse_of_begun {call : Call} (gone : ¬ s.InUse i) (tidy : s.Tidy) (idle : call.releasing? = none)
    (calls : s'.calls = s.calls ++ [(s.nextCall, call)]) (active : s'.active = s.active) : ¬ s'.InUse i := by
  rintro (⟨generation, used⟩ | ⟨id, call', present, releases⟩)
  · exact gone (.inl ⟨generation, active.symm.trans used⟩)
  · rw [attempt?_add tidy calls] at present
    split at present
    · obtain ⟨same, -⟩ := Option.filter_eq_some_iff.mp present
      rw [← Option.some.inj same, idle] at releases
      cases releases
    · exact gone (.inr ⟨id, call', present, releases⟩)

theorem not_inUse_of_replaced {id : Nat} {new : Call} (gone : ¬ s.InUse i)
    (attempts : ∀ other, s'.attempt? other =
      if other = id then (some new).filter (·.isLifecycle) else s.attempt? other)
    (idle : new.releasing? ≠ some i)
    (active : ∀ generation, s'.active = some ⟨i, generation⟩ → s.active = some ⟨i, generation⟩) : ¬ s'.InUse i := by
  rintro (⟨generation, used⟩ | ⟨other, call, present, releases⟩)
  · exact gone (.inl ⟨generation, active generation used⟩)
  · rw [attempts] at present
    split at present
    · rw [← Option.some.inj (Option.filter_eq_some_iff.mp present).1] at releases
      exact idle releases
    · exact gone (.inr ⟨other, call, present, releases⟩)

theorem Move.out_of_use {action : Action} (move : Move s action s') (tidy : s.Tidy) (linked : s.Linked)
    (routed : i ∈ s.receivers.map (·.transport)) (gone : ¬ s.InUse i) : ¬ s'.InUse i := by
  have same {s' : Session} (attempts : s'.attempt? = s.attempt?) (active : s'.active = s.active) : ¬ s'.InUse i := by
    rwa [inUse_congr attempts active]
  have apart {id transport : Nat} {stage : Connecting} (present : s.call? id = some (.connect transport stage)) :
      transport ≠ i := by
    rintro rfl
    exact linked.opening_unrouted id _ transport (attempt?_of_call? present rfl) rfl routed
  cases move with
  | refusesSend isClosed => exact not_inUse_of_begun gone tidy rfl rfl rfl
  | refusesRequest isClosed => exact not_inUse_of_begun gone tidy rfl rfl rfl
  | sends active isOpen => exact not_inUse_of_begun gone tidy rfl rfl rfl
  | requests active isOpen => exact not_inUse_of_begun gone tidy rfl rfl rfl
  | connects => exact not_inUse_of_begun gone tidy rfl rfl rfl
  | disconnects => exact not_inUse_of_begun gone tidy rfl rfl rfl
  | advances present advance => exact same (attempt?_update present advance.sends rfl) rfl
  | takes present turn stage =>
    have idle : s.active.map (·.transport) ≠ some i := by
      intro taken
      obtain ⟨⟨transport, generation⟩, active, rfl⟩ := Option.map_eq_some_iff.mp taken
      exact gone (.inl ⟨generation, active⟩)
    rcases stage with ⟨transport, rfl, rfl⟩ | ⟨rfl, rfl⟩
    · exact not_inUse_of_replaced gone (attempt?_replace present rfl) idle (by rintro _ ⟨⟩)
    · exact not_inUse_of_replaced gone (attempt?_replace present rfl) idle (by rintro _ ⟨⟩)
  | reopens present =>
    exact not_inUse_of_replaced gone (attempt?_handMail_replace present rfl) (by rintro ⟨⟩) fun _ h => h
  | disconnected present =>
    exact not_inUse_of_replaced gone (attempt?_handMail_replace present rfl) (by rintro ⟨⟩) fun _ h => h
  | opens present => exact not_inUse_of_replaced gone (attempt?_replace present rfl) (by rintro ⟨⟩) fun _ h => h
  | opensNot present =>
    exact not_inUse_of_replaced gone (attempt?_replace present rfl)
      (by simpa [Call.releasing?] using apart present) fun _ h => h
  | attachesNot present =>
    exact not_inUse_of_replaced gone (attempt?_replace present rfl)
      (by simpa [Call.releasing?] using apart present) fun _ h => h
  | installs present found attached =>
    refine not_inUse_of_replaced gone (attempt?_replace present rfl) (by rintro ⟨⟩) ?_
    rintro generation ⟨⟩
    exact absurd rfl (apart present)
  | discards present => exact not_inUse_of_replaced gone (attempt?_replace present rfl) (by rintro ⟨⟩) fun _ h => h
  | delivers => exact same (attempt?_handMail rfl) rfl
  | loses =>
    rintro (⟨generation, ⟨⟩⟩ | ⟨other, call, present, releases⟩)
    rw [attempt?_handMail (s := s) rfl] at present
    exact gone (.inr ⟨other, call, present, releases⟩)
  | _ => exact same rfl rfl

theorem Move.keeps_receiver {action : Action} (move : Move s action s') {r : Receiver} (member : r ∈ s.receivers) :
    ∃ r' ∈ s'.receivers, r'.generation = r.generation ∧ r'.transport = r.transport := by
  have staged (stage : Receiver.Stage) (chosen : Receiver → Bool) :
      ∃ r' ∈ s.receivers.map fun r => if chosen r then { r with stage := stage } else r,
        r'.generation = r.generation ∧ r'.transport = r.transport := by
    refine ⟨_, List.mem_map_of_mem member, ?_⟩
    split <;> exact ⟨rfl, rfl⟩
  cases move with
  | takes present turn stage =>
    rw [takeActive_receivers]
    exact staged .over _
  | installs => exact ⟨r, List.mem_append_left _ member, rfl, rfl⟩
  | loses =>
    rw [updateReceiver_receivers]
    exact staged .releasing _
  | noticesLate =>
    rw [updateReceiver_receivers]
    exact staged .over _
  | releases =>
    rw [updateReceiver_receivers]
    exact staged .over _
  | _ => exact ⟨r, member, rfl, rfl⟩

end Gone

/-- The three steps that tear a link down: a connect or a disconnect releases it, or it is lost. -/
inductive TearsDown (s : Session) : Action → Session → Prop where
  | replaced {s' id transport previous} (present : s.call? id = some (.connect transport (.releasing previous)))
      (stepped : s.step (.resume id) = some s') : TearsDown s (.resume id) s'
  | disconnected {s' id previous} (present : s.call? id = some (.disconnect (.releasing previous)))
      (stepped : s.step (.resume id) = some s') : TearsDown s (.resume id) s'
  | lost {s' generation} (current : s.active.any (·.generation = generation) = true)
      (stepped : s.step (.receive generation) = some s') (gone : s'.active = none) :
      TearsDown s (.receive generation) s'

structure Torn (s s' : Session) : Prop where
  waiters : s'.waiters = []
  requests : ∀ other, s'.request? other = (s.request? other).map (·.handMail .dropped (· ∈ s.waiters))
  unused : ∀ i, ¬ s'.InUse i

section Torn

variable {s s' : Session}

theorem Sound.torn (sound : s.Sound) {action : Action} (tears : TearsDown s action s') : Torn s s' := by
  cases tears with
  | replaced present stepped =>
    simp only [Session.step, Session.resume, present, Option.bind_eq_bind, Option.bind_some, resumeConnect,
      Option.some.injEq] at stepped
    rw [detach_eq] at stepped
    subst stepped
    exact ⟨rfl, request?_handMail_replace present rfl rfl rfl,
      not_inUse_of_released sound.tidy sound.linked present rfl rfl rfl rfl rfl⟩
  | disconnected present stepped =>
    simp only [Session.step, Session.resume, present, Option.bind_eq_bind, Option.bind_some, resumeDisconnect,
      Option.some.injEq] at stepped
    rw [detach_eq] at stepped
    subst stepped
    exact ⟨rfl, request?_handMail_replace present rfl rfl rfl,
      not_inUse_of_released sound.tidy sound.linked present rfl rfl rfl rfl rfl⟩
  | @lost _ generation current stepped gone =>
    have move := step_move sound.tidy stepped
    obtain ⟨link, active, -⟩ := (Option.any_eq_true _ _).mp current
    cases move with
    | loses known stage found taps ended current =>
      exact ⟨rfl, request?_handMail rfl, not_inUse_of_lost sound.linked (Option.isSome_of_any current) rfl rfl⟩
    | advances present advance => cases advance
    | delivers => exact absurd (active.symm.trans gone) (by simp)
    | publishes => exact absurd (active.symm.trans gone) (by simp)
    | noticesLate => exact absurd (active.symm.trans gone) (by simp)
    | releases => exact absurd (active.symm.trans gone) (by simp)

end Torn

/-- A call has ended in one of some ways, or it can still and in no other way has. -/
structure Ends (s : Session) (id : Nat) (as : Outcome → Prop) : Prop where
  can_end : s.CanEnd id as
  ended : ∀ outcome, s.call? id = some (.ended outcome) → as outcome

def Outcome.IsClosed (outcome : Outcome) : Prop :=
  outcome = .failed .linkClosed ∨ ∃ cause, outcome = .failed (.send cause)

structure Spent (s : Session) (n : Nat) : Prop where
  lt : n < s.nextSeq
  absent : n ∉ s.waiters
  registered : ∀ id call, s.request? id = some call → call.seq? = some n → call.mail? ≠ none

theorem Spent.step {s s' : Session} {action : Action} {n : Nat} (spent : s.Spent n) (sound : s.Sound)
    (move : Move s action s') : s'.Spent n := by
  constructor
  · exact Nat.lt_of_lt_of_le spent.lt move.next_le.2
  · have absent := spent.absent
    cases move.frameChange sound.tidy sound.linked sound.queued with
    | quiet arrival registration none inbound unsolicited waiters => exact fun member => absent (waiters.subset member)
    | registers arrival registration none inbound unsolicited present number unregistered registered waiters =>
      simp only at waiters
      rw [waiters, List.mem_append, List.mem_singleton]
      rintro (member | rfl)
      · exact absent member
      · exact spent.registered _ _ present number unregistered
    | delivers arrival registration one inbound unsolicited queue abandoned live waiters =>
      simp only at waiters queue
      rw [waiters]
      exact fun member => absent (by simp [queue, member])
    | publishes arrival registration none inbound unsolicited abandoned waiters =>
      simp only at waiters
      simp [waiters]
  · intro id call' present' seq
    rcases (move.requestChange sound.tidy sound.linked).before sound.tidy present' with begun | ⟨call, present, next⟩
    · obtain rfl : n = s.nextSeq := Option.some.inj (seq.symm.trans begun.seq)
      exact absurd spent.lt (Nat.lt_irrefl _)
    · have registered := spent.registered id call present (next.seq.symm.trans seq)
      rcases next.mail with same | ⟨unregistered, -⟩ | ⟨-, mail, handed⟩
      · rwa [same]
      · exact absurd unregistered registered
      · simp [handed]

/-- A request that was handed mail, which brings about an outcome unless the write of the request has failed. -/
inductive Handed (s : Session) (id : Nat) (outcome : Outcome) : Prop where
  | mailed {call mail} (present : s.request? id = some call) (holds : call.mail? = some mail)
      (brings : mail.outcome? = some outcome)
  | ended {ends} (ended : s.call? id = some (.ended ends))
      (brought : ends = outcome ∨ ∃ cause, ends = .failed (.send cause))

def Closed (s : Session) (id : Nat) : Prop := s.Handed id (.failed .linkClosed)

section Fate

variable {s s' : Session} {action : Action} {id : Nat}

theorem Handed.ends {outcome : Outcome} (handed : s.Handed id outcome) :
    s.Ends id fun ends => ends = outcome ∨ ∃ cause, ends = .failed (.send cause) := by
  cases handed with
  | @mailed call mail present holds brings =>
    have present := (Option.filter_eq_some_iff.mp present).1
    unfold Call.mail? at holds
    split at holds
    · cases holds
      exact ⟨handed_ends present brings, fun outcome ended => by simp [present] at ended⟩
    · cases holds
  | ended ended brought =>
    refine ⟨⟨s, _, .refl, ended, brought⟩, fun outcome ended' => ?_⟩
    rw [ended] at ended'
    cases ended'
    exact brought

theorem Handed.step {outcome : Outcome} (handed : s.Handed id outcome) (sound : s.Sound) (move : Move s action s') :
    action = .cancel id ∨ s'.Handed id outcome := by
  cases handed with
  | @mailed call mail present holds brings =>
    have change := move.requestChange sound.tidy sound.linked
    rcases change.after sound.tidy present with ⟨call', present', next⟩ | ⟨cancelled, -⟩ |
      ⟨ends, ended, ⟨reply, rfl, replied⟩ | ⟨rfl, dropped⟩ | ⟨cause, rfl, -⟩ | ⟨waited, -, empty⟩⟩
    · refine .inr (.mailed present' ?_ brings)
      rcases next.mail with same | ⟨none, -⟩ | ⟨empty, -⟩
      · rw [same, holds]
      · simp [holds] at none
      · rw [holds, Option.some.injEq] at empty
        subst empty
        cases brings
    · exact .inl cancelled
    · rw [holds, Option.some.injEq] at replied
      subst replied
      exact .inr (.ended ended (.inl (Option.some.inj brings)))
    · rw [holds, Option.some.injEq] at dropped
      subst dropped
      exact .inr (.ended ended (.inl (Option.some.inj brings)))
    · exact .inr (.ended ended (.inr ⟨cause, rfl⟩))
    · rw [holds, Option.some.injEq] at empty
      subst empty
      cases brings
  | ended ended brought =>
    rcases (move.callChange sound.tidy id).ended_stays sound.tidy ended with stays | ⟨cancelled, -⟩
    · exact .inr (.ended stays brought)
    · exact .inl cancelled

theorem Closed.dropped {call : Call} (present : s.request? id = some call) (mail : call.mail? = some .dropped) :
    s.Closed id := .mailed present mail rfl

theorem Closed.ends (closed : s.Closed id) : s.Ends id Outcome.IsClosed := Handed.ends closed

inductive Stranded (s : Session) (id : Nat) : Prop where
  | queueing {frame timeout transport n} (present : s.call? id = some (.request frame timeout (.queueing transport n)))
      (routed : transport ∈ s.receivers.map (·.transport)) (gone : ¬ s.InUse transport)
  | ended (ended : s.call? id = some (.ended (.failed (.send .notConnected))))

theorem Stranded.closed {transport : Nat} (linked : s.Linked) (gone : ¬ s.InUse transport) :
    s.transports[transport]?.any (·.isConnected) = false :=
  Bool.eq_false_iff.mpr fun isOpen => gone (linked.inUse_of_isConnected isOpen)

theorem Stranded.ends (stranded : s.Stranded id) (sound : s.Sound) :
    s.Ends id (· = .failed (.send .notConnected)) := by
  cases stranded with
  | queueing present routed gone =>
    exact ⟨queueing_ends sound.tidy present (closed sound.linked gone), fun outcome ended => by simp [present] at ended⟩
  | ended ended =>
    refine ⟨⟨s, _, .refl, ended, rfl⟩, fun outcome ended' => ?_⟩
    rw [ended] at ended'
    cases ended'
    rfl

theorem Stranded.step (stranded : s.Stranded id) (sound : s.Sound) (move : Move s action s') :
    (action = .cancel id ∧ s'.call? id = none) ∨ s'.Stranded id := by
  cases stranded with
  | @queueing frame timeout transport n present routed gone =>
    rcases (move.callChange sound.tidy id).queueing_stays sound.tidy present (closed sound.linked gone) with
      stays | ended | cancelled
    · obtain ⟨r, member, rfl⟩ := List.mem_map.mp routed
      obtain ⟨r', member', -, same⟩ := move.keeps_receiver member
      have routes : r.transport ∈ s'.receivers.map (·.transport) := List.mem_map.mpr ⟨r', member', same⟩
      exact .inr (.queueing stays routes (move.out_of_use sound.tidy sound.linked routed gone))
    · exact .inr (.ended ended)
    · exact .inl cancelled
  | ended ended =>
    rcases (move.callChange sound.tidy id).ended_stays sound.tidy ended with stays | cancelled
    · exact .inr (.ended stays)
    · exact .inl cancelled

theorem Stranded.idle (stranded : s.Stranded id) : s.step (.work id) = none := by
  cases stranded with
  | queueing present routed gone => simp [Session.step, work, present]
  | ended ended => simp [Session.step, work, ended]

end Fate

def Moment.taking? (m : Moment) : Option (Nat × Nat) :=
  match m.action with
  | .begin (.request _ _) =>
    match m.before.active, (m.after.call? m.before.nextCall).bind (·.route?) with
    | some link, some _ => some (m.before.nextCall, link.generation)
    | _, _ => none
  | _ => none

def takings (past : List Moment) : List (Nat × Nat) := past.filterMap (·.taking?)

@[simp] theorem takings_append (past : List Moment) (m : Moment) :
    takings (past ++ [m]) = takings past ++ m.taking?.toList := by
  cases taking : m.taking? <;> simp [takings, taking]

/-- What is known of the links of requests while a run goes on. -/
structure Owned (s : Session) (past : List Moment) : Prop where
  bounds : ∀ id g, (id, g) ∈ takings past → id < s.nextCall
  nodup : ((takings past).map (·.1)).Nodup
  taken : ∀ id call, s.request? id = some call → ∃ g, (id, g) ∈ takings past ∧
    ∃ r ∈ s.receivers, r.generation = g ∧ call.route? = some r.transport
  delivered : ∀ m ∈ past, ∀ d ∈ m.deliveries, ∃ g, (d.call, g) ∈ takings past ∧ m.arrival? = some (g, d.frame)

section Owned

variable {m : Moment} {past : List Moment} (owned : m.before.Owned past) (sound : m.before.Sound)
include owned sound

theorem Owned.delivers (change : FrameChange m) {d : Delivery} (handed : d ∈ m.deliveries) :
    ∃ g, (d.call, g) ∈ takings past ∧ m.arrival? = some (g, d.frame) := by
  cases change with
  | @delivers generation frame id n dead later arrival registration one =>
    obtain ⟨call, present, seq, empty, -⟩ := (mem_deliveries sound.tidy).mp handed
    have present := request?_of_call? present (by simp [seq])
    rw [one, List.mem_singleton] at handed
    subst handed
    obtain ⟨g, taken, r, member, rfl, route⟩ := owned.taken _ call present
    obtain ⟨-, receiver, -, -, -, known, stage, -⟩ := arrival?_eq_some.mp arrival
    obtain ⟨member', rfl⟩ := receiver?_some known
    have active := sound.linked.listening_active receiver member' stage
    -- the link of the frame is the active one, so it is the one that the request waits for
    have used := sound.queued.waiting_used _ call _ present route empty
    have same : r.transport = receiver.transport := sound.linked.inUse_eq active used
    have own := List.inj_on_of_nodup_map sound.linked.routes_nodup member member' same
    exact ⟨r.generation, taken, by rw [arrival, own]⟩
  | quiet arrival registration none => simp [none] at handed
  | registers arrival registration none => simp [none] at handed
  | publishes arrival registration none => simp [none] at handed

theorem Owned.step (stepped : m.before.step m.action = some m.after) : m.after.Owned (past ++ [m]) := by
  have move := step_move sound.tidy stepped
  have change : FrameChange m := move.frameChange sound.tidy sound.linked sound.queued
  have later {id g : Nat} (member : (id, g) ∈ takings past) : (id, g) ∈ takings (past ++ [m]) := by
    rw [takings_append]
    exact List.mem_append_left _ member
  have newest {id g : Nat} (taking : m.taking? = some (id, g)) :
      id = m.before.nextCall ∧ m.after.nextCall = m.before.nextCall + 1 := by
    unfold Moment.taking? at taking
    split at taking
    · rename_i action
      rw [action] at stepped
      split at taking
      · cases taking
        exact ⟨rfl, by rw [← Option.some.inj stepped, begin_nextCall]⟩
      · cases taking
    · cases taking
  constructor
  · intro id g member
    rw [takings_append, List.mem_append, Option.mem_toList] at member
    have grows := move.next_le.1
    rcases member with member | taking
    · exact Nat.lt_of_lt_of_le (owned.bounds id g member) grows
    · have := newest taking
      omega
  · rw [takings_append, List.map_append]
    cases taking : m.taking? with
    | none => simpa using owned.nodup
    | some place =>
      have fresh : place.1 ∉ (takings past).map (·.1) := by
        rw [(newest taking).1]
        intro member
        obtain ⟨⟨id, g⟩, member, same⟩ := List.mem_map.mp member
        exact absurd (owned.bounds id g member) (by simp only at same; omega)
      simpa using owned.nodup.concat fresh
  · intro id call' present'
    rcases (move.requestChange sound.tidy sound.linked).before sound.tidy present' with begun | ⟨call, present, next⟩
    · obtain ⟨link, active, route⟩ := begun.link
      obtain ⟨frame, timeout, action⟩ := begun.action
      obtain ⟨r', member', generation, transport⟩ := move.keeps_receiver (sound.linked.active_receiver link active)
      refine ⟨link.generation, ?_, r', member', generation, by rw [route, transport]⟩
      have now : m.after.call? m.before.nextCall = some call' :=
        begun.id ▸ (Option.filter_eq_some_iff.mp present').1
      simp [Moment.taking?, action, active, now, route, begun.id]
    · obtain ⟨g, taken, r, member, same, route⟩ := owned.taken id call present
      obtain ⟨r', member', generation, transport⟩ := move.keeps_receiver member
      exact ⟨g, later taken, r', member', generation.trans same, by rw [next.route, route, transport]⟩
  · intro m' member d handed
    rcases List.mem_append.mp member with old | new
    · obtain ⟨g, taken, arrival⟩ := owned.delivered m' old d handed
      exact ⟨g, later taken, arrival⟩
    · obtain rfl := List.mem_singleton.mp new
      obtain ⟨g, taken, arrival⟩ := owned.delivers sound change handed
      exact ⟨g, later taken, arrival⟩

end Owned

theorem fresh_owned (config : Config) (bus : Link.Bus) : (fresh config bus).Owned [] := by
  constructor
  all_goals simp [fresh, takings, request?, call?]

/-- What holds for the links and requests of a session, whatever it has done and will do. -/
structure Isolated (s : Session) (past : List Moment) : Prop where
  delivered : ∀ id g, (id, g) ∈ takings past → ∀ m ∈ past, ∀ d ∈ m.deliveries, d.call = id →
    m.arrival? = some (g, d.frame)
  replied : ∀ id reply, s.call? id = some (.ended (.reply reply)) →
    ∃ g, (id, g) ∈ takings past ∧ ∃ m ∈ past, m.arrival? = some (g, reply)
  /-- Whoever waits when a link is torn down learns that it is gone, and leaves no waiter. -/
  waiting : ∀ action torn, TearsDown s action torn → torn.waiters = [] ∧
    ∀ id call n, s.request? id = some call → call.seq? = some n → call.mail? = some .empty →
      ∀ later s', torn.run later = some s' →
        n ∉ s'.waiters ∧ (.cancel id ∈ later ∨ s'.Ends id Outcome.IsClosed)
  /-- Whoever queues for its turn at that time fails, and writes nothing. -/
  queueing : ∀ action torn, TearsDown s action torn →
    ∀ id call, s.request? id = some call → call.mail? = none → ∀ later s', torn.run later = some s' →
      .work id ∉ later ∧ (.cancel id ∈ later ∨ s'.Ends id (· = .failed (.send .notConnected)))
  begins_empty : ∀ action s', s.step action = some s' → s'.generation ≠ s.generation → s'.waiters = []
  late_notice : ∀ t t' : Session, ∀ generation, t.active.any (·.generation = generation) = false →
    t.step (.receive generation) = some t' → Moment.arrival? ⟨t, .receive generation, t'⟩ = none →
      t'.active = t.active ∧ t'.waiters = t.waiters ∧ t'.published = t.published ∧ t'.calls = t.calls

section Run

variable {s s' torn : Session} {id : Nat} {call : Call} {later : List Action}

theorem moments_actions (run : s.run later = some s') : (s.moments later).map (·.action) = later := by
  induction later generalizing s with
  | nil => rfl
  | cons action later ih =>
    rw [run_cons, Option.bind_eq_some_iff] at run
    obtain ⟨after, stepped, run⟩ := run
    simp only [moments, stepped, List.map_cons, ih run]

/-- What only a cancellation can end holds for good unless the call is cancelled. -/
theorem Sound.unless_cancelled {P : Session → Prop} (sound : torn.Sound) (holds : P torn)
    (step : ∀ before action after, before.Sound → Move before action after → P before →
      action = .cancel id ∨ P after)
    (run : torn.run later = some s') : .cancel id ∈ later ∨ P s' := by
  have fate := sound.run_induction (P := fun s past => .cancel id ∈ past.map (·.action) ∨ P s) (.inr holds) ?_ run
  · rwa [moments_actions run] at fate
  · intro before action after past sound fate stepped
    rw [List.map_append, List.mem_append]
    rcases fate with cancelled | holds
    · exact .inl (.inl cancelled)
    · rcases step before action after sound (step_move sound.tidy stepped) holds with cancelled | holds
      · exact .inl (.inr (by simp [cancelled]))
      · exact .inr holds

theorem Handed.run {outcome : Outcome} (sound : torn.Sound) (handed : torn.Handed id outcome)
    (run : torn.run later = some s') : .cancel id ∈ later ∨ s'.Handed id outcome :=
  sound.unless_cancelled (P := fun s => s.Handed id outcome) handed
    (fun _ _ _ sound move handed => handed.step sound move) run

theorem Closed.run (sound : torn.Sound) (closed : torn.Closed id) (run : torn.run later = some s') :
    .cancel id ∈ later ∨ s'.Closed id := Handed.run sound closed run

theorem Spent.run {n : Nat} (sound : torn.Sound) (spent : torn.Spent n) (run : torn.run later = some s') :
    s'.Spent n := by
  refine sound.run_induction (P := fun s _ => s.Spent n) spent ?_ run
  intro before action after past sound spent stepped
  exact spent.step sound (step_move sound.tidy stepped)

theorem Stranded.run (sound : torn.Sound) (stranded : torn.Stranded id) (old : id < torn.nextCall)
    (run : torn.run later = some s') : .work id ∉ later ∧ (.cancel id ∈ later ∨ s'.Stranded id) := by
  have fate := sound.run_induction (P := fun s past => id < s.nextCall ∧ .work id ∉ past.map (·.action) ∧
    (s.Stranded id ∨ .cancel id ∈ past.map (·.action) ∧ s.call? id = none)) ⟨old, by simp, .inl stranded⟩ ?_ run
  · rw [moments_actions run] at fate
    obtain ⟨-, idle, fate⟩ := fate
    exact ⟨idle, fate.elim .inr fun gone => .inl gone.1⟩
  · rintro before action after past sound ⟨old, idle, fate⟩ stepped
    have move := step_move sound.tidy stepped
    refine ⟨Nat.lt_of_lt_of_le old move.next_le.1, ?_, ?_⟩
    · rw [List.map_append, List.mem_append]
      rintro (member | member)
      · exact idle member
      · obtain rfl : .work id = action := by simpa using member
        rcases fate with stranded | ⟨-, absent⟩
        · simp [stranded.idle] at stepped
        · simp [Session.step, work, absent] at stepped
    · rw [List.map_append, List.mem_append]
      rcases fate with stranded | ⟨cancelled, absent⟩
      · rcases stranded.step sound move with ⟨rfl, absent⟩ | stranded
        · exact .inr ⟨.inr (by simp), absent⟩
        · exact .inl stranded
      · exact .inr ⟨.inl cancelled, (move.callChange sound.tidy id).absent_stays absent old⟩

end Run

section Teardown

variable {s torn : Session} {action : Action} {id n : Nat} {call : Call}

theorem TearsDown.stepped (tears : TearsDown s action torn) : s.step action = some torn := by
  cases tears <;> assumption

theorem Torn.closed (ruin : Torn s torn) (queued : s.Queued) (present : s.request? id = some call)
    (seq : call.seq? = some n) (empty : call.mail? = some .empty) :
    ∃ call', torn.request? id = some call' ∧ call'.seq? = some n ∧ call'.mail? = some .dropped := by
  refine ⟨_, by rw [ruin.requests, present, Option.map_some], by rw [Call.seq?_handMail, seq], ?_⟩
  have member := (queued.waits id call n present seq).mpr empty
  rw [Call.mail?_handMail, if_pos ⟨empty, by simp [seq, member]⟩]

theorem Torn.spent (ruin : Torn s torn) (queued : s.Queued) (queued' : torn.Queued)
    (present : s.request? id = some call) (seq : call.seq? = some n) (empty : call.mail? = some .empty) :
    torn.Spent n := by
  obtain ⟨call', present', seq', dropped⟩ := ruin.closed queued present seq empty
  refine ⟨queued'.seq_lt id call' n present' seq', by simp [ruin.waiters], ?_⟩
  intro other call'' known seq''
  obtain rfl := queued'.seq_unique other call'' id call' n known present' seq'' seq'
  rw [present', Option.some.injEq] at known
  simp [← known, dropped]

theorem Torn.stranded (ruin : Torn s torn) (queued' : torn.Queued) (present : s.request? id = some call)
    (unregistered : call.mail? = none) : torn.Stranded id := by
  obtain ⟨known, sends⟩ := Option.filter_eq_some_iff.mp present
  cases call with
  | request frame timeout stage =>
    cases stage with
    | queueing transport n =>
      have present' : torn.request? id = some (.request frame timeout (.queueing transport n)) := by
        rw [ruin.requests, present]
        rfl
      exact .queueing (Option.filter_eq_some_iff.mp present').1 (queued'.routed id _ transport present' rfl)
        (ruin.unused transport)
    | registered => cases unregistered
  | _ => cases sends

theorem Sound.fails_waiting (sound : s.Sound) (tears : TearsDown s action torn) (present : s.request? id = some call)
    (seq : call.seq? = some n) (empty : call.mail? = some .empty) {later : List Action} {s' : Session}
    (run : torn.run later = some s') : n ∉ s'.waiters ∧ (.cancel id ∈ later ∨ s'.Ends id Outcome.IsClosed) := by
  have ruin := sound.torn tears
  have sound' := sound.step tears.stepped
  obtain ⟨call', present', -, dropped⟩ := ruin.closed sound.queued present seq empty
  refine ⟨((ruin.spent sound.queued sound'.queued present seq empty).run sound' run).absent, ?_⟩
  exact (Closed.run sound' (.dropped present' dropped) run).imp_right Closed.ends

end Teardown

theorem Sound.begins_empty {s s' : Session} {action : Action} (sound : s.Sound) (stepped : s.step action = some s')
    (new : s'.generation ≠ s.generation) : s'.waiters = [] := by
  cases step_move sound.tidy stepped with
  | @installs id transport device t t' bus present found attached =>
    by_contra waits
    obtain ⟨i, -, ⟨generation, active⟩ | ⟨other, call, known, releases⟩⟩ := sound.queued.waiters_used waits
    · have idle := sound.linked.underway_idle id _ (attempt?_of_call? present rfl) rfl
      rw [active] at idle
      cases idle
    · have first := sound.tidy.lifecycle_first known (Call.isUnderway_of_releasing? releases)
      rw [sound.tidy.lifecycle_first (attempt?_of_call? present rfl) rfl, Option.some.injEq] at first
      subst first
      rw [call?_of_attempt? known, Option.some.injEq] at present
      rw [present] at releases
      cases releases
  | _ => exact absurd rfl new

theorem late_notice {t t' : Session} {generation : Nat} (past : t.active.any (·.generation = generation) = false)
    (stepped : t.step (.receive generation) = some t') (silent : Moment.arrival? ⟨t, .receive generation, t'⟩ = none) :
    t'.active = t.active ∧ t'.waiters = t.waiters ∧ t'.published = t.published ∧ t'.calls = t.calls := by
  cases receive_move stepped with
  | @delivers _ receiver u reader frame reader' seq later known stage found taps takes =>
    rw [arrival?_eq_some.mpr ⟨rfl, receiver, u, reader, reader', known, stage, found, taps, takes⟩] at silent
    cases silent
  | @publishes _ receiver u reader frame reader' known stage found taps takes =>
    rw [arrival?_eq_some.mpr ⟨rfl, receiver, u, reader, reader', known, stage, found, taps, takes⟩] at silent
    cases silent
  | loses known stage found taps ended current => simp [past] at current
  | noticesLate => exact ⟨rfl, rfl, rfl, rfl⟩
  | releases => exact ⟨rfl, rfl, rfl, rfl⟩
  | advances present advance => cases advance

/-- Whatever a session has done, its links are kept apart. -/
theorem links_isolated {config : Config} {bus : Link.Bus} {actions : List Action} {s : Session}
    (run : (fresh config bus).run actions = some s) : s.Isolated ((fresh config bus).moments actions) := by
  have known : s.Sound ∧ s.Owned ((fresh config bus).moments actions) := by
    refine run_induction (P := fun s past => s.Sound ∧ s.Owned past)
      ⟨fresh_sound config bus, fresh_owned config bus⟩ ?_ run
    rintro before action after past ⟨sound, owned⟩ stepped
    exact ⟨sound.step stepped, owned.step (m := ⟨before, action, after⟩) sound stepped⟩
  obtain ⟨sound, owned⟩ := known
  have ledger := ledger_of_run run
  constructor
  · intro id g taken m member d handed own
    obtain ⟨g', taken', arrival⟩ := owned.delivered m member d handed
    rw [own] at taken'
    have same := List.inj_on_of_nodup_map owned.nodup taken taken' rfl
    rw [arrival, (Prod.mk.inj same).2]
  · intro id reply ended
    obtain ⟨d, member, rfl, rfl⟩ := ledger.replies id reply ended
    obtain ⟨m, member, handed⟩ := List.mem_flatMap.mp member
    obtain ⟨g, taken, arrival⟩ := owned.delivered m member d handed
    exact ⟨g, taken, m, member, arrival⟩
  · intro action torn tears
    exact ⟨(sound.torn tears).waiters, fun id call n present seq empty later s' run' =>
      sound.fails_waiting tears present seq empty run'⟩
  · intro action torn tears id call present unregistered later s' run'
    have sound' := sound.step tears.stepped
    have stranded := (sound.torn tears).stranded sound'.queued present unregistered
    have old := Nat.lt_of_lt_of_le (sound.tidy.lt_nextCall (Option.filter_eq_some_iff.mp present).1)
      (step_move sound.tidy tears.stepped).next_le.1
    have fate := stranded.run sound' old run'
    exact ⟨fate.1, fate.2.imp_right fun stranded => stranded.ends (sound'.run run')⟩
  · exact fun action s' stepped new => sound.begins_empty stepped new
  · exact fun t t' generation past stepped silent => late_notice past stepped silent

theorem links_isolated_releasing : ∃ bus actions s, (fresh {} bus).run actions = some s ∧
    s.waiters = [1] ∧ s.turns = [1, 2] ∧ (s.step (.resume 3)).isSome = true ∧
    s.Isolated ((fresh {} bus).moments actions) := by
  let bus : Link.Bus := { devices := [.ofInfo ⟨"adapter", .usb, none⟩ .silent []] }
  let actions : List Action :=
    [.begin (.connect .usb none), .resume 0, .resume 0, .work 0, .resume 0, .begin (.request [5] 10),
      .begin (.request [6] 10), .resume 1, .begin .disconnect, .resume 3]
  have ends : ((fresh {} bus).run actions).any (fun s =>
      s.waiters = [1] ∧ s.turns = [1, 2] ∧ (s.step (.resume 3)).isSome = true) = true := by decide +kernel
  obtain ⟨s, run, ends⟩ := (Option.any_eq_true _ _).mp ends
  obtain ⟨waiters, turns, releases⟩ := of_decide_eq_true ends
  exact ⟨bus, actions, s, run, waiters, turns, releases, links_isolated run⟩

end TagConsole.Session
