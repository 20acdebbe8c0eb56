import TagConsole.Proofs.Session.Isolation
import TagConsole.Proofs.Session.Readers

/-!
Links whose far end is gone. What the device had queued still arrives, chunk by chunk and in order, before the
session notices the loss and fails those who still wait.
-/

namespace TagConsole

open Wire (Frame)

/-- The chunks that a reader still has to hand up, given what its device has queued. One that has stopped reads no
    more. -/
def Transport.Reader.ahead (reader : Reader) (queue : List Frame) : List Frame :=
  reader.flow (cut reader.size) (if reader.isRunning then queue else [])

def Link.Bus.IsClosed (bus : Bus) (device : Nat) : Prop :=
  ∃ known, bus.devices[device]? = some known ∧ known.link.closed = true

namespace Link.Bus

section IsClosed

variable {bus : Bus} {device : Nat}

theorem IsClosed.updateLink (closed : bus.IsClosed device) {other : Nat} {change : Simulated → Simulated}
    (keeps : ∀ known, bus.devices[other]? = some known → known.link.closed = true → (change known.link).closed = true) :
    (bus.updateLink other change).IsClosed device := by
  obtain ⟨known, found, gone⟩ := closed
  by_cases same : other = device
  · subst same
    exact ⟨{ known with link := change known.link }, by simp [Bus.updateLink, found], keeps known found gone⟩
  · exact ⟨known, by rw [Bus.updateLink, List.getElem?_modify_ne _ _ same, found], gone⟩

theorem IsClosed.write (closed : bus.IsClosed device) (other : Nat) (frame : Frame) :
    (bus.write other frame).2.IsClosed device := by
  unfold Bus.write
  split
  · exact closed
  · rename_i known found
    refine closed.updateLink fun known' found' gone => ?_
    obtain rfl := Option.some.inj (found.symm.trans found')
    show (known.link.write frame).2.closed = true
    rw [Simulated.write, if_pos gone]
    exact gone

theorem IsClosed.apply (closed : bus.IsClosed device) (event : Event) : (bus.apply event).IsClosed device := by
  cases event with
  | push other frame => exact closed.updateLink fun _ _ gone => gone
  | close other => exact closed.updateLink fun _ _ _ => rfl
  | failWrites other fails => exact closed.updateLink fun _ _ gone => gone
  | respond other responder => exact closed.updateLink fun _ _ gone => gone
  | add other =>
    obtain ⟨known, found, gone⟩ := closed
    refine ⟨known, ?_, gone⟩
    rw [Bus.apply, List.getElem?_append_left (List.getElem?_eq_some_iff.mp found).1, found]
  | refuse other faults =>
    obtain ⟨known, found, gone⟩ := closed
    rw [Bus.apply, IsClosed, List.getElem?_modify, found]
    split
    · exact ⟨_, rfl, gone⟩
    · exact ⟨_, rfl, gone⟩
  | failOpen fails => exact closed
  | failList failure => exact closed
  | addGhost info => exact closed

end IsClosed

end Link.Bus

namespace Session

section Step

variable {s s' : Session} {action : Action} {link : ActiveLink} {device : Nat} {reader : Transport.Reader}

theorem write_closed {transport : Nat} {frame : Frame} {result : Except Transport.Error Unit} {bus : Link.Bus}
    (write : s.write transport frame = (result, { s with bus := bus })) (closed : s.bus.IsClosed device) :
    bus.IsClosed device := by
  have same : bus = (s.write transport frame).2.bus := by rw [write]
  rw [same, Session.write]
  cases s.transports[transport]? with
  | none => exact closed
  | some t =>
    change (t.write s.bus frame).2.IsClosed device
    unfold Transport.write
    cases t.writer with
    | none => exact closed
    | some other => exact closed.write other frame

theorem Move.keeps_closed (move : Move s action s') (linked : s.Linked) (active : s.active = some link)
    (closed : s.bus.IsClosed device) : s'.bus.IsClosed device := by
  -- only a connect would open the device anew, and none is underway while a link is active
  have idle {id : Nat} {call : Call} (present : s.call? id = some call) (underway : call.isUnderway = true) :
      False := by
    have idle := linked.underway_idle id call
      (attempt?_of_call? present (Call.isLifecycle_of_isUnderway underway)) underway
    rw [active] at idle
    cases idle
  cases move with
  | advances present advance =>
    cases advance with
    | writes write => exact write_closed write closed
    | writesAlone write => exact write_closed write closed
    | writesOrphan write => exact write_closed write closed
    | _ => exact closed
  | opens present => exact (idle present rfl).elim
  | attachesNot present => exact (idle present rfl).elim
  | installs present => exact (idle present rfl).elim
  | reads found turned =>
    obtain ⟨reader, reader', known, link', taps, knows, stepped, rfl, rfl⟩ := Transport.stepReader_some turned
    refine closed.updateLink fun known' knows' gone => ?_
    obtain rfl := Option.some.inj (knows.symm.trans knows')
    exact (Transport.Reader.step_closed stepped).trans gone
  | happens => exact closed.apply _
  | _ => exact closed

theorem Move.was_active (move : Move s action s') (old : link.generation ≤ s.generation)
    (active : s'.active = some link) : s.active = some link := by
  cases move with
  | takes => cases active
  | loses => cases active
  | installs =>
    obtain rfl := Option.some.inj active
    exact absurd old (Nat.not_succ_le_self _)
  | _ => exact active

/-- What is ahead arrives or stays ahead, and what the device sends comes behind it, unless the reader has stopped. -/
theorem Move.moves_ahead (move : Move s action s') (linked : s.Linked) (positive : 0 < reader.size)
    (active : s.active = some link) (active' : s'.active = some link) (taps : s.reader? link.transport = some reader)
    (alone : s.Alone link reader.device) :
    ∃ reader', s'.reader? link.transport = some reader' ∧ reader'.device = reader.device ∧ reader'.size = reader.size ∧
      (reader'.isRunning = true → reader.isRunning = true) ∧
      reader.ahead (s.bus.queue reader.device) ++
          (if reader.isRunning then Moment.sent ⟨s, action, s'⟩ reader.device else []).flatMap
            (Transport.cut reader.size) =
        ((Moment.arrival? ⟨s, action, s'⟩).map (·.2)).toList ++ reader'.ahead (s'.bus.queue reader.device) := by
  have others := alone.queue_eq move
  by_cases running : reader.isRunning = true
  · obtain ⟨reader', conveys⟩ := move.conveys linked active active' taps
      (fun _ frame _ => Transport.cut_divides positive frame) others
    refine ⟨reader', conveys.taps, conveys.device, conveys.size, conveys.running, ?_⟩
    have chunks := conveys.chunks
    have rest : (if reader'.isRunning then s'.bus.queue reader.device else []) = s'.bus.queue reader.device := by
      by_cases still : reader'.isRunning = true
      · rw [if_pos still]
      · rw [if_neg still, conveys.stopped running (Bool.eq_false_iff.mpr still)]
    rw [Transport.Reader.ahead, if_pos running, if_pos running, Transport.Reader.ahead, conveys.size, rest]
    exact chunks
  · -- a reader that has stopped takes nothing in, so the queue does not matter
    obtain ⟨reader', conveys⟩ : ∃ reader', Conveys (fun _ => []) ⟨s, action, s'⟩ link.transport reader reader' :=
      move.conveys linked active active' taps (fun runs => absurd runs running) others
    have nothing (queue : List Frame) : queue.flatMap (fun _ => ([] : List Frame)) = [] := by simp
    refine ⟨reader', conveys.taps, conveys.device, conveys.size, conveys.running, ?_⟩
    have chunks := conveys.chunks
    have still : ¬ reader'.isRunning = true := fun still => running (conveys.running still)
    rw [Transport.Reader.ahead, if_neg running, if_neg running, Transport.Reader.ahead, if_neg still]
    simpa [Transport.Reader.flow, nothing] using chunks

end Step

def turn (link : ActiveLink) : Transport.Feed.Turn → Action
  | .read => .read link.transport 0
  | .take => .receive link.generation

structure Feeds (s : Session) (link : ActiveLink) (feed : Transport.Feed) : Prop where
  active : s.active = some link
  taps : s.reader? link.transport = some feed.reader
  known : ∃ known, s.bus.devices[feed.reader.device]? = some known ∧
    (feed.reader.isRunning = true → feed.link = known.link)

section Feeds

variable {s : Session} {link : ActiveLink} {feed feed' : Transport.Feed}

theorem dispatch_keeps (s : Session) (frame : Frame) : (s.dispatch frame).active = s.active ∧
    (s.dispatch frame).transports = s.transports ∧ (s.dispatch frame).bus = s.bus := by
  simp only [dispatch, isLive]
  split <;> exact ⟨rfl, rfl, rfl⟩

theorem Linked.receiver?_active (linked : s.Linked) (active : s.active = some link) : s.receiver? link.generation =
    some { generation := link.generation, transport := link.transport, reader := 0 } := by
  have listens := linked.active_receiver link active
  cases known : s.receiver? link.generation with
  | none => simpa using List.find?_eq_none.mp known _ listens
  | some receiver =>
    obtain ⟨member, same⟩ := receiver?_some known
    rw [linked.receiver_eq member listens same]

theorem Feeds.step (feeds : s.Feeds link feed) (linked : s.Linked) {next : Transport.Feed.Turn}
    (stepped : feed.step next = some feed') : ∃ s', s.step (turn link next) = some s' ∧ s'.Feeds link feed' ∧
      feed'.taken = feed.taken ++ ((Moment.arrival? ⟨s, turn link next, s'⟩).map (·.2)).toList := by
  obtain ⟨active, taps, known, knows, same⟩ := feeds
  obtain ⟨t, found, only, heard, stops⟩ := linked.reader?_eq active taps
  obtain ⟨rfl, reader, link', turned, rfl⟩ | ⟨rfl, chunk, reader, received, rfl⟩ :=
    Transport.Feed.step_cases stepped
  · rw [same (Transport.Reader.step_stops turned heard stops).1] at turned
    have first : t.readers[0]? = some feed.reader := by rw [only, List.getElem?_cons_zero]
    let s₁ : Session := { s.updateTransport link.transport fun _ => { t with readers := t.readers.set 0 reader } with
      bus := s.bus.updateLink feed.reader.device fun _ => link' }
    have reads : s.step (.read link.transport 0) = some s₁ := by
      simp [s₁, step, read, found, Transport.stepReader, first, knows, turned]
    refine ⟨s₁, reads, ⟨active, ?_, ?_⟩, ?_⟩
    · simp [s₁, reader?, updateTransport, found, only]
    · refine ⟨{ known with link := link' }, ?_, fun _ => rfl⟩
      rw [(Transport.Reader.step_turn turned).device]
      simp [s₁, Link.Bus.updateLink, knows]
    · simp [Moment.arrival?, turn]
  · have first : t.readers[0]? = some feed.reader := by rw [only, List.getElem?_cons_zero]
    have listens := linked.receiver?_active active
    let s₁ := s.updateTransport link.transport fun t => { t with readers := t.readers.set 0 reader }
    have takes : s.step (.receive link.generation) = some (s₁.dispatch chunk) := by
      simp [s₁, step, receive, listens, found, first, received]
    have arrival : Moment.arrival? ⟨s, .receive link.generation, s₁.dispatch chunk⟩ = some (link.generation, chunk) :=
      arrival?_eq_some.mpr ⟨rfl, _, t, feed.reader, reader, listens, rfl, found, first, received⟩
    obtain ⟨active', transports, bus⟩ := s₁.dispatch_keeps chunk
    obtain ⟨-, taken⟩ := Transport.Reader.receive_eq received
    refine ⟨_, takes, ⟨active'.trans active, ?_, known, ?_⟩, by simp [turn, arrival]⟩
    · rw [reader?, transports]
      simp [s₁, updateTransport, found, only]
    · rw [bus, taken]
      exact ⟨knows, same⟩

theorem Feeds.run (feeds : s.Feeds link feed) (sound : s.Sound) {turns : List Transport.Feed.Turn}
    (run : feed.run turns = some feed') : ∃ s', s.run (turns.map (turn link)) = some s' ∧ s'.Sound ∧
      s'.Feeds link feed' ∧ feed'.taken = feed.taken ++ arrivals (s.moments (turns.map (turn link))) := by
  -- by induction on the turns, each of which the session takes as the feed does
  induction turns generalizing s feed with
  | nil =>
    cases run
    exact ⟨s, rfl, sound, feeds, by simp [moments, arrivals]⟩
  | cons next later ih =>
    obtain ⟨feed₁, stepped, run⟩ := Option.bind_eq_some_iff.mp run
    obtain ⟨s₁, goes, feeds₁, taken₁⟩ := feeds.step sound.linked stepped
    obtain ⟨s', run', sound', feeds', taken'⟩ := ih feeds₁ (sound.step goes) run
    refine ⟨s', by rw [List.map_cons, run_cons, goes]; exact run', sound', feeds', ?_⟩
    rw [taken', taken₁, List.append_assoc]
    cases arrival : Moment.arrival? ⟨s, turn link next, s₁⟩ <;> simp [moments, goes, arrivals, arrival]

theorem Feeds.loses (feeds : s.Feeds link feed) (linked : s.Linked) (ended : feed.reader.isEnded = true) :
    ∃ torn, s.step (.receive link.generation) = some torn ∧ torn.active = none := by
  obtain ⟨active, taps, -⟩ := feeds
  obtain ⟨t, found, only, -⟩ := linked.reader?_eq active taps
  have first : t.readers[0]? = some feed.reader := by rw [only, List.getElem?_cons_zero]
  have empty : feed.reader.receive = none := by
    simp only [Transport.Reader.isEnded, Bool.and_eq_true, List.isEmpty_iff] at ended
    rw [Transport.Reader.receive, ended.2]
  have lost : s.linkEnded link.generation = (true, ({ s with active := none }.failWaiters).publish .linkLost) := by
    rw [linkEnded, takeLost, if_pos (by simp [active])]
    rfl
  refine ⟨((({ s with active := none }.failWaiters).publish .linkLost).updateReceiver link.generation .releasing), ?_, rfl⟩
  simp [Session.step, receive, linked.receiver?_active active, found, first, empty, ended, lost]

end Feeds

/-- What is known, while a run goes on, of a link whose far end was gone when the run began. -/
structure Draining (s : Session) (link : ActiveLink) (reader : Transport.Reader) (s' : Session) (past : List Moment) :
    Prop where
  sound : s'.Sound
  staffed : s'.Staffed
  old : link.generation ≤ s'.generation
  closed : s'.active = some link → s'.bus.IsClosed reader.device ∧ s'.Alone link reader.device
  kept : s'.active = some link → ∃ later reader', later <+: sent reader.device past ∧
    s'.reader? link.transport = some reader' ∧ reader'.device = reader.device ∧ reader'.size = reader.size ∧
    (reader'.isRunning = true → later = sent reader.device past) ∧
    arrivals past ++ reader'.ahead (s'.bus.queue reader.device) =
      reader.ahead (s.bus.queue reader.device) ++ later.flatMap (Transport.cut reader.size)
  dispatched : ∀ m ∈ past, FrameChange m
  completes : ∀ d ∈ deliveries past, .cancel d.call ∈ past.map (·.action) ∨ s'.Handed d.call (.reply d.frame)

/-- What becomes of a link whose far end is gone, in a run that begins while the link is active. -/
structure Drained (s : Session) (link : ActiveLink) (reader : Transport.Reader) (s' : Session) (past : List Moment) :
    Prop where
  /-- What was ahead has arrived or still is ahead, and behind it what the device has sent since. -/
  kept : s'.active = some link → ∃ later reader', later <+: sent reader.device past ∧
    s'.reader? link.transport = some reader' ∧
    arrivals past ++ reader'.ahead (s'.bus.queue reader.device) =
      reader.ahead (s.bus.queue reader.device) ++ later.flatMap (Transport.cut reader.size)
  dispatched : ∀ m ∈ past, FrameChange m
  completes : ∀ d ∈ deliveries past, .cancel d.call ∈ past.map (·.action) ∨
    s'.Ends d.call fun outcome => outcome = .reply d.frame ∨ ∃ cause, outcome = .failed (.send cause)
  lost : ∀ torn, s'.active = some link → s'.step (.receive link.generation) = some torn → torn.active = none →
    (∃ later, later <+: sent reader.device past ∧
      arrivals past = reader.ahead (s.bus.queue reader.device) ++ later.flatMap (Transport.cut reader.size)) ∧
    torn.status = .linkLost ∧ torn.waiters = [] ∧
    ∀ id call n, s'.request? id = some call → call.seq? = some n → call.mail? = some .empty →
      ∀ later final, torn.run later = some final →
        n ∉ final.waiters ∧ (.cancel id ∈ later ∨ final.Ends id Outcome.IsClosed)
  /-- The loss is noticed after turns of the reader and of the receiver, and nothing else is needed for it. -/
  ends : s'.active = some link → ∃ (turns : List Transport.Feed.Turn) (last torn : Session),
    s'.run (turns.map (turn link)) = some last ∧ last.active = some link ∧
    last.step (.receive link.generation) = some torn ∧ torn.active = none

section Run

variable {s s' : Session} {link : ActiveLink} {reader : Transport.Reader} {past : List Moment}

theorem Draining.step {m : Moment} (draining : Draining s link reader m.before past) (positive : 0 < reader.size)
    (stepped : m.before.step m.action = some m.after) : Draining s link reader m.after (past ++ [m]) := by
  obtain ⟨sound, staffed, old, closed, kept, dispatched, completes⟩ := draining
  have move := step_move sound.tidy stepped
  have change : FrameChange m := move.frameChange sound.tidy sound.linked sound.queued
  constructor
  case sound => exact sound.step stepped
  case staffed => exact staffed.step move
  case old => exact Nat.le_trans old move.generation_le
  case closed =>
    intro active'
    have active := move.was_active old active'
    obtain ⟨gone, alone⟩ := closed active
    exact ⟨move.keeps_closed sound.linked active gone, alone.step staffed sound.linked active move⟩
  case kept =>
    intro active'
    have active := move.was_active old active'
    obtain ⟨later, reader', first, taps, device, size, all, whole⟩ := kept active
    obtain ⟨reader'', taps', device', size', running, whole'⟩ :=
      move.moves_ahead sound.linked (size.symm ▸ positive) active active' taps (device ▸ (closed active).2)
    rw [device, size] at whole'
    refine ⟨later ++ if reader'.isRunning then m.sent reader.device else [], reader'', ?_, taps', device'.trans device,
      size'.trans size, ?_, ?_⟩
    · rw [sent_append]
      split
      · rename_i runs
        rw [all runs]
      · rw [List.append_nil]
        exact first.trans (List.prefix_append _ _)
    · intro runs
      rw [if_pos (running runs), all (running runs), sent_append]
    · rw [arrivals_append, List.flatMap_append, ← List.append_assoc, ← whole, List.append_assoc, List.append_assoc, whole']
  case dispatched =>
    intro m' member
    rcases List.mem_append.mp member with member | member
    · exact dispatched m' member
    · exact List.mem_singleton.mp member ▸ change
  case completes =>
    intro d member
    rw [deliveries_append, List.mem_append] at member
    rw [List.map_append, List.mem_append]
    rcases member with member | member
    · rcases completes d member with cancelled | handed
      · exact .inl (.inl cancelled)
      · exact (handed.step sound move).imp (fun cancelled => .inr (by simp [cancelled])) id
    · obtain ⟨call, present, seq, empty, mail⟩ := (mem_deliveries sound.tidy).mp member
      rw [mail?_call?, Option.bind_eq_some_iff] at mail
      obtain ⟨call', present', mail⟩ := mail
      exact .inr (.mailed present' mail rfl)

theorem Draining.run {actions : List Action} (draining : Draining s link reader s []) (positive : 0 < reader.size)
    (run : s.run actions = some s') : Draining s link reader s' (s.moments actions) :=
  run_induction (P := fun s' past => Draining s link reader s' past) draining
    (fun before action after _ draining stepped => draining.step (m := ⟨before, action, after⟩) positive stepped) run

theorem draining_of_closed (sound : s.Sound) (staffed : s.Staffed) (active : s.active = some link)
    (taps : s.reader? link.transport = some reader) (closed : s.bus.IsClosed reader.device)
    (alone : s.Alone link reader.device) : Draining s link reader s [] := by
  constructor
  case sound => exact sound
  case staffed => exact staffed
  case old => exact sound.linked.generation_le _ (sound.linked.active_receiver link active)
  case closed => exact fun _ => ⟨closed, alone⟩
  case kept => exact fun _ => ⟨[], reader, List.nil_prefix, taps, rfl, rfl, fun _ => rfl, by simp [arrivals]⟩
  case dispatched => simp
  case completes => simp [deliveries]

theorem Draining.feeds (draining : Draining s link reader s' past) (active : s'.active = some link) :
    ∃ feed whole, s'.Feeds link feed ∧ feed.Sound reader.size true whole := by
  obtain ⟨later, reader', -, taps, device, size, -⟩ := draining.kept active
  obtain ⟨t, found, only, heard, stops⟩ := draining.sound.linked.reader?_eq active taps
  have fit := (draining.staffed _ t found).fit reader' (by simp [only])
  obtain ⟨⟨known, knows, gone⟩, -⟩ := draining.closed active
  rw [← device] at knows
  -- what a stopped reader leaves queued is nothing to its feed
  refine ⟨⟨reader', if reader'.isRunning then known.link else { known.link with queue := [] }, []⟩, _,
    ⟨active, taps, known, knows, fun runs => if_pos runs⟩, size, fit.room, heard, stops, ?_, rfl, ?_⟩
  · split <;> exact gone
  · intro stopped
    exact ⟨rfl, (fit.stopped stopped).2, by rw [if_neg (Bool.eq_false_iff.mp stopped)]⟩

theorem Draining.ends (draining : Draining s link reader s' past) (positive : 0 < reader.size)
    (active : s'.active = some link) : ∃ (turns : List Transport.Feed.Turn) (last torn : Session),
      s'.run (turns.map (turn link)) = some last ∧ last.active = some link ∧
      last.step (.receive link.generation) = some torn ∧ torn.active = none := by
  obtain ⟨feed, whole, feeds, sound⟩ := draining.feeds active
  obtain ⟨turns, final, run, rest⟩ := sound.settles positive
  obtain ⟨last, run', sound', feeds', -⟩ := feeds.run draining.sound run
  obtain ⟨-, -, -, ended⟩ := (sound.run positive run).1.rest rest
  obtain ⟨torn, stepped, gone⟩ := feeds'.loses sound'.linked ended
  exact ⟨turns, last, torn, run', feeds'.active, stepped, gone⟩

theorem Draining.lost (draining : Draining s link reader s' past) (active : s'.active = some link) {torn : Session}
    (stepped : s'.step (.receive link.generation) = some torn) (gone : torn.active = none) :
    (∃ later, later <+: sent reader.device past ∧
      arrivals past = reader.ahead (s.bus.queue reader.device) ++ later.flatMap (Transport.cut reader.size)) ∧
    torn.status = .linkLost := by
  obtain ⟨later, reader', first, taps, device, size, -, whole⟩ := draining.kept active
  obtain ⟨t, found, only, -, -⟩ := draining.sound.linked.reader?_eq active taps
  have fit := (draining.staffed _ t found).fit reader' (by simp [only])
  have listens := draining.sound.linked.receiver?_active active
  have move := step_move draining.sound.tidy stepped
  cases move with
  | @loses generation receiver t' single known stage found' tapped ended current =>
    obtain rfl := Option.some.inj (listens.symm.trans known)
    obtain rfl := Option.some.inj (found.symm.trans found')
    obtain rfl : reader' = single := by simpa [only] using tapped
    -- the reader has stopped and its channel is empty, so nothing is ahead
    simp only [Transport.Reader.isEnded, Bool.and_eq_true, Bool.not_eq_true', List.isEmpty_iff] at ended
    refine ⟨⟨later, first, ?_⟩, status_publish rfl⟩
    rw [← whole]
    simp [Transport.Reader.ahead, Transport.Reader.flow, ended, (fit.stopped ended.1).2]
  | advances present advance => cases advance
  | delivers => simp [active] at gone
  | publishes => simp [active] at gone
  | noticesLate => simp [active, updateReceiver] at gone
  | releases => simp [active] at gone

theorem Draining.drained (draining : Draining s link reader s' past) (positive : 0 < reader.size) :
    Drained s link reader s' past := by
  have sound := draining.sound
  constructor
  case kept =>
    intro active
    obtain ⟨later, reader', first, taps, -, -, -, whole⟩ := draining.kept active
    exact ⟨later, reader', first, taps, whole⟩
  case dispatched => exact draining.dispatched
  case completes => exact fun d member => (draining.completes d member).imp_right Handed.ends
  case lost =>
    intro torn active stepped gone
    have tears : TearsDown s' (.receive link.generation) torn := .lost (by simp [active]) stepped gone
    obtain ⟨arrived, status⟩ := draining.lost active stepped gone
    exact ⟨arrived, status, (sound.torn tears).waiters, fun id call n present seq empty later final run =>
      sound.fails_waiting tears present seq empty run⟩
  case ends => exact draining.ends positive

end Run

/-- A reader hands up what its device has queued, cut into chunks, and a link whose far end is gone is not given up
    before that. -/
theorem queued_frames_drained :
    (∀ device readBuffer capacity link turns feed,
      (Transport.Feed.start device readBuffer capacity link).run turns = some feed →
        feed.Drains (max readBuffer 1) link turns.length) ∧
    (∀ size frame, 0 < size → Transport.IsCut size frame (Transport.cut size frame)) ∧
    ∀ config bus earlier s link reader, (fresh config bus).run earlier = some s → s.active = some link →
      s.reader? link.transport = some reader → s.bus.IsClosed reader.device → s.Alone link reader.device →
        reader.size = max config.link.readBuffer 1 ∧
        ∀ actions s', s.run actions = some s' → Drained s link reader s' (s.moments actions) := by
  refine ⟨?_, ?_, ?_⟩
  · intro device readBuffer capacity link turns feed run
    exact Transport.Feed.drains_of_run run
  · intro size frame positive
    exact Transport.isCut_cut positive frame
  · intro config bus earlier s link reader reached active taps closed alone
    have sound := sound_of_run reached
    have staffed := staffed_of_run reached
    obtain ⟨t, found, only, -, -⟩ := sound.linked.reader?_eq active taps
    have size : reader.size = max config.link.readBuffer 1 := by
      rw [← config_of_run reached]
      exact ((staffed _ t found).fit reader (by simp [only])).size
    have positive : 0 < reader.size := by omega
    refine ⟨size, fun actions s' run => ?_⟩
    exact ((draining_of_closed sound staffed active taps closed alone).run positive run).drained positive

theorem queued_frames_drained_closing : ∃ bus earlier s link reader actions s',
    (fresh { link := { readBuffer := 2 } } bus).run earlier = some s ∧ s.active = some link ∧
    s.reader? link.transport = some reader ∧ s.bus.IsClosed reader.device ∧ s.Alone link reader.device ∧
    s.run actions = some s' ∧ reader.ahead (s.bus.queue reader.device) = [[1, 2], [3], [4]] ∧
    arrivals (s.moments actions) = [[1, 2], [3], [4]] ∧
    (deliveries (s.moments actions)).map (fun d => (d.call, d.frame)) = [(1, [1, 2]), (2, [3])] ∧
    Drained s link reader s' (s.moments actions) := by
  let bus : Link.Bus := { devices := [.ofInfo ⟨"adapter", .usb, none⟩ .silent []] }
  let earlier : List Action :=
    [.begin (.connect .usb none), .resume 0, .resume 0, .work 0, .resume 0, .begin (.request [5] 10),
      .begin (.request [6] 10), .resume 1, .work 1, .resume 1, .resume 2, .work 2, .resume 2,
      .happen (.push 0 [1, 2, 3]), .happen (.push 0 []), .happen (.push 0 [4]), .happen (.close 0)]
  let actions : List Action :=
    [.read 0 0, .read 0 0, .read 0 0, .read 0 0, .read 0 0, .read 0 0, .receive 1, .read 0 0, .read 0 0, .read 0 0,
      .read 0 0, .read 0 0, .receive 1, .receive 1, .read 0 0, .read 0 0]
  have ends : ((fresh { link := { readBuffer := 2 } } bus).run earlier).any (fun s =>
      s.active = some ⟨0, 1⟩ ∧ s.transports.length = 1 ∧ s.bus.devices[0]?.any (·.link.closed) = true ∧
      (s.reader? 0).any (fun reader => reader.device = 0 ∧
        reader.ahead (s.bus.queue reader.device) = [[1, 2], [3], [4]]) = true ∧
      (s.run actions).isSome = true ∧ arrivals (s.moments actions) = [[1, 2], [3], [4]] ∧
      (deliveries (s.moments actions)).map (fun d => (d.call, d.frame)) = [(1, [1, 2]), (2, [3])]) = true := by
    decide +kernel
  obtain ⟨s, reached, ends⟩ := (Option.any_eq_true _ _).mp ends
  obtain ⟨active, single, gone, taps, runs, arrived, delivered⟩ := of_decide_eq_true ends
  obtain ⟨reader, taps, holds⟩ := (Option.any_eq_true _ _).mp taps
  obtain ⟨device, ahead⟩ := of_decide_eq_true holds
  obtain ⟨s', run⟩ := Option.isSome_iff_exists.mp runs
  obtain ⟨known, found, gone⟩ := (Option.any_eq_true _ _).mp gone
  have closed : s.bus.IsClosed reader.device := ⟨known, device ▸ found, gone⟩
  have alone : s.Alone ⟨0, 1⟩ reader.device := by
    intro i t other found
    have first : i = 0 := by
      have lt := (List.getElem?_eq_some_iff.mp found).1
      omega
    exact absurd first other
  exact ⟨bus, earlier, s, ⟨0, 1⟩, reader, actions, s', reached, active, taps, closed, alone, run, ahead, arrived,
    delivered, (queued_frames_drained.2.2 _ _ _ _ _ _ reached active taps closed alone).2 _ _ run⟩

end Session

end TagConsole
