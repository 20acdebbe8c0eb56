import Mathlib.Data.List.Perm.Subperm
import TagConsole.Proofs.Session.Isolation
import TagConsole.Proofs.Session.Traffic

/-!
Replies and requests. Nothing in a reply says whose it is; it is enough that requests queue in the order
in which their frames go out, as long as the device answers in the order in which it receives them.
-/

namespace TagConsole.Session

open Wire (Frame)

structure Writing where
  call : Nat
  seq : Nat
  frame : Frame
  deriving DecidableEq, Repr

def Moment.wrote? (m : Moment) (transport : Nat) : Option Writing :=
  match m.action with
  | .work id =>
    match m.before.call? id, m.after.call? id with
    | some (.request frame _ (.registered route seq _ .writing)),
      some (.request _ _ (.registered _ _ _ (.written (.ok _)))) =>
      if route = transport then some ⟨id, seq, frame⟩ else none
    | _, _ => none
  | _ => none

def Moment.gaveUp (m : Moment) (id : Nat) : Bool :=
  (m.before.request? id).isSome &&
    match m.after.call? id with
    | none | some (.orphan _ _) | some (.ended (.failed (.timeout _))) => true
    | _ => false

def wire (transport : Nat) (past : List Moment) : List Writing := past.filterMap (·.wrote? transport)

def received (device : Nat) (past : List Moment) : List Frame := past.flatMap (·.received device)

def unanswered (transport : Nat) (past : List Moment) : List Writing :=
  (wire transport past).drop (deliveries past).length

section Append

variable (transport : Nat) (past : List Moment) (m : Moment)

@[simp] theorem wire_append : wire transport (past ++ [m]) = wire transport past ++ (m.wrote? transport).toList := by
  cases wrote : m.wrote? transport <;> simp [wire, wrote]

end Append

section Wrote

variable {m : Moment} {transport : Nat} {w : Writing}

theorem wrote?_eq_some : m.wrote? transport = some w ↔ m.action = .work w.call ∧
    (∃ timeout mail, m.before.call? w.call =
      some (.request w.frame timeout (.registered transport w.seq mail .writing))) ∧
    ∃ frame timeout route seq mail, m.after.call? w.call =
      some (.request frame timeout (.registered route seq mail (.written (.ok ())))) := by
  obtain ⟨id, n, frame⟩ := w
  unfold Moment.wrote?
  constructor
  · intro wrote
    split at wrote
    · rename_i action
      split at wrote
      · rename_i before after
        split at wrote
        · rename_i same
          cases wrote
          subst same
          exact ⟨action, ⟨_, _, before⟩, _, _, _, _, _, after⟩
        · cases wrote
      · cases wrote
    · cases wrote
  · rintro ⟨action, ⟨timeout, mail, before⟩, frame', timeout', route, seq, mail', after⟩
    simp only at action before after
    simp [action, before, after]

theorem request?_of_wrote? (wrote : m.wrote? transport = some w) :
    (∃ call, m.before.request? w.call = some call ∧ call.seq? = some w.seq ∧ call.route? = some transport ∧
      call.isSent = false ∧ call.mail? ≠ none) ∧
    ∃ call', m.after.request? w.call = some call' ∧ call'.isSent = true ∧ call'.isSending = true := by
  obtain ⟨-, ⟨timeout, mail, before⟩, frame, timeout', route, seq, mail', after⟩ := wrote?_eq_some.mp wrote
  exact ⟨⟨_, request?_of_call? before rfl, rfl, rfl, rfl, by simp [Call.mail?]⟩, _, request?_of_call? after rfl, rfl,
    rfl⟩

theorem Move.wrote?_eq {s s' : Session} {action : Action} (move : Move s action s') (tidy : s.Tidy)
    (linked : s.Linked) {id n : Nat} {call call' : Call} (present : s.request? id = some call)
    (seq : call.seq? = some n) (route : call.route? = some transport) (unsent : call.isSent = false)
    (present' : s'.request? id = some call') (sent : call'.isSent = true) :
    ∃ frame, Moment.wrote? ⟨s, action, s'⟩ transport = some ⟨id, n, frame⟩ := by
  cases move.requestChange tidy linked with
  | same requests =>
    rw [requests, present, Option.some.injEq] at present'
    simp [present', sent] at unsent
  | replied requests =>
    rw [requests, present, Option.map_some, Option.some.injEq] at present'
    simp [← present', unsent] at sent
  | dropped requests =>
    rw [requests, present, Option.map_some, Option.some.injEq] at present'
    simp [← present', unsent] at sent
  | added begun active calls =>
    rw [request?_add tidy calls, if_neg, present, Option.some.injEq] at present'
    · simp [present', sent] at unsent
    · rintro rfl
      simp [request?, tidy.call?_nextCall] at present
  | @advanced id' old new waiters bus known advance calls =>
    rw [request?_update known calls] at present'
    split at present'
    · rename_i same
      subst same
      have now : s'.call? id = new := by
        rw [call?, calls, Calls.lookup_update, if_pos rfl, show s.calls.lookup id = some old from known]
        rfl
      rw [request?, known] at present
      obtain rfl : old = call := Option.some.inj (Option.filter_eq_some_iff.mp present).1
      cases advance with
      | registers turn isOpen =>
        cases present'
        cases sent
      | @writes frame timeout transport' seq' mail result bus write =>
        cases present'
        cases seq
        cases route
        cases result with
        | ok _ => exact ⟨frame, wrote?_eq_some.mpr ⟨rfl, ⟨_, _, known⟩, _, _, _, _, _, now⟩⟩
        | error cause => cases sent
      | awaits positive => cases unsent
      | _ => cases present'
    · rw [present, Option.some.injEq] at present'
      simp [present', sent] at unsent

end Wrote

structure Opens (before : Session) (action : Action) (s : Session) (link : ActiveLink) (device : Nat) : Prop where
  stepped : before.step action = some s
  new : s.generation ≠ before.generation
  active : s.active = some link
  device : s.transports[link.transport]?.bind (·.writer) = some device

/-- What a run on one link is to be like, from its opening. -/
structure Exchange (s : Session) (link : ActiveLink) (device : Nat) (past : List Moment) : Prop where
  quiet : s.bus.queue device = []
  /-- No other link is opened, and the readers of earlier ones take nothing from the device. The latter is not ensured by
      anything, because nobody waits for a reader to stop. -/
  one_link : ∀ m ∈ past, m.after.generation = s.generation
  one_reader : ∀ m ∈ past, m.readsOther link.transport = true → m.after.bus.queue device = m.before.bus.queue device
  requested : ∀ m ∈ past, m.received device = (m.wrote? link.transport).toList.map (·.frame)
  /-- It sends one reply for each frame that it has received, whenever it likes. -/
  answers : ∀ earlier, earlier <+: past → (sent device earlier).length ≤ (received device earlier).length
  fits : ∀ reply ∈ sent device past, reply ≠ [] ∧ reply.length ≤ s.config.link.readBuffer
  /-- No request whose frame is written is cancelled or times out. -/
  kept : ∀ w ∈ wire link.transport past, ∀ m ∈ past, m.gaveUp w.call = false

instance (s : Session) (link : ActiveLink) (device : Nat) (past : List Moment) :
    Decidable (Exchange s link device past) :=
  decidable_of_iff
    (s.bus.queue device = [] ∧ (∀ m ∈ past, m.after.generation = s.generation) ∧
      (∀ m ∈ past, m.readsOther link.transport = true → m.after.bus.queue device = m.before.bus.queue device) ∧
      (∀ m ∈ past, m.received device = (m.wrote? link.transport).toList.map (·.frame)) ∧
      (∀ earlier ∈ past.inits, (sent device earlier).length ≤ (received device earlier).length) ∧
      (∀ reply ∈ sent device past, reply ≠ [] ∧ reply.length ≤ s.config.link.readBuffer) ∧
      ∀ w ∈ wire link.transport past, ∀ m ∈ past, m.gaveUp w.call = false)
    ⟨fun ⟨quiet, one_link, one_reader, requested, answers, fits, kept⟩ => ⟨quiet, one_link, one_reader, requested,
        fun earlier h => answers earlier ((List.mem_inits _ _).mpr h), fits, kept⟩,
      fun ⟨quiet, one_link, one_reader, requested, answers, fits, kept⟩ => ⟨quiet, one_link, one_reader, requested,
        fun earlier h => answers earlier ((List.mem_inits _ _).mp h), fits, kept⟩⟩

/-- What `one_reader` shuts out: the reader of the link before takes the reply to the first request, which is then handed
    the reply to the second. -/
example : ((fresh {} { devices := [.ofInfo ⟨"adapter", .usb, none⟩ .silent []] }).run
    [.begin (.connect .usb none), .resume 0, .resume 0, .work 0, .resume 0, .read 0 0,
      .begin (.connect .usb none), .resume 1, .resume 1, .work 1, .resume 1,
      .begin (.request [5] 10), .resume 2, .work 2, .resume 2, .begin (.request [6] 10), .resume 3, .work 3, .resume 3,
      .happen (.push 0 [50]), .read 0 0, .happen (.push 0 [60]), .read 1 0, .read 1 0, .read 1 0,
      .receive 2, .resume 2]).any (fun s => (s.call? 2).bind (·.outcome?) = some (.reply [60])) = true := by decide

namespace Exchange

variable {s : Session} {link : ActiveLink} {device : Nat} {past : List Moment}

theorem before {m : Moment} (exchange : Exchange s link device (past ++ [m])) : Exchange s link device past := by
  have old {m' : Moment} (member : m' ∈ past) : m' ∈ past ++ [m] := List.mem_append_left _ member
  constructor
  · exact exchange.quiet
  · exact fun m' member => exchange.one_link m' (old member)
  · exact fun m' member => exchange.one_reader m' (old member)
  · exact fun m' member => exchange.requested m' (old member)
  · exact fun earlier h => exchange.answers earlier (h.trans (List.prefix_append _ _))
  · exact fun reply member => exchange.fits reply (by simp [member])
  · exact fun w wrote m' member => exchange.kept w (by simp [wrote]) m' (old member)

theorem received_eq (exchange : Exchange s link device past) :
    received device past = (wire link.transport past).map (·.frame) := by
  have requested := exchange.requested
  clear exchange
  induction past with
  | nil => rfl
  | cons m later ih =>
    rw [received, List.flatMap_cons, requested m List.mem_cons_self,
      show later.flatMap _ = received device later from rfl,
      ih fun m' member => requested m' (List.mem_cons_of_mem _ member)]
    cases wrote : m.wrote? link.transport <;> simp [wire, wrote]

theorem sent_le (exchange : Exchange s link device past) :
    (sent device past).length ≤ (wire link.transport past).length := by
  have answers := exchange.answers past (List.prefix_refl _)
  rwa [exchange.received_eq, List.length_map] at answers

end Exchange

def Waits (s : Session) (id : Nat) : Prop := ∃ call, s.request? id = some call ∧ call.mail? = some .empty

/-- How waiters, frames on the wire and replies stand to one another while a run on one link goes on. -/
structure Aligned (s : Session) (link : ActiveLink) (device : Nat) (s' : Session) (past : List Moment) : Prop where
  generation : s'.generation = s.generation
  current : ∀ other, s'.active = some other → other = link
  routed : link.transport ∈ s'.receivers.map (·.transport)
  solely : ∀ i ∈ s'.receivers.map (·.transport), s'.InUse i → i = link.transport
  calls_nodup : ((wire link.transport past).map (·.call)).Nodup
  seqs_nodup : ((wire link.transport past).map (·.seq)).Nodup
  known : ∀ w ∈ wire link.transport past, w.call < s'.nextCall ∧ w.seq < s'.nextSeq ∧
    ∀ id call, s'.request? id = some call → id = w.call ∨ call.seq? = some w.seq →
      id = w.call ∧ call.seq? = some w.seq ∧ call.isSent = true
  written : ∀ id call n, s'.request? id = some call → call.seq? = some n → call.mail? = some .empty →
    call.isSent = true → ∃ w ∈ wire link.transport past, w.call = id ∧ w.seq = n
  unwritten : s'.InUse link.transport → ∀ id call, s'.request? id = some call → call.route? = some link.transport →
    call.isSent = true ∨ call.mail? = none ∨ call.mail? = some .empty
  waiting : s'.InUse link.transport →
    s'.waiters.filter (· ∈ (wire link.transport past).map (·.seq)) = (unanswered link.transport past).map (·.seq) ∧
    ∀ w ∈ unanswered link.transport past, s'.Waits w.call
  answered : (deliveries past).map (fun d => (d.call, d.seq)) <+:
    (wire link.transport past).map fun w => (w.call, w.seq)
  arrived : arrivals past = (deliveries past).map (·.frame)
  carried : arrivals past <+: sent device past
  traffic : s'.active = some link → ∃ reader, s'.reader? link.transport = some reader ∧ reader.device = device ∧
    s.config.link.readBuffer ≤ reader.size ∧ sent device past = arrivals past ++ reader.pipe (s'.bus.queue device)

section Opening

variable {before s : Session} {action : Action} {link : ActiveLink} {device : Nat}

theorem Opens.start (opens : Opens before action s link device) (sound : before.Sound) :
    (∃ reader, s.reader? link.transport = some reader ∧ reader.device = device ∧
      s.config.link.readBuffer ≤ reader.size ∧ reader.channel = [] ∧ reader.held = none) ∧
    ∀ id call, s.request? id = some call → call.route? ≠ some link.transport := by
  obtain ⟨stepped, new, active, writes⟩ := opens
  cases step_move sound.tidy stepped with
  | @installs id transport device' t t' bus present found attached handsOut =>
    have attempt := attempt?_of_call? present rfl
    rw [Option.some.injEq] at active
    subst active
    obtain ⟨rfl, -⟩ := Transport.attach_ok attached
    have unopened := sound.linked.unopened id _ transport t attempt rfl found
    have readers := t.detach_readers_of_nil unopened.2
    constructor
    · refine ⟨.start device' before.config.link.readBuffer before.config.link.inboundCapacity, ?_, ?_, ?_, rfl, rfl⟩
      · simp [reader?, found, readers]
      · show device' = device
        simpa [found] using writes
      · exact Nat.le_max_left _ _
    · intro other call known route
      rw [request?_replace present rfl rfl rfl] at known
      have routed := sound.queued.routed other call transport known route
      exact sound.linked.opening_unrouted id _ transport attempt rfl routed
  | _ => exact absurd rfl new

theorem Opens.aligned (opens : Opens before action s link device) (sound : before.Sound)
    (quiet : s.bus.queue device = []) : Aligned s link device s [] := by
  have sound' := sound.step opens.stepped
  have empty := sound.begins_empty opens.stepped opens.new
  obtain ⟨⟨reader, taps, reads, size, channel, held⟩, alone⟩ := opens.start sound
  have receiver := sound'.linked.active_receiver link opens.active
  constructor
  case generation => rfl
  case current =>
    intro other active
    exact (Option.some.inj (opens.active.symm.trans active)).symm
  case routed => exact List.mem_map.mpr ⟨_, receiver, rfl⟩
  case solely => exact fun i _ used => sound'.linked.inUse_eq opens.active used
  case written =>
    intro id call n present seq waits
    have member := (sound'.queued.waits id call n present seq).mpr waits
    simp [empty] at member
  case unwritten => exact fun _ id call present route => absurd route (alone id call present)
  case waiting => simp [empty, unanswered, wire]
  case traffic =>
    refine fun _ => ⟨reader, taps, reads, size, ?_⟩
    simp [Transport.Reader.pipe, channel, held, quiet, sent, arrivals]
  all_goals simp [wire, arrivals, deliveries, sent]

end Opening

theorem Move.same_link {s s' : Session} {action : Action} (move : Move s action s')
    (same : s'.generation = s.generation) : (s'.active = s.active ∨ s'.active = none) ∧
      s'.receivers.map (·.transport) = s.receivers.map (·.transport) := by
  cases move with
  | takes => exact ⟨.inr rfl, s.takeActive_routes⟩
  | installs => simp at same
  | loses => exact ⟨.inr rfl, s.updateReceiver_routes _ _⟩
  | noticesLate => exact ⟨.inl rfl, s.updateReceiver_routes _ _⟩
  | releases => exact ⟨.inl rfl, s.updateReceiver_routes _ _⟩
  | _ => exact ⟨.inl rfl, rfl⟩

theorem RequestChange.unused_of_dropped {s s' : Session} {action : Action} {id : Nat} {call call' : Call}
    (change : RequestChange s action s') (tidy : s.Tidy) (present : s.request? id = some call)
    (waits : call.mail? = some .empty) (present' : s'.request? id = some call') (dropped : call'.mail? = some .dropped)
    (i : Nat) : ¬ s'.InUse i := by
  cases change with
  | same requests =>
    rw [requests, present, Option.some.injEq] at present'
    simp [← present', waits] at dropped
  | replied requests =>
    rw [requests, present, Option.map_some, Option.some.injEq] at present'
    rw [← present', Call.mail?_handMail, waits] at dropped
    split at dropped <;> cases dropped
  | dropped requests waiters unused => exact unused i
  | added begun active calls =>
    rw [request?_add tidy calls, if_neg, present, Option.some.injEq] at present'
    · simp [← present', waits] at dropped
    · rintro rfl
      simp [request?, tidy.call?_nextCall] at present
  | @advanced id' old new waiters bus known advance calls =>
    rw [request?_update known calls] at present'
    split at present'
    · rename_i same
      subst same
      rw [request?, known] at present
      obtain rfl : old = call := Option.some.inj (Option.filter_eq_some_iff.mp present).1
      cases advance with
      | registers => cases waits
      | writes =>
        cases present'
        cases waits.symm.trans dropped
      | awaits =>
        cases present'
        cases dropped
      | _ => cases present'
    · rw [present, Option.some.injEq] at present'
      simp [← present', waits] at dropped

theorem Call.route?_of_mail? {call : Call} {mail : Mail} (registered : call.mail? = some mail) :
    ∃ i, call.route? = some i := by
  unfold mail? at registered
  split at registered
  · exact ⟨_, rfl⟩
  · cases registered

theorem Call.mail?_ne_none_of_isSent {call : Call} (sent : call.isSent = true) : call.mail? ≠ none := by
  unfold isSent at sent
  split at sent
  · simp [mail?]
  · cases sent

theorem Call.isSending_of_unsent {call : Call} {mail : Mail} (registered : call.mail? = some mail)
    (unsent : call.isSent = false) : call.isSending = true := by
  unfold mail? at registered
  split at registered
  · rename_i frame timeout transport seq mail progress
    cases progress with
    | writing => rfl
    | written result => rfl
    | awaiting deadline => cases unsent
  · cases registered

/-- What a step does for those that wait for an answer: none is handed a frame, or the first is. -/
inductive AnswerChange (link : ActiveLink) (past : List Moment) (m : Moment) : Prop where
  | nobody (arrival : m.arrival? = none) (deliveries : m.deliveries = [])
      (waiters : (m.after.waiters.filter (· ∈ (wire link.transport past).map (·.seq))).Sublist
        (m.before.waiters.filter (· ∈ (wire link.transport past).map (·.seq))))
  | first {generation frame w rest} (arrival : m.arrival? = some (generation, frame))
      (idle : m.wrote? link.transport = none) (owed : unanswered link.transport past = w :: rest)
      (deliveries : m.deliveries = [⟨w.call, w.seq, frame⟩])
      (waiters : m.after.waiters.filter (· ∈ (wire link.transport past).map (·.seq)) = rest.map (·.seq))

section Step

variable {s : Session} {link : ActiveLink} {device : Nat} {m : Moment} {past : List Moment}
  (aligned : Aligned s link device m.before past) (sound : m.before.Sound)
  (stepped : m.before.step m.action = some m.after) (exchange : Exchange s link device (past ++ [m]))

section Before

include aligned

theorem Aligned.wire_eq : (wire link.transport past).map (fun w => (w.call, w.seq)) =
    (deliveries past).map (fun d => (d.call, d.seq)) ++
      (unanswered link.transport past).map fun w => (w.call, w.seq) := by
  have whole := List.prefix_iff_eq_append.mp aligned.answered
  rw [List.length_map] at whole
  rw [← whole, unanswered, List.map_drop]

theorem Aligned.fresh {w : Writing} (wrote : m.wrote? link.transport = some w) :
    w.call ∉ (wire link.transport past).map (·.call) ∧ w.seq ∉ (wire link.transport past).map (·.seq) := by
  obtain ⟨⟨call, present, seq, -, unsent, -⟩, -⟩ := request?_of_wrote? wrote
  have apart {u : Writing} (member : u ∈ wire link.transport past) : ¬ (w.call = u.call ∨ call.seq? = some u.seq) := by
    intro same
    have sent := ((aligned.known u member).2.2 w.call call present same).2.2
    simp [unsent] at sent
  constructor
  · intro member
    obtain ⟨u, member, same⟩ := List.mem_map.mp member
    exact apart member (.inl same.symm)
  · intro member
    obtain ⟨u, member, same⟩ := List.mem_map.mp member
    exact apart member (.inr (by rw [seq, same]))

include sound

theorem Aligned.isLive (used : m.before.InUse link.transport) {w : Writing}
    (owed : w ∈ unanswered link.transport past) : m.before.isLive w.seq = true := by
  obtain ⟨call, present, waits⟩ := (aligned.waiting used).2 w owed
  obtain ⟨-, seq, -⟩ := (aligned.known w (List.mem_of_mem_drop owed)).2.2 w.call call present (.inl rfl)
  exact (isLive_iff sound.tidy w.seq).mpr ⟨w.call, call, present, seq, waits⟩

theorem Aligned.first_live (used : m.before.InUse link.transport) {dead later : List Nat} {n : Nat}
    (queue : m.before.waiters = dead ++ n :: later) (abandoned : ∀ x ∈ dead, m.before.isLive x = false)
    (live : m.before.isLive n = true) {w : Writing} {rest : List Writing}
    (owed : unanswered link.transport past = w :: rest) :
    n = w.seq ∧ later.filter (· ∈ (wire link.transport past).map (·.seq)) = rest.map (·.seq) := by
  have order := (aligned.waiting used).1
  have gone : dead.filter (· ∈ (wire link.transport past).map (·.seq)) = [] := by
    rw [List.filter_eq_nil_iff]
    intro x member wired
    have waiting : x ∈ m.before.waiters.filter (· ∈ (wire link.transport past).map (·.seq)) :=
      List.mem_filter.mpr ⟨by simp [queue, member], wired⟩
    rw [order] at waiting
    obtain ⟨u, owed, rfl⟩ := List.mem_map.mp waiting
    simpa [abandoned u.seq member] using aligned.isLive sound used owed
  rw [queue, List.filter_append, gone, List.nil_append, List.filter_cons, owed, List.map_cons] at order
  by_cases wired : n ∈ (wire link.transport past).map (·.seq)
  · rw [if_pos (by simpa using wired)] at order
    exact List.cons.inj order
  · -- it has not written yet, so it is the last to have queued
    rw [if_neg (by simpa using wired)] at order
    obtain ⟨id, call, present, seq, waits⟩ := (isLive_iff sound.tidy n).mp live
    have unsent : call.isSent = false := by
      by_contra sent
      obtain ⟨u, member, -, rfl⟩ := aligned.written id call n present seq waits (by simpa using sent)
      exact wired (List.mem_map_of_mem member)
    have last := sound.queued.last id call n present seq waits (Call.isSending_of_unsent waits unsent)
    have nodup := sound.queued.nodup
    rw [queue, List.nodup_append] at nodup
    have ends : later = [] := by
      by_contra more
      rw [queue, List.getLast?_append_of_ne_nil _ (by simp), List.getLast?_cons_of_ne_nil more] at last
      exact (List.nodup_cons.mp nodup.2.1).1 (List.mem_of_getLast? last)
    simp [ends] at order

include exchange

/-- A frame arrives in its turn, and only when there is one on the wire that waits for an answer. -/
theorem Aligned.owed {generation : Nat} {frame : Frame} (arrival : m.arrival? = some (generation, frame)) :
    arrivals past ++ [frame] <+: sent device past ∧ m.before.InUse link.transport ∧
      ∃ w rest, unanswered link.transport past = w :: rest := by
  obtain ⟨other, reader, later, active, taps, channel⟩ := sound.linked.arrives arrival
  obtain rfl := aligned.current other active
  obtain ⟨reader', taps', -, -, whole⟩ := aligned.traffic active
  rw [taps, Option.some.injEq] at taps'
  subst taps'
  have first : arrivals past ++ [frame] <+: sent device past := by
    simp [whole, Transport.Reader.pipe, channel]
  refine ⟨first, .inl ⟨_, active⟩, List.exists_cons_of_ne_nil fun none => ?_⟩
  -- otherwise the device has sent more than it was asked for
  have all := List.drop_eq_nil_iff.mp none
  have fewer := first.length_le.trans exchange.before.sent_le
  rw [aligned.arrived] at fewer
  simp at fewer
  omega

end Before

section After

include sound stepped

theorem mail?_stays {id : Nat} {call call' : Call} (present : m.before.request? id = some call)
    (waits : call.mail? = some .empty) (present' : m.after.request? id = some call') (next : call.Next call')
    (unhanded : ∀ d ∈ m.deliveries, d.call ≠ id) {i : Nat} (used : m.after.InUse i) : call'.mail? = some .empty := by
  have request := (step_move sound.tidy stepped).requestChange sound.tidy sound.linked
  rcases next.mail with same | ⟨none, -⟩ | ⟨-, mail, handed⟩
  · rw [same, waits]
  · cases waits.symm.trans none
  · cases mail with
    | empty => exact handed
    | dropped => exact absurd used (request.unused_of_dropped sound.tidy present waits present' handed i)
    | reply frame =>
      obtain ⟨known, sends⟩ := Option.filter_eq_some_iff.mp present
      obtain ⟨n, seq⟩ := Option.isSome_iff_exists.mp sends
      refine absurd rfl (unhanded ⟨id, n, frame⟩ ?_)
      refine (mem_deliveries sound.tidy).mpr ⟨call, known, seq, waits, ?_⟩
      rw [mail?_call?, present', Option.bind_some, handed]

include aligned

theorem Aligned.known_step : ∀ w ∈ wire link.transport (past ++ [m]), w.call < m.after.nextCall ∧
    w.seq < m.after.nextSeq ∧ ∀ id call', m.after.request? id = some call' → id = w.call ∨ call'.seq? = some w.seq →
      id = w.call ∧ call'.seq? = some w.seq ∧ call'.isSent = true := by
  have move := step_move sound.tidy stepped
  have request := move.requestChange sound.tidy sound.linked
  have grows := move.next_le
  intro w member
  rw [wire_append, List.mem_append, Option.mem_toList] at member
  have was : w.call < m.before.nextCall ∧ w.seq < m.before.nextSeq ∧ ∀ id call call',
      m.before.request? id = some call → m.after.request? id = some call' → call.Next call' →
      id = w.call ∨ call.seq? = some w.seq → id = w.call ∧ call.seq? = some w.seq ∧ call'.isSent = true := by
    rcases member with old | wrote
    · obtain ⟨call_lt, seq_lt, known⟩ := aligned.known w old
      refine ⟨call_lt, seq_lt, fun id call call' present present' next same => ?_⟩
      obtain ⟨rfl, seq, sent⟩ := known id call present same
      exact ⟨rfl, seq, next.sent sent⟩
    · obtain ⟨⟨own, present, seq, -⟩, own', present', sent, -⟩ := request?_of_wrote? wrote
      refine ⟨sound.tidy.lt_nextCall (Option.filter_eq_some_iff.mp present).1,
        sound.queued.seq_lt w.call own w.seq present seq, fun id call call' known known' next same => ?_⟩
      have same : id = w.call := by
        rcases same with same | seq'
        · exact same
        · exact sound.queued.seq_unique _ _ _ _ w.seq known present seq' seq
      subst same
      rw [known, Option.some.injEq] at present
      rw [known', Option.some.injEq] at present'
      subst present present'
      exact ⟨rfl, seq, sent⟩
  refine ⟨by omega, by omega, fun id call' present' same => ?_⟩
  rcases request.before sound.tidy present' with begun | ⟨call, present, next⟩
  · rcases same with rfl | seq
    · have := begun.id
      omega
    · have := Option.some.inj (seq.symm.trans begun.seq)
      omega
  · rw [next.seq] at same ⊢
    exact was.2.2 id call call' present present' next same

include exchange

theorem Aligned.answers : AnswerChange link past m := by
  have change : FrameChange m :=
    (step_move sound.tidy stepped).frameChange sound.tidy sound.linked sound.queued
  cases change with
  | quiet arrival registration deliveries inbound unsolicited waiters =>
    exact .nobody arrival deliveries (waiters.filter _)
  | @registers id n call arrival registration deliveries inbound unsolicited present number unregistered registered
      waiters =>
    have unwired : n ∉ (wire link.transport past).map (·.seq) := by
      intro wired
      obtain ⟨w, member, rfl⟩ := List.mem_map.mp wired
      obtain ⟨-, -, sent⟩ := (aligned.known w member).2.2 id call present (.inr number)
      exact Call.mail?_ne_none_of_isSent sent unregistered
    refine .nobody arrival deliveries ?_
    rw [waiters, List.filter_append, List.filter_cons_of_neg (by simpa using unwired), List.filter_nil, List.append_nil]
  | @delivers generation frame id n dead later arrival registration deliveries inbound unsolicited queue abandoned live
      waiters =>
    obtain ⟨-, used, w, rest, owed⟩ := aligned.owed sound exchange arrival
    obtain ⟨rfl, order⟩ := aligned.first_live sound used queue abandoned live owed
    have wired : w ∈ wire link.transport past := List.mem_of_mem_drop (owed ▸ List.mem_cons_self)
    obtain ⟨call, present, seq, -⟩ := (mem_deliveries (d := ⟨id, w.seq, frame⟩) sound.tidy).mp (by simp [deliveries])
    obtain ⟨rfl, -⟩ := (aligned.known w wired).2.2 id call (request?_of_call? present (by simp [seq])) (.inr seq)
    refine .first arrival ?_ owed deliveries (by rw [waiters, order])
    rw [Option.eq_none_iff_forall_ne_some]
    intro w' wrote
    cases (arrival?_eq_some.mp arrival).1.symm.trans (wrote?_eq_some.mp wrote).1
  | publishes arrival registration deliveries inbound unsolicited abandoned waiters =>
    -- the first on the wire that waits for an answer is among the waiters, and it is live
    obtain ⟨-, used, w, rest, owed⟩ := aligned.owed sound exchange arrival
    have first : w ∈ unanswered link.transport past := owed ▸ List.mem_cons_self
    obtain ⟨call, present, waits⟩ := (aligned.waiting used).2 w first
    obtain ⟨-, seq, -⟩ := (aligned.known w (List.mem_of_mem_drop first)).2.2 w.call call present (.inl rfl)
    have queues := (sound.queued.waits w.call call w.seq present seq).mpr waits
    simpa [abandoned w.seq queues] using aligned.isLive sound used first

theorem Aligned.stays {w : Writing} (wired : w ∈ wire link.transport past) {call : Call}
    (present : m.before.request? w.call = some call) (waits : call.mail? = some .empty)
    (unhanded : ∀ d ∈ m.deliveries, d.call ≠ w.call) {i : Nat} (used : m.after.InUse i) :
    m.after.Waits w.call := by
  have request := (step_move sound.tidy stepped).requestChange sound.tidy sound.linked
  have kept : m.gaveUp w.call = false := exchange.kept w (by simp [wired]) m (by simp)
  have sent := ((aligned.known w wired).2.2 w.call call present (.inl rfl)).2.2
  rcases request.after sound.tidy present with ⟨call', present', next⟩ | ⟨-, gone⟩ |
    ⟨outcome, ended, ⟨reply, -, replied⟩ | ⟨-, dropped⟩ | ⟨cause, -, unsent⟩ | ⟨waited, rfl, -⟩⟩
  · exact ⟨call', present', mail?_stays sound stepped present waits present' next unhanded used⟩
  · rcases gone with gone | ⟨transport, frame, gone⟩ <;> simp [Moment.gaveUp, present, gone] at kept
  · cases waits.symm.trans replied
  · cases waits.symm.trans dropped
  · simp [sent] at unsent
  · simp [Moment.gaveUp, present, ended] at kept

theorem Aligned.links_step : m.after.generation = s.generation ∧
    (m.after.active = m.before.active ∨ m.after.active = none) ∧
    m.after.receivers.map (·.transport) = m.before.receivers.map (·.transport) ∧
    ∀ i ∈ m.before.receivers.map (·.transport), m.after.InUse i → m.before.InUse i := by
  have move := step_move sound.tidy stepped
  have same := exchange.one_link m (by simp)
  obtain ⟨active, routes⟩ := move.same_link (same.trans aligned.generation.symm)
  refine ⟨same, active, routes, fun i routed used => ?_⟩
  by_contra gone
  exact move.out_of_use sound.tidy sound.linked routed gone used

theorem Aligned.written_step {id n : Nat} {call' : Call} (present' : m.after.request? id = some call')
    (seq : call'.seq? = some n) (waits : call'.mail? = some .empty) (sent : call'.isSent = true) :
    ∃ w ∈ wire link.transport (past ++ [m]), w.call = id ∧ w.seq = n := by
  have move := step_move sound.tidy stepped
  rcases (move.requestChange sound.tidy sound.linked).before sound.tidy present' with begun | ⟨call, present, next⟩
  · cases waits.symm.trans begun.mail
  · rw [next.seq] at seq
    by_cases old : call.isSent = true
    · have waited : call.mail? = some .empty := by
        rcases next.mail with same | ⟨none, -⟩ | ⟨empty, -⟩
        · rw [← same, waits]
        · exact absurd none (Call.mail?_ne_none_of_isSent old)
        · exact empty
      obtain ⟨w, member, same⟩ := aligned.written id call n present seq waited old
      exact ⟨w, by simp [member], same⟩
    · obtain ⟨i, route⟩ := Call.route?_of_mail? waits
      have routed := (sound.step stepped).queued.routed id call' i present' route
      have used := (sound.step stepped).queued.waiting_used id call' i present' route waits
      obtain ⟨-, -, routes, still⟩ := aligned.links_step sound stepped exchange
      rw [routes] at routed
      obtain rfl := aligned.solely i routed (still i routed used)
      rw [next.route] at route
      obtain ⟨frame, wrote⟩ :=
        move.wrote?_eq sound.tidy sound.linked present seq route (by simpa using old) present' sent
      refine ⟨⟨id, n, frame⟩, ?_, rfl, rfl⟩
      rw [wire_append, List.mem_append, Option.mem_toList]
      exact .inr wrote

theorem Aligned.unwritten_step (used : m.after.InUse link.transport) {id : Nat} {call' : Call}
    (present' : m.after.request? id = some call') (route : call'.route? = some link.transport) :
    call'.isSent = true ∨ call'.mail? = none ∨ call'.mail? = some .empty := by
  have move := step_move sound.tidy stepped
  have used' := (aligned.links_step sound stepped exchange).2.2.2 link.transport aligned.routed used
  rcases (move.requestChange sound.tidy sound.linked).before sound.tidy present' with begun | ⟨call, present, next⟩
  · exact .inr (.inl begun.mail)
  · rw [next.route] at route
    rcases aligned.unwritten used' id call present route with sent | none | waits
    · exact .inl (next.sent sent)
    · rcases next.mail with same | ⟨-, empty⟩ | ⟨empty, -⟩
      · exact .inr (.inl (same.trans none))
      · exact .inr (.inr empty)
      · cases none.symm.trans empty
    · by_cases handed : ∃ d ∈ m.deliveries, d.call = id
      · obtain ⟨d, member, rfl⟩ := handed
        cases aligned.answers sound stepped exchange with
        | nobody arrival none => simp [none] at member
        | @first generation frame w rest arrival idle owed one =>
          rw [one, List.mem_singleton] at member
          subst member
          have wired : w ∈ wire link.transport past := List.mem_of_mem_drop (owed ▸ List.mem_cons_self)
          exact .inl (next.sent ((aligned.known w wired).2.2 w.call call present (.inl rfl)).2.2)
      · refine .inr (.inr (mail?_stays sound stepped present waits present' next ?_ used))
        exact fun d member same => handed ⟨d, member, same⟩

theorem Aligned.waiting_keeps (used : m.after.InUse link.transport) :
    m.after.waiters.filter (· ∈ (wire link.transport past).map (·.seq)) =
      ((unanswered link.transport past).drop m.deliveries.length).map (·.seq) ∧
    ∀ w ∈ (unanswered link.transport past).drop m.deliveries.length, m.after.Waits w.call := by
  have queued := (sound.step stepped).queued
  obtain ⟨-, -, -, still⟩ := aligned.links_step sound stepped exchange
  obtain ⟨order, lives⟩ := aligned.waiting (still _ aligned.routed used)
  have goesOn {w : Writing} (owed : w ∈ unanswered link.transport past)
      (unhanded : ∀ d ∈ m.deliveries, d.call ≠ w.call) : m.after.Waits w.call := by
    obtain ⟨call, present, waits⟩ := lives w owed
    exact aligned.stays sound stepped exchange (List.mem_of_mem_drop owed) present waits unhanded used
  cases aligned.answers sound stepped exchange with
  | nobody arrival nobody fewer =>
    rw [nobody, List.length_nil, List.drop_zero]
    have goesOn {w : Writing} (owed : w ∈ unanswered link.transport past) := goesOn owed (by simp [nobody])
    refine ⟨?_, fun w => goesOn⟩
    -- nobody joins the queue, and whoever is owed an answer is still in it
    rw [order] at fewer
    have nodup : ((unanswered link.transport past).map (·.seq)).Nodup := order ▸ sound.queued.nodup.filter _
    refine fewer.eq_of_length_le (List.subperm_of_subset nodup fun n member => ?_).length_le
    obtain ⟨w, owed, rfl⟩ := List.mem_map.mp member
    obtain ⟨call, present, waits⟩ := goesOn owed
    have wired : w ∈ wire link.transport past := List.mem_of_mem_drop owed
    have seq := ((aligned.known_step sound stepped w (by simp [wired])).2.2 w.call call present (.inl rfl)).2.1
    refine List.mem_filter.mpr ⟨(queued.waits w.call call w.seq present seq).mpr waits, ?_⟩
    exact decide_eq_true (List.mem_map_of_mem wired)
  | @first generation frame first rest arrival idle owed one order' =>
    rw [one, owed, List.length_singleton, List.drop_succ_cons, List.drop_zero]
    refine ⟨order', fun w member => goesOn (by simp [owed, member]) fun d handed same => ?_⟩
    rw [one, List.mem_singleton] at handed
    subst handed
    have nodup := aligned.calls_nodup.sublist ((List.drop_sublist (deliveries past).length _).map _)
    rw [show (wire link.transport past).drop _ = first :: rest from owed, List.map_cons, List.nodup_cons] at nodup
    exact nodup.1 (List.mem_map.mpr ⟨w, member, same.symm⟩)

theorem Aligned.joins (used : m.after.InUse link.transport) {w : Writing} (wrote : m.wrote? link.transport = some w) :
    m.deliveries = [] ∧ m.after.Waits w.call ∧ ∃ front, m.after.waiters = front ++ [w.seq] ∧ w.seq ∉ front := by
  have move := step_move sound.tidy stepped
  have queued := (sound.step stepped).queued
  have nobody : m.deliveries = [] := by
    cases aligned.answers sound stepped exchange with
    | nobody arrival nobody => exact nobody
    | first arrival idle => cases idle.symm.trans wrote
  obtain ⟨-, -, -, still⟩ := aligned.links_step sound stepped exchange
  obtain ⟨⟨call, present, seq, route, unsent, registered⟩, call', present', sent, sending⟩ := request?_of_wrote? wrote
  have waits : call.mail? = some .empty := by
    rcases aligned.unwritten (still _ aligned.routed used) w.call call present route with sent | none | waits
    · simp [unsent] at sent
    · exact absurd none registered
    · exact waits
  rcases (move.requestChange sound.tidy sound.linked).before sound.tidy present' with begun | ⟨was, present'', next⟩
  · have new := begun.id
    have old := sound.tidy.lt_nextCall (Option.filter_eq_some_iff.mp present).1
    omega
  · rw [present, Option.some.injEq] at present''
    subst present''
    have waits' := mail?_stays sound stepped present waits present' next (by simp [nobody]) used
    have last := queued.last w.call call' w.seq present' (next.seq.trans seq) waits' sending
    obtain ⟨front, whole⟩ := List.getLast?_eq_some_iff.mp last
    have nodup := queued.nodup
    rw [whole, List.nodup_append] at nodup
    exact ⟨nobody, ⟨call', present', waits'⟩, front, whole, fun member => nodup.2.2 _ member _ (by simp) rfl⟩

theorem Aligned.answered_step : (deliveries (past ++ [m])).map (fun d => (d.call, d.seq)) <+:
    (wire link.transport (past ++ [m])).map fun w => (w.call, w.seq) := by
  rw [deliveries_append, wire_append, List.map_append, List.map_append]
  refine List.IsPrefix.trans ?_ (List.prefix_append _ _)
  cases aligned.answers sound stepped exchange with
  | nobody arrival nobody => simpa [nobody] using aligned.answered
  | first arrival idle owed one => simp [aligned.wire_eq, owed, one]

theorem Aligned.unanswered_step : unanswered link.transport (past ++ [m]) =
    (unanswered link.transport past).drop m.deliveries.length ++ (m.wrote? link.transport).toList := by
  have within : (deliveries past).length + m.deliveries.length ≤ (wire link.transport past).length := by
    have whole := congrArg List.length aligned.wire_eq
    cases aligned.answers sound stepped exchange with
    | nobody arrival nobody =>
      simp only [List.length_map, List.length_append] at whole
      simp only [nobody, List.length_nil]
      omega
    | first arrival idle owed one =>
      simp only [owed, List.length_map, List.length_append, List.length_cons] at whole
      simp only [one, List.length_singleton]
      omega
  rw [unanswered, unanswered, wire_append, deliveries_append, List.length_append, List.drop_append_of_le_length within,
    List.drop_drop]

theorem Aligned.waiting_step (used : m.after.InUse link.transport) :
    m.after.waiters.filter (· ∈ (wire link.transport (past ++ [m])).map (·.seq)) =
      (unanswered link.transport (past ++ [m])).map (·.seq) ∧
    ∀ w ∈ unanswered link.transport (past ++ [m]), m.after.Waits w.call := by
  obtain ⟨order, lives⟩ := aligned.waiting_keeps sound stepped exchange used
  rw [aligned.unanswered_step sound stepped exchange, wire_append]
  cases wrote : m.wrote? link.transport with
  | none =>
    rw [Option.toList_none, List.append_nil, List.append_nil]
    exact ⟨order, lives⟩
  | some w =>
    obtain ⟨nobody, live, front, queue, absent⟩ := aligned.joins sound stepped exchange used wrote
    have fresh := (aligned.fresh wrote).2
    rw [nobody, List.length_nil, List.drop_zero] at order lives ⊢
    rw [Option.toList_some]
    constructor
    · rw [queue, List.filter_append, List.filter_cons_of_neg (by simpa using fresh), List.filter_nil,
        List.append_nil] at order
      have same : front.filter (· ∈ (wire link.transport past ++ [w]).map (·.seq)) =
          front.filter (· ∈ (wire link.transport past).map (·.seq)) := by
        apply List.filter_congr
        intro n member
        have apart : n ≠ w.seq := fun same => absent (same ▸ member)
        simp [apart]
      rw [queue, List.filter_append, same, order]
      simp
    · intro u member
      rcases List.mem_append.mp member with old | new
      · exact lives u old
      · rw [List.mem_singleton] at new
        exact new ▸ live

theorem Aligned.traffic_step (active : m.after.active = some link) : ∃ reader,
    m.after.reader? link.transport = some reader ∧ reader.device = device ∧ s.config.link.readBuffer ≤ reader.size ∧
      sent device (past ++ [m]) = arrivals (past ++ [m]) ++ reader.pipe (m.after.bus.queue device) := by
  have was : m.before.active = some link := by
    rcases (aligned.links_step sound stepped exchange).2.1 with same | gone
    · rw [← same, active]
    · cases active.symm.trans gone
  obtain ⟨reader, taps, rfl, size, whole⟩ := aligned.traffic was
  have fits (frame : Frame) (queued : frame ∈ m.before.bus.queue reader.device) :
      frame ≠ [] ∧ frame.length ≤ reader.size := by
    have came : frame ∈ sent reader.device (past ++ [m]) := by
      rw [sent_append, whole]
      simp [Transport.Reader.pipe, queued]
    exact ⟨(exchange.fits frame came).1, (exchange.fits frame came).2.trans size⟩
  obtain ⟨reader', carries⟩ := (step_move sound.tidy stepped).carries sound.linked was active taps fits
    (exchange.one_reader m (by simp))
  refine ⟨reader', carries.taps, carries.device, by rwa [carries.size], ?_⟩
  rw [sent_append, arrivals_append, whole, List.append_assoc, List.append_assoc]
  exact congrArg (arrivals past ++ ·) carries.frames

/-- Every step of a run on one link keeps waiters, wire and replies aligned. -/
theorem Aligned.step : Aligned s link device m.after (past ++ [m]) := by
  obtain ⟨generation, active, routes, still⟩ := aligned.links_step sound stepped exchange
  constructor
  case generation => exact generation
  case current =>
    intro other used
    rcases active with same | gone
    · exact aligned.current other (same.symm.trans used)
    · cases used.symm.trans gone
  case routed => rw [routes]; exact aligned.routed
  case solely =>
    intro i routed used
    rw [routes] at routed
    exact aligned.solely i routed (still i routed used)
  case calls_nodup =>
    rw [wire_append, List.map_append]
    cases wrote : m.wrote? link.transport with
    | none => simpa using aligned.calls_nodup
    | some w => simpa using aligned.calls_nodup.concat (aligned.fresh wrote).1
  case seqs_nodup =>
    rw [wire_append, List.map_append]
    cases wrote : m.wrote? link.transport with
    | none => simpa using aligned.seqs_nodup
    | some w => simpa using aligned.seqs_nodup.concat (aligned.fresh wrote).2
  case known => exact aligned.known_step sound stepped
  case written => exact fun id call n => aligned.written_step sound stepped exchange
  case unwritten => exact fun used id call => aligned.unwritten_step sound stepped exchange used
  case waiting => exact aligned.waiting_step sound stepped exchange
  case answered => exact aligned.answered_step sound stepped exchange
  case arrived =>
    rw [arrivals_append, deliveries_append, List.map_append, aligned.arrived]
    cases aligned.answers sound stepped exchange with
    | nobody quiet nobody => simp [quiet, nobody]
    | first arrival idle owed one => simp [arrival, one]
  case carried =>
    rw [arrivals_append, sent_append]
    refine List.IsPrefix.trans ?_ (List.prefix_append _ _)
    cases arrival : m.arrival? with
    | none => simpa using aligned.carried
    | some taken => simpa using (aligned.owed sound exchange arrival).1
  case traffic => exact aligned.traffic_step sound stepped exchange

end After

end Step

theorem Exchange.aligned {s s' : Session} {link : ActiveLink} {device : Nat} {actions : List Action} (sound : s.Sound)
    (start : s.bus.queue device = [] → Aligned s link device s []) (run : s.run actions = some s')
    (exchange : Exchange s link device (s.moments actions)) : Aligned s link device s' (s.moments actions) := by
  -- by induction on the run, with the alignment as what each step keeps
  refine sound.run_induction (P := fun s' past => Exchange s link device past → Aligned s link device s' past)
    (fun exchange => start exchange.quiet) ?_ run exchange
  intro before action after past sound aligned stepped exchange
  exact (aligned exchange.before).step (m := ⟨before, action, after⟩) sound stepped exchange

/-- What comes of a run on one link. -/
structure Correlated (s : Session) (link : ActiveLink) (device : Nat) (s' : Session) (past : List Moment) : Prop where
  order : s'.waiters.filter (· ∈ (wire link.transport past).map (·.seq)) =
    ((wire link.transport past).map (·.seq)).filter (· ∈ s'.waiters)
  once : ((wire link.transport past).map (·.call)).Nodup ∧ ((wire link.transport past).map (·.seq)).Nodup
  /-- A request begun since the link was opened that ends with a reply wrote a frame, and the reply has the place
      among what the device sent that the frame has among what it received. -/
  replied : ∀ id reply, s.nextCall ≤ id → s'.call? id = some (.ended (.reply reply)) →
    ∃ (i : Nat) (w : Writing), (wire link.transport past)[i]? = some w ∧ w.call = id ∧
      (received device past)[i]? = some w.frame ∧ (sent device past)[i]? = some reply

theorem Aligned.order {s s' : Session} {link : ActiveLink} {device : Nat} {past : List Moment}
    (aligned : Aligned s link device s' past) (queued : s'.Queued) :
    s'.waiters.filter (· ∈ (wire link.transport past).map (·.seq)) =
      ((wire link.transport past).map (·.seq)).filter (· ∈ s'.waiters) := by
  by_cases used : s'.InUse link.transport
  · have waiting := (aligned.waiting used).1
    have whole := List.take_append_drop (deliveries past).length (wire link.transport past)
    have nodup := aligned.seqs_nodup
    rw [← whole, List.map_append, List.nodup_append] at nodup
    have split : (wire link.transport past).map (·.seq) =
        ((wire link.transport past).take (deliveries past).length).map (·.seq) ++
          (unanswered link.transport past).map (·.seq) := by
      rw [unanswered, ← List.map_append, whole]
    have gone :
        (((wire link.transport past).take (deliveries past).length).map (·.seq)).filter (· ∈ s'.waiters) = [] := by
      rw [List.filter_eq_nil_iff]
      intro n member waits
      have owed : n ∈ s'.waiters.filter (· ∈ (wire link.transport past).map (·.seq)) :=
        List.mem_filter.mpr ⟨of_decide_eq_true waits, decide_eq_true (split ▸ List.mem_append_left _ member)⟩
      rw [waiting] at owed
      exact nodup.2.2 n member n owed rfl
    have left : ((unanswered link.transport past).map (·.seq)).filter (· ∈ s'.waiters) =
        (unanswered link.transport past).map (·.seq) := by
      rw [List.filter_eq_self]
      intro n owed
      rw [← waiting] at owed
      exact decide_eq_true (List.mem_filter.mp owed).1
    rw [waiting, split, List.filter_append, gone, left, List.nil_append]
  · have empty : s'.waiters = [] := by
      by_contra waits
      obtain ⟨i, routed, used'⟩ := queued.waiters_used waits
      exact used (aligned.solely i routed used' ▸ used')
    simp [empty]

/-- Replies go to the requests whose frames they answer, whoever else sends on the link meanwhile and whichever
    writes fail. -/
theorem replies_correlated {config : Config} {bus : Link.Bus} {earlier actions : List Action} {before s s' : Session}
    {action : Action} {link : ActiveLink} {device : Nat} (reached : (fresh config bus).run earlier = some before)
    (opens : Opens before action s link device) (run : s.run actions = some s')
    (exchange : Exchange s link device (s.moments actions)) : Correlated s link device s' (s.moments actions) := by
  have sound := sound_of_run reached
  have sound' := sound.step opens.stepped
  have ledger : s.Ledger ((fresh config bus).moments earlier ++ [⟨before, action, s⟩]) :=
    (ledger_of_run reached).step (m := ⟨before, action, s⟩) sound opens.stepped
  have aligned := exchange.aligned sound' (opens.aligned sound) run
  refine ⟨aligned.order (sound'.run run).queued, ⟨aligned.calls_nodup, aligned.seqs_nodup⟩, ?_⟩
  intro id reply late ended
  obtain ⟨d, member, rfl, rfl⟩ := (ledger.run sound' run).replies id reply ended
  rw [deliveries, List.flatMap_append, List.mem_append] at member
  rcases member with old | new
  · -- whoever was handed a frame before the link was opened is an older call
    obtain ⟨places, -, registered⟩ := ledger.places
    have place : (d.call, d.seq) ∈ registrations ((fresh config bus).moments earlier ++ [⟨before, action, s⟩]) :=
      registered.subset (List.mem_append_left _ (List.mem_map.mpr ⟨d, old, rfl⟩))
    exact absurd (ledger.bounds d.call d.seq place).1 (Nat.not_lt.mpr late)
  · obtain ⟨i, answered⟩ := List.getElem?_of_mem (show d ∈ deliveries (s.moments actions) from new)
    have kept {α : Type} {xs ys : List α} {x : α} (first : xs <+: ys) (found : xs[i]? = some x) : ys[i]? = some x := by
      obtain ⟨more, rfl⟩ := first
      rw [List.getElem?_append_left (List.getElem?_eq_some_iff.mp found).1, found]
    have placed : ((wire link.transport (s.moments actions)).map fun w => (w.call, w.seq))[i]? = some (d.call, d.seq) :=
      kept aligned.answered (by rw [List.getElem?_map, answered, Option.map_some])
    rw [List.getElem?_map, Option.map_eq_some_iff] at placed
    obtain ⟨w, wired, place⟩ := placed
    refine ⟨i, w, wired, (Prod.mk.inj place).1, ?_, ?_⟩
    · rw [exchange.received_eq, List.getElem?_map, wired, Option.map_some]
    · exact kept aligned.carried (by rw [aligned.arrived, List.getElem?_map, answered, Option.map_some])

theorem replies_correlated_overlapping : ∃ bus earlier before action s link actions s',
    (fresh {} bus).run earlier = some before ∧ Opens before action s link 0 ∧ s.run actions = some s' ∧
    Exchange s link 0 (s.moments actions) ∧ (s'.call? 1).bind (·.outcome?) = some (.reply [50]) ∧
    (s'.call? 3).bind (·.outcome?) = some (.reply [70]) ∧ Correlated s link 0 s' (s.moments actions) := by
  let bus : Link.Bus := { devices := [.ofInfo ⟨"adapter", .usb, none⟩ .silent []] }
  let earlier : List Action := [.begin (.connect .usb none), .resume 0, .resume 0, .work 0]
  let actions : List Action :=
    [.begin (.request [5] 10), .begin (.request [6] 10), .begin (.request [7] 10), .resume 1, .work 1, .resume 1,
      .resume 2, .happen (.failWrites 0 true), .work 2, .happen (.push 0 [50]), .read 0 0, .read 0 0, .read 0 0,
      .receive 1, .resume 2, .happen (.failWrites 0 false), .resume 3, .work 3, .happen (.push 0 [70]), .resume 1,
      .read 0 0, .read 0 0, .read 0 0, .receive 1, .resume 3]
  have ends : ((fresh {} bus).run earlier).any (fun before => (before.step (.resume 0)).any fun s =>
      (s.generation ≠ before.generation ∧ s.active = some ⟨0, 1⟩ ∧
        s.transports[0]?.bind (·.writer) = some 0) ∧
      (s.run actions).any fun s' => Exchange s ⟨0, 1⟩ 0 (s.moments actions) ∧
        (s'.call? 1).bind (·.outcome?) = some (.reply [50]) ∧
        (s'.call? 3).bind (·.outcome?) = some (.reply [70])) = true := by decide +kernel
  obtain ⟨before, reached, ends⟩ := (Option.any_eq_true _ _).mp ends
  obtain ⟨s, stepped, ends⟩ := (Option.any_eq_true _ _).mp ends
  obtain ⟨⟨new, active, writes⟩, ends⟩ := of_decide_eq_true ends
  obtain ⟨s', run, ends⟩ := (Option.any_eq_true _ _).mp ends
  obtain ⟨exchange, first, third⟩ := of_decide_eq_true ends
  have opens : Opens before (.resume 0) s ⟨0, 1⟩ 0 := ⟨stepped, new, active, writes⟩
  exact ⟨bus, earlier, before, .resume 0, s, ⟨0, 1⟩, actions, s', reached, opens, run, exchange, first, third,
    replies_correlated reached opens run exchange⟩

end TagConsole.Session
