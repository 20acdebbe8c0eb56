import TagConsole.Proofs.Session.Requests

/-!
Where the frames of a link go. Every frame that is taken from a link is published once, and then it goes
to the first request that waits or counts as unsolicited.
-/

namespace TagConsole.Session

open Wire (Frame)

structure Delivery where
  call : Nat
  seq : Nat
  frame : Frame
  deriving DecidableEq, Repr

namespace Moment

def arrival? (m : Moment) : Option (Nat × Frame) :=
  match m.action with
  | .receive generation => do
    let receiver ← (m.before.receiver? generation).filter (·.stage = .listening)
    let t ← m.before.transports[receiver.transport]?
    let reader ← t.readers[receiver.reader]?
    (reader.receive).map fun taken => (generation, taken.1)
  | _ => none

def handed? (m : Moment) (id : Nat) (call : Call) : Option Delivery :=
  match call.seq?, call.mail?, (m.after.call? id).bind (·.mail?) with
  | some seq, some .empty, some (.reply frame) => some ⟨id, seq, frame⟩
  | _, _, _ => none

def deliveries (m : Moment) : List Delivery := m.before.calls.filterMap fun entry => m.handed? entry.1 entry.2

def registration? (m : Moment) : Option (Nat × Nat) :=
  match m.action with
  | .resume id =>
    match m.before.call? id, (m.after.call? id).bind (·.mail?) with
    | some (.request _ _ (.queueing _ seq)), some _ => some (id, seq)
    | _, _ => none
  | _ => none

end Moment

inductive Merge {α : Type} : List α → List α → List α → Prop where
  | nil : Merge [] [] []
  | left {xs ys zs x} (merge : Merge xs ys zs) : Merge (xs ++ [x]) ys (zs ++ [x])
  | right {xs ys zs y} (merge : Merge xs ys zs) : Merge xs (ys ++ [y]) (zs ++ [y])

theorem arrival?_eq_some {m : Moment} {generation : Nat} {frame : Frame} : m.arrival? = some (generation, frame) ↔
    m.action = .receive generation ∧ ∃ receiver t reader reader',
      m.before.receiver? generation = some receiver ∧ receiver.stage = .listening ∧
      m.before.transports[receiver.transport]? = some t ∧ t.readers[receiver.reader]? = some reader ∧
      reader.receive = some (frame, reader') := by
  unfold Moment.arrival?
  constructor
  · intro arrival
    split at arrival
    · rename_i generation' action
      simp only [Option.bind_eq_bind, Option.bind_eq_some_iff, Option.filter_eq_some_iff, Option.map_eq_some_iff,
        decide_eq_true_eq, Prod.mk.injEq] at arrival
      obtain ⟨receiver, ⟨known, stage⟩, t, found, reader, taps, ⟨frame', reader'⟩, takes, rfl, rfl⟩ := arrival
      exact ⟨action, receiver, t, reader, reader', known, stage, found, taps, takes⟩
    · cases arrival
  · rintro ⟨action, receiver, t, reader, reader', known, stage, found, taps, takes⟩
    simp [action, known, Option.filter, stage, found, taps, takes]

section Handed

variable {m : Moment} {id : Nat} {call : Call}

theorem handed?_eq_some {d : Delivery} : m.handed? id call = some d ↔
    d.call = id ∧ call.seq? = some d.seq ∧ call.mail? = some .empty ∧
      (m.after.call? id).bind (·.mail?) = some (.reply d.frame) := by
  obtain ⟨id', seq, frame⟩ := d
  unfold Moment.handed?
  split
  · rename_i seq' frame' has_seq empty handed
    simp only [has_seq, empty, handed, Option.some.injEq, Delivery.mk.injEq, Mail.reply.injEq]
    tauto
  · rename_i other
    simp only [reduceCtorEq, false_iff]
    rintro ⟨-, has_seq, empty, handed⟩
    exact other _ _ has_seq empty handed

theorem mem_deliveries (tidy : m.before.Tidy) {d : Delivery} : d ∈ m.deliveries ↔
    ∃ call, m.before.call? d.call = some call ∧ call.seq? = some d.seq ∧ call.mail? = some .empty ∧
      (m.after.call? d.call).bind (·.mail?) = some (.reply d.frame) := by
  simp only [Moment.deliveries, List.mem_filterMap, handed?_eq_some]
  constructor
  · rintro ⟨⟨id, call⟩, member, rfl, has_seq, empty, handed⟩
    exact ⟨call, (Calls.mem_iff_lookup tidy.ids_nodup).mp member, has_seq, empty, handed⟩
  · rintro ⟨call, present, has_seq, empty, handed⟩
    exact ⟨(d.call, call), (Calls.mem_iff_lookup tidy.ids_nodup).mpr present, rfl, has_seq, empty, handed⟩

end Handed

/-- The four ways in which a step treats frames and waiters. -/
inductive FrameChange (m : Moment) : Prop where
  | quiet (arrival : m.arrival? = none) (registration : m.registration? = none) (deliveries : m.deliveries = [])
      (inbound : m.after.inbound = m.before.inbound) (unsolicited : m.after.unsolicited = m.before.unsolicited)
      (waiters : m.after.waiters.Sublist m.before.waiters)
  | registers {id n call} (arrival : m.arrival? = none) (registration : m.registration? = some (id, n))
      (deliveries : m.deliveries = []) (inbound : m.after.inbound = m.before.inbound)
      (unsolicited : m.after.unsolicited = m.before.unsolicited) (present : m.before.request? id = some call)
      (number : call.seq? = some n) (unregistered : call.mail? = none)
      (registered : (m.after.call? id).bind (·.mail?) = some .empty)
      (waiters : m.after.waiters = m.before.waiters ++ [n])
  | delivers {generation frame id n dead later} (arrival : m.arrival? = some (generation, frame))
      (registration : m.registration? = none) (deliveries : m.deliveries = [⟨id, n, frame⟩])
      (inbound : m.after.inbound = m.before.inbound ++ [frame])
      (unsolicited : m.after.unsolicited = m.before.unsolicited) (queue : m.before.waiters = dead ++ n :: later)
      (abandoned : ∀ x ∈ dead, m.before.isLive x = false) (live : m.before.isLive n = true)
      (waiters : m.after.waiters = later)
  | publishes {generation frame} (arrival : m.arrival? = some (generation, frame))
      (registration : m.registration? = none) (deliveries : m.deliveries = [])
      (inbound : m.after.inbound = m.before.inbound ++ [frame])
      (unsolicited : m.after.unsolicited = m.before.unsolicited ++ [frame])
      (abandoned : ∀ x ∈ m.before.waiters, m.before.isLive x = false) (waiters : m.after.waiters = [])

section NoDeliveries

variable {m : Moment}

theorem mail?_call? (s : Session) (id : Nat) : (s.call? id).bind (·.mail?) = (s.request? id).bind (·.mail?) := by
  cases present : s.call? id with
  | none => simp [request?, present]
  | some call =>
    cases registered : call.mail? with
    | none => cases sends : call.seq? <;> simp [request?, present, Option.filter, registered, sends]
    | some mail =>
      have sends : call.seq?.isSome = true := by
        unfold Call.mail? at registered
        split at registered
        · rfl
        · cases registered
      simp [request?_of_call? present sends, registered]

theorem deliveries_eq_nil (tidy : m.before.Tidy)
    (quiet : ∀ id call frame, m.before.request? id = some call → call.mail? = some .empty →
      (m.after.request? id).bind (·.mail?) ≠ some (.reply frame)) : m.deliveries = [] := by
  apply List.eq_nil_iff_forall_not_mem.mpr
  intro d member
  obtain ⟨call, present, seq, empty, handed⟩ := (mem_deliveries tidy).mp member
  rw [mail?_call?] at handed
  exact quiet d.call call d.frame (request?_of_call? present (by simp [seq])) empty handed

theorem deliveries_of_same (tidy : m.before.Tidy) (requests : m.after.request? = m.before.request?) :
    m.deliveries = [] := by
  refine deliveries_eq_nil tidy fun id call frame present empty => ?_
  rw [requests, present, Option.bind_some, empty]
  simp

theorem deliveries_of_dropped (tidy : m.before.Tidy) {chosen : Nat → Bool}
    (requests : ∀ other, m.after.request? other = (m.before.request? other).map (·.handMail .dropped chosen)) :
    m.deliveries = [] := by
  refine deliveries_eq_nil tidy fun id call frame present empty => ?_
  rw [requests, present, Option.map_some, Option.bind_some, Call.mail?_handMail]
  split <;> simp [empty]

theorem deliveries_of_advance (tidy : m.before.Tidy) {id : Nat} {old : Call} {new : Option Call} {waiters : List Nat}
    {bus : Link.Bus} (present : m.before.call? id = some old)
    (advance : Advance m.before id m.action old new waiters bus)
    (calls : m.after.calls = m.before.calls.update id new) : m.deliveries = [] := by
  refine deliveries_eq_nil tidy fun other call frame known empty => ?_
  rw [request?_update present calls]
  split
  · rename_i same
    subst same
    rw [request?, present] at known
    obtain rfl : old = call := Option.some.inj (Option.filter_eq_some_iff.mp known).1
    generalize m.action = action at advance
    cases advance <;> simp_all [Call.mail?, Option.filter, Call.seq?]
  · rw [known, Option.bind_some, empty]
    simp

end NoDeliveries

theorem deliveries_of_reply {m : Moment} (tidy : m.before.Tidy) (queued : m.before.Queued) {frame : Frame} {n id : Nat}
    {call : Call} (present : m.before.request? id = some call) (seq : call.seq? = some n)
    (empty : call.mail? = some .empty)
    (requests : ∀ other, m.after.request? other = (m.before.request? other).map (·.handMail (.reply frame) (· = n))) :
    m.deliveries = [⟨id, n, frame⟩] := by
  have mail (other : Nat) : (m.after.call? other).bind (·.mail?) =
      (m.before.request? other).bind fun call =>
        if call.mail? = some .empty ∧ call.seq? = some n then some (.reply frame) else call.mail? := by
    rw [mail?_call?, requests]
    cases m.before.request? other with
    | none => rfl
    | some call => cases seq : call.seq? <;> simp [Call.mail?_handMail, seq]
  have own : m.handed? id call = some ⟨id, n, frame⟩ := by
    rw [handed?_eq_some, mail, present, Option.bind_some, if_pos ⟨empty, seq⟩]
    exact ⟨rfl, seq, empty, rfl⟩
  have others {entry : Nat × Call} (member : entry ∈ m.before.calls) (other : entry.1 ≠ id) :
      m.handed? entry.1 entry.2 = none := by
    by_contra handed
    obtain ⟨d, handed⟩ := Option.ne_none_iff_exists'.mp handed
    obtain ⟨-, seq', empty', handed⟩ := handed?_eq_some.mp handed
    have known := (Calls.mem_iff_lookup tidy.ids_nodup).mp member
    have known := request?_of_call? known (by simp [seq'])
    rw [mail, known, Option.bind_some] at handed
    split at handed
    · rename_i hit
      exact other (queued.seq_unique _ _ _ _ n known present hit.2 seq)
    · rw [empty'] at handed
      cases handed
  obtain ⟨left, right, whole, -⟩ := List.lookup_eq_some_iff.mp (Option.filter_eq_some_iff.mp present).1
  have nodup := tidy.ids_nodup
  rw [whole, List.map_append, List.map_cons, List.nodup_append, List.nodup_cons] at nodup
  rw [Moment.deliveries, whole, List.filterMap_append, List.filterMap_cons, own,
    List.filterMap_eq_nil_iff.mpr, List.filterMap_eq_nil_iff.mpr, List.nil_append]
  · intro entry member
    refine others (by simp [whole, member]) ?_
    intro same
    exact nodup.2.1.1 (List.mem_map.mpr ⟨entry, member, same⟩)
  · intro entry member
    refine others (by simp [whole, member]) ?_
    rintro rfl
    exact nodup.2.2 _ (List.mem_map_of_mem member) _ List.mem_cons_self rfl

theorem Advance.frameChange {s s' : Session} {action : Action} {id : Nat} {old : Call} {new : Option Call}
    {waiters : List Nat} {bus : Link.Bus} (advance : Advance s id action old new waiters bus) (tidy : s.Tidy)
    (present : s.call? id = some old) (calls : s'.calls = s.calls.update id new)
    (waiting : s'.waiters = waiters) (inbound : s'.inbound = s.inbound) (unsolicited : s'.unsolicited = s.unsolicited) :
    FrameChange ⟨s, action, s'⟩ := by
  have deliveries : Moment.deliveries ⟨s, action, s'⟩ = [] := deliveries_of_advance tidy present advance calls
  have quiet (arrival : Moment.arrival? ⟨s, action, s'⟩ = none)
      (registration : Moment.registration? ⟨s, action, s'⟩ = none) (kept : waiters.Sublist s.waiters) :
      FrameChange ⟨s, action, s'⟩ :=
    .quiet arrival registration deliveries inbound unsolicited (waiting.symm ▸ kept)
  have now : s'.call? id = new := by
    rw [call?, calls, Calls.lookup_update, if_pos rfl, show s.calls.lookup id = some old from present]
    rfl
  cases advance with
  | registers turn isOpen =>
    refine .registers rfl ?_ deliveries inbound unsolicited (request?_of_call? present rfl) rfl rfl ?_ waiting
    · simp [Moment.registration?, present, now, Call.mail?]
    · rw [now]
      rfl
  | refuses turn isClosed => exact quiet rfl (by simp [Moment.registration?, present, now, Call.mail?]) (by simp)
  | fails => exact quiet rfl (by simp [Moment.registration?, present]) List.filter_sublist
  | replies sent => exact quiet rfl (by simp [Moment.registration?, present]) (List.Sublist.refl _)
  | closes sent => exact quiet rfl (by simp [Moment.registration?, present]) (List.Sublist.refl _)
  | awaits positive => exact quiet rfl (by simp [Moment.registration?, present]) (List.Sublist.refl _)
  | expiresAtOnce => exact quiet rfl (by simp [Moment.registration?, present]) List.filter_sublist
  | endsAlone => exact quiet rfl (by simp [Moment.registration?, present]) (List.Sublist.refl _)
  | expires late => exact quiet rfl rfl List.filter_sublist
  | _ => exact quiet rfl rfl (List.Sublist.refl _)

theorem Move.frameChange {s s' : Session} {action : Action} (move : Move s action s') (tidy : s.Tidy)
    (linked : s.Linked) (queued : s.Queued) : FrameChange ⟨s, action, s'⟩ := by
  have same {action : Action} {s' : Session} (arrival : Moment.arrival? ⟨s, action, s'⟩ = none)
      (registration : Moment.registration? ⟨s, action, s'⟩ = none) (requests : s'.request? = s.request?)
      (inbound : s'.inbound = s.inbound) (unsolicited : s'.unsolicited = s.unsolicited)
      (waiters : s'.waiters = s.waiters) : FrameChange ⟨s, action, s'⟩ :=
    .quiet arrival registration (deliveries_of_same tidy requests) inbound unsolicited (by rw [waiters])
  cases move with
  | refusesSend isClosed => exact same rfl rfl (request?_add_other tidy rfl rfl) rfl rfl rfl
  | refusesRequest isClosed => exact same rfl rfl (request?_add_other tidy rfl rfl) rfl rfl rfl
  | sends active isOpen => exact same rfl rfl (request?_add_other tidy rfl rfl) rfl rfl rfl
  | requests active isOpen =>
    refine .quiet rfl rfl (deliveries_eq_nil tidy fun id call frame known empty => ?_) rfl rfl (List.Sublist.refl _)
    have other : id ≠ s.nextCall := by
      rintro rfl
      simp [request?, tidy.call?_nextCall] at known
    rw [request?_add tidy rfl, if_neg other, known, Option.bind_some, empty]
    simp
  | connects => exact same rfl rfl (request?_add_other tidy rfl rfl) rfl rfl rfl
  | disconnects => exact same rfl rfl (request?_add_other tidy rfl rfl) rfl rfl rfl
  | advances present advance => exact advance.frameChange tidy present rfl rfl rfl rfl
  | takes present turn stage =>
    rcases stage with ⟨transport, rfl, rfl⟩ | ⟨rfl, rfl⟩
    · exact same rfl (by simp [Moment.registration?, present]) (request?_replace present rfl rfl rfl) rfl rfl rfl
    · exact same rfl (by simp [Moment.registration?, present]) (request?_replace present rfl rfl rfl) rfl rfl rfl
  | reopens present =>
    exact .quiet rfl (by simp [Moment.registration?, present])
      (deliveries_of_dropped tidy (request?_handMail_replace present rfl rfl rfl)) rfl rfl (List.nil_sublist _)
  | disconnected present =>
    exact .quiet rfl (by simp [Moment.registration?, present])
      (deliveries_of_dropped tidy (request?_handMail_replace present rfl rfl rfl)) rfl rfl (List.nil_sublist _)
  | opens present => exact same rfl rfl (request?_replace present rfl rfl rfl) rfl rfl rfl
  | opensNot present =>
    exact same rfl (by simp [Moment.registration?, present]) (request?_replace present rfl rfl rfl) rfl rfl rfl
  | attachesNot present =>
    exact same rfl (by simp [Moment.registration?, present]) (request?_replace present rfl rfl rfl) rfl rfl rfl
  | installs present found attached =>
    exact same rfl (by simp [Moment.registration?, present]) (request?_replace present rfl rfl rfl) rfl rfl rfl
  | discards present =>
    exact same rfl (by simp [Moment.registration?, present]) (request?_replace present rfl rfl rfl) rfl rfl rfl
  | reads found turned => exact same rfl rfl rfl rfl rfl rfl
  | @delivers generation receiver t reader frame reader' n later known stage found taps takes first =>
    obtain ⟨dead, whole, live, -, abandoned⟩ := queued.split first
    obtain ⟨id, call, present, seq, empty⟩ := (isLive_iff tidy n).mp live
    have arrival (s' : Session) : Moment.arrival? ⟨s, .receive generation, s'⟩ = some (generation, frame) :=
      arrival?_eq_some.mpr ⟨rfl, receiver, t, reader, reader', known, stage, found, taps, takes⟩
    exact .delivers (arrival _) rfl (deliveries_of_reply tidy queued present seq empty (request?_handMail rfl)) rfl rfl
      whole abandoned live rfl
  | @publishes generation receiver t reader frame reader' known stage found taps takes nobody =>
    have arrival (s' : Session) : Moment.arrival? ⟨s, .receive generation, s'⟩ = some (generation, frame) :=
      arrival?_eq_some.mpr ⟨rfl, receiver, t, reader, reader', known, stage, found, taps, takes⟩
    refine .publishes (arrival _) rfl (deliveries_of_same tidy rfl) rfl rfl (fun n member => ?_) rfl
    simpa using List.dropWhile_eq_nil_iff.mp nobody n member
  | @loses generation receiver t reader known stage found taps ended current =>
    refine .quiet ?_ rfl (deliveries_of_dropped tidy (request?_handMail rfl)) rfl rfl (List.nil_sublist _)
    have empty : reader.channel = [] := by
      simp only [Transport.Reader.isEnded, Bool.and_eq_true, List.isEmpty_iff] at ended
      exact ended.2
    simp [Moment.arrival?, known, stage, found, taps, Transport.Reader.receive, empty]
  | noticesLate known stage found taps ended past =>
    exact absurd (linked.current_of_listening known stage) (by simp [past])
  | releases known stage =>
    exact same (by simp [Moment.arrival?, known, stage]) rfl rfl rfl rfl rfl
  | ticks => exact same rfl rfl rfl rfl rfl rfl
  | happens => exact same rfl rfl rfl rfl rfl rfl
  | withholds => exact same rfl rfl rfl rfl rfl rfl

theorem Move.registration?_eq {s s' : Session} {action : Action} (move : Move s action s') (tidy : s.Tidy)
    (linked : s.Linked) {id n : Nat} {call call' : Call} (present : s.request? id = some call)
    (seq : call.seq? = some n) (unregistered : call.mail? = none) (present' : s'.request? id = some call')
    (registered : call'.mail? ≠ none) : Moment.registration? ⟨s, action, s'⟩ = some (id, n) := by
  cases move.requestChange tidy linked with
  | same requests =>
    rw [requests, present] at present'
    cases present'
    exact absurd unregistered registered
  | replied requests =>
    rw [requests, present] at present'
    cases present'
    simp [Call.mail?_handMail, unregistered] at registered
  | dropped requests =>
    rw [requests, present] at present'
    cases present'
    simp [Call.mail?_handMail, unregistered] at registered
  | added begun active calls =>
    rw [request?_add tidy calls, if_neg, present] at present'
    · cases present'
      exact absurd unregistered registered
    · rintro rfl
      simp [request?, tidy.call?_nextCall] at present
  | @advanced id' old new waiters bus known advance calls =>
    rw [request?_update known calls] at present'
    split at present'
    · rename_i same
      subst same
      have now : s'.call? id = new := by
        rw [call?, calls, Calls.lookup_update, if_pos rfl, show s.calls.lookup id = some old from known]
        rfl
      rw [request?, known] at present
      obtain rfl : old = call := Option.some.inj (Option.filter_eq_some_iff.mp present).1
      cases advance with
      | registers turn isOpen =>
        cases seq
        simp [Moment.registration?, known, now, Call.mail?]
      | writes write => cases unregistered
      | awaits positive => cases unregistered
      | _ => cases present'
    · rw [present] at present'
      cases present'
      exact absurd unregistered registered

def arrivals (past : List Moment) : List Frame := past.filterMap fun m => m.arrival?.map (·.2)

def deliveries (past : List Moment) : List Delivery := past.flatMap (·.deliveries)

def registrations (past : List Moment) : List (Nat × Nat) := past.filterMap (·.registration?)

section Append

variable (past : List Moment) (m : Moment)

@[simp] theorem arrivals_append : arrivals (past ++ [m]) = arrivals past ++ (m.arrival?.map (·.2)).toList := by
  cases arrival : m.arrival? <;> simp [arrivals, arrival]

@[simp] theorem deliveries_append : deliveries (past ++ [m]) = deliveries past ++ m.deliveries := by
  simp [deliveries]

@[simp] theorem registrations_append :
    registrations (past ++ [m]) = registrations past ++ m.registration?.toList := by
  cases registration : m.registration? <;> simp [registrations, registration]

end Append

/-- What a whole run has done with frames and waiters. -/
structure Conserved (s : Session) (past : List Moment) : Prop where
  inbound : s.inbound = arrivals past
  merge : Merge s.unsolicited ((deliveries past).map (·.frame)) s.inbound
  order : ((deliveries past).map fun d => (d.call, d.seq)).Sublist (registrations past)
  registered_once : ((registrations past).map (·.1)).Nodup
  delivered_once : ((deliveries past).map (·.call)).Nodup
  replies : ∀ id reply, s.call? id = some (.ended (.reply reply)) →
    ∃ d ∈ deliveries past, d.call = id ∧ d.frame = reply

structure Ledger (s : Session) (past : List Moment) : Prop where
  places : ∃ places : List (Nat × Nat), places.map (·.2) = s.waiters ∧
    (((deliveries past).map fun d => (d.call, d.seq)) ++ places).Sublist (registrations past)
  calls_nodup : ((registrations past).map (·.1)).Nodup
  seqs_nodup : ((registrations past).map (·.2)).Nodup
  bounds : ∀ id n, (id, n) ∈ registrations past → id < s.nextCall ∧ n < s.nextSeq
  known : ∀ id call n, s.request? id = some call → call.seq? = some n → call.mail? ≠ none →
    (id, n) ∈ registrations past
  unknown : ∀ id call n, s.request? id = some call → call.seq? = some n → call.mail? = none →
    id ∉ (registrations past).map (·.1) ∧ n ∉ (registrations past).map (·.2)
  mails : ∀ id call reply, s.request? id = some call → call.mail? = some (.reply reply) →
    ∃ d ∈ deliveries past, d.call = id ∧ d.frame = reply
  inbound : s.inbound = arrivals past
  merge : Merge s.unsolicited ((deliveries past).map (·.frame)) s.inbound
  replies : ∀ id reply, s.call? id = some (.ended (.reply reply)) →
    ∃ d ∈ deliveries past, d.call = id ∧ d.frame = reply

theorem Ledger.fresh (config : Config) (bus : Link.Bus) : (fresh config bus).Ledger [] := by
  constructor
  all_goals simp [Session.fresh, registrations, deliveries, arrivals, request?, call?, Merge.nil]

section Ledger

variable {m : Moment} {past : List Moment} (ledger : m.before.Ledger past) (sound : m.before.Sound)
  (stepped : m.before.step m.action = some m.after)
include ledger sound

theorem Ledger.registers (change : FrameChange m) {id n : Nat} (taken : m.registration? = some (id, n)) :
    id ∉ (registrations past).map (·.1) ∧ n ∉ (registrations past).map (·.2) ∧ id < m.before.nextCall ∧
      n < m.before.nextSeq ∧ (∃ call, m.before.request? id = some call ∧ call.seq? = some n) ∧
      (m.after.call? id).bind (·.mail?) = some .empty := by
  cases change with
  | registers arrival registration deliveries inbound unsolicited present number unregistered registered waiters =>
    rw [taken] at registration
    cases registration
    have unknown := ledger.unknown id _ n present number unregistered
    exact ⟨unknown.1, unknown.2, sound.tidy.lt_nextCall (Option.filter_eq_some_iff.mp present).1,
      sound.queued.seq_lt id _ n present number, ⟨_, present, number⟩, registered⟩
  | quiet arrival registration => simp [taken] at registration
  | delivers arrival registration => simp [taken] at registration
  | publishes arrival registration => simp [taken] at registration

theorem Ledger.places_step (change : FrameChange m) : ∃ places : List (Nat × Nat), places.map (·.2) = m.after.waiters ∧
    (((deliveries (past ++ [m])).map fun d => (d.call, d.seq)) ++ places).Sublist (registrations (past ++ [m])) := by
  obtain ⟨places, numbers, order⟩ := ledger.places
  rw [deliveries_append, registrations_append]
  cases change with
  | quiet arrival registration none inbound unsolicited waiters =>
    rw [← numbers] at waiters
    obtain ⟨places', fewer, same⟩ := List.sublist_map_iff.mp waiters
    refine ⟨places', same.symm, ?_⟩
    rw [none, registration]
    simpa using (List.Sublist.append_left fewer _).trans order
  | @registers id n call arrival registration none inbound unsolicited present number unregistered registered waiters =>
    refine ⟨places ++ [(id, n)], by simp [numbers, waiters], ?_⟩
    rw [none, registration]
    simpa using order.append (List.Sublist.refl [(id, n)])
  | @delivers generation frame id n dead later arrival registration one inbound unsolicited queue abandoned live
      waiters =>
    rw [queue, List.map_eq_append_iff] at numbers
    obtain ⟨front, rest, rfl, -, numbers⟩ := numbers
    obtain ⟨⟨id', n'⟩, back, rfl, rfl, rfl⟩ := List.map_eq_cons_iff.mp numbers
    have place : (id', n') ∈ registrations past := order.subset (by simp)
    obtain ⟨call, present, seq, empty, -⟩ := (mem_deliveries (d := ⟨id, n', frame⟩) sound.tidy).mp (by simp [one])
    have known := ledger.known id call n' (request?_of_call? present (by simp [seq])) seq (by simp [empty])
    obtain rfl : id' = id := congrArg Prod.fst (List.inj_on_of_nodup_map ledger.seqs_nodup place known rfl)
    refine ⟨back, waiters.symm, ?_⟩
    rw [one, registration]
    have fewer := (List.sublist_append_right front ((id', n') :: back)).append_left
      ((deliveries past).map fun d => (d.call, d.seq))
    simpa using fewer.trans order
  | publishes arrival registration none inbound unsolicited abandoned waiters =>
    refine ⟨[], by simp [waiters], ?_⟩
    rw [none, registration]
    simpa using (List.sublist_append_left _ places).trans order

theorem Ledger.unknown_step (change : FrameChange m) (request : RequestChange m.before m.action m.after) {id n : Nat}
    {call' : Call} (present' : m.after.request? id = some call') (seq : call'.seq? = some n)
    (unregistered : call'.mail? = none) :
    id ∉ (registrations (past ++ [m])).map (·.1) ∧ n ∉ (registrations (past ++ [m])).map (·.2) := by
  have fresh {id n : Nat} (taken : m.registration? = some (id, n)) := ledger.registers sound change taken
  have other (id' n' : Nat) (taken : m.registration? = some (id', n')) : id ≠ id' := by
    rintro rfl
    have registered := (fresh taken).2.2.2.2.2
    rw [mail?_call?, present', Option.bind_some, unregistered] at registered
    cases registered
  have apart : id ∉ (registrations past).map (·.1) ∧ n ∉ (registrations past).map (·.2) ∧
      ∀ id' n', m.registration? = some (id', n') → n ≠ n' := by
    rcases request.before sound.tidy present' with begun | ⟨call, present, next⟩
    · obtain rfl := begun.id
      obtain rfl : n = m.before.nextSeq := Option.some.inj (seq.symm.trans begun.seq)
      refine ⟨?_, ?_, fun id' n' taken => (fresh taken).2.2.2.1.ne'⟩
      · intro member
        obtain ⟨⟨_, n⟩, member, rfl⟩ := List.mem_map.mp member
        exact absurd (ledger.bounds _ n member).1 (Nat.lt_irrefl _)
      · intro member
        obtain ⟨⟨id, _⟩, member, rfl⟩ := List.mem_map.mp member
        exact absurd (ledger.bounds id _ member).2 (Nat.lt_irrefl _)
    · rw [next.seq] at seq
      have quiet : call.mail? = none := by
        rcases next.mail with same | ⟨-, empty⟩ | ⟨-, mail, handed⟩
        · rw [← same, unregistered]
        · simp [unregistered] at empty
        · simp [unregistered] at handed
      have unknown := ledger.unknown id call n present seq quiet
      refine ⟨unknown.1, unknown.2, ?_⟩
      rintro id' n' taken rfl
      obtain ⟨call', present', seq'⟩ := (fresh taken).2.2.2.2.1
      exact other id' n taken (sound.queued.seq_unique id call id' call' n present present' seq seq')
  rw [registrations_append, List.map_append, List.map_append, List.mem_append, List.mem_append]
  cases taken : m.registration? with
  | none => simpa using And.intro apart.1 apart.2.1
  | some place =>
    have := other place.1 place.2 taken
    have := apart.2.2 place.1 place.2 taken
    simp_all

include stepped

theorem Ledger.step : m.after.Ledger (past ++ [m]) := by
  have move := step_move sound.tidy stepped
  have change : FrameChange m := move.frameChange sound.tidy sound.linked sound.queued
  have request := move.requestChange sound.tidy sound.linked
  have fresh {id n : Nat} (taken : m.registration? = some (id, n)) := ledger.registers sound change taken
  constructor
  case places => exact ledger.places_step sound change
  case calls_nodup =>
    rw [registrations_append, List.map_append]
    cases taken : m.registration? with
    | none => simpa using ledger.calls_nodup
    | some place => simpa using ledger.calls_nodup.concat (fresh taken).1
  case seqs_nodup =>
    rw [registrations_append, List.map_append]
    cases taken : m.registration? with
    | none => simpa using ledger.seqs_nodup
    | some place => simpa using ledger.seqs_nodup.concat (fresh taken).2.1
  case bounds =>
    intro id n member
    have grows := move.next_le
    rw [registrations_append, List.mem_append, Option.mem_toList] at member
    have below : id < m.before.nextCall ∧ n < m.before.nextSeq := by
      rcases member with old | taken
      · exact ledger.bounds id n old
      · exact ⟨(fresh taken).2.2.1, (fresh taken).2.2.2.1⟩
    omega
  case known =>
    intro id call' n present' seq registered
    rw [registrations_append, List.mem_append]
    rcases request.before sound.tidy present' with begun | ⟨call, present, next⟩
    · exact absurd begun.mail registered
    · rw [next.seq] at seq
      by_cases old : call.mail? = none
      · have taken : m.registration? = _ :=
          move.registration?_eq sound.tidy sound.linked present seq old present' registered
        exact .inr (by simp [taken])
      · exact .inl (ledger.known id call n present seq old)
  case unknown =>
    intro id call' n present' seq unregistered
    exact ledger.unknown_step sound change request present' seq unregistered
  case mails =>
    intro id call' reply present' handed
    rw [deliveries_append]
    rcases request.before sound.tidy present' with begun | ⟨call, present, next⟩
    · exact absurd (handed.symm.trans begun.mail) (by simp)
    · rcases next.mail with same | ⟨-, empty⟩ | ⟨empty, -⟩
      · obtain ⟨d, member, rest⟩ := ledger.mails id call reply present (same ▸ handed)
        exact ⟨d, List.mem_append_left _ member, rest⟩
      · simp [handed] at empty
      · obtain ⟨known, sends⟩ := Option.filter_eq_some_iff.mp present
        obtain ⟨n, seq⟩ := Option.isSome_iff_exists.mp sends
        refine ⟨⟨id, n, reply⟩, List.mem_append_right _ ?_, rfl, rfl⟩
        refine (mem_deliveries sound.tidy).mpr ⟨call, known, seq, empty, ?_⟩
        rw [mail?_call?, present', Option.bind_some, handed]
  case inbound =>
    rw [arrivals_append, ← ledger.inbound]
    cases change <;> simp_all
  case merge =>
    rw [deliveries_append, List.map_append]
    have merge := ledger.merge
    cases change with
    | quiet arrival registration none inbound unsolicited waiters => simpa [none, inbound, unsolicited] using merge
    | registers arrival registration none inbound unsolicited => simpa [none, inbound, unsolicited] using merge
    | delivers arrival registration one inbound unsolicited queue abandoned live waiters =>
      simpa [one, inbound, unsolicited] using merge.right
    | publishes arrival registration none inbound unsolicited abandoned waiters =>
      simpa [none, inbound, unsolicited] using merge.left
  case replies =>
    intro id reply ended
    rw [deliveries_append]
    rcases (move.callChange sound.tidy id).ended_reply ended with old | ⟨call, present, handed⟩
    · obtain ⟨d, member, rest⟩ := ledger.replies id reply old
      exact ⟨d, List.mem_append_left _ member, rest⟩
    · obtain ⟨d, member, rest⟩ := ledger.mails id call reply present handed
      exact ⟨d, List.mem_append_left _ member, rest⟩

end Ledger

theorem Ledger.run {s s' : Session} {past : List Moment} {actions : List Action} (sound : s.Sound)
    (ledger : s.Ledger past) (run : s.run actions = some s') : s'.Ledger (past ++ s.moments actions) := by
  refine sound.run_induction (P := fun s later => s.Ledger (past ++ later)) (by simpa using ledger) ?_ run
  intro before action after later sound ledger stepped
  rw [← List.append_assoc]
  exact ledger.step (m := ⟨before, action, after⟩) sound stepped

theorem ledger_of_run {config : Config} {bus : Link.Bus} {actions : List Action} {s : Session}
    (run : (Session.fresh config bus).run actions = some s) : s.Ledger ((Session.fresh config bus).moments actions) :=
  (Ledger.fresh config bus).run (fresh_sound config bus) run

/-- Frames are neither lost nor doubled nor mixed up: at each moment of a run the frame that arrives, if
    one does, comes from the active link and goes to the first request that waits; over the whole run
    replies are handed out in the order of registration, one to a request. -/
theorem frames_conserved {config : Config} {bus : Link.Bus} {actions : List Action} {s : Session}
    (run : (fresh config bus).run actions = some s) :
    (∀ m ∈ (fresh config bus).moments actions, FrameChange m ∧ ∀ generation frame,
      m.arrival? = some (generation, frame) → m.before.active.any (·.generation = generation) = true) ∧
    s.Conserved ((fresh config bus).moments actions) := by
  have invariant : s.Sound ∧ ∀ m ∈ (fresh config bus).moments actions, FrameChange m ∧ ∀ generation frame,
      m.arrival? = some (generation, frame) → m.before.active.any (·.generation = generation) = true := by
    refine run_induction (P := fun s past => s.Sound ∧ ∀ m ∈ past, FrameChange m ∧ ∀ generation frame,
      m.arrival? = some (generation, frame) → m.before.active.any (·.generation = generation) = true) ?_ ?_ run
    · exact ⟨fresh_sound config bus, by simp⟩
    · rintro before action after past ⟨sound, each⟩ stepped
      refine ⟨sound.step stepped, ?_⟩
      intro m member
      rcases List.mem_append.mp member with old | new
      · exact each m old
      · obtain rfl := List.mem_singleton.mp new
        refine ⟨(step_move sound.tidy stepped).frameChange sound.tidy sound.linked sound.queued, ?_⟩
        intro generation frame arrival
        obtain ⟨-, receiver, t, reader, reader', known, stage, -⟩ := arrival?_eq_some.mp arrival
        exact sound.linked.current_of_listening known stage
  have ledger := ledger_of_run run
  refine ⟨invariant.2, ledger.inbound, ledger.merge, ?_, ledger.calls_nodup, ?_, ledger.replies⟩
  · obtain ⟨places, -, order⟩ := ledger.places
    exact (List.sublist_append_left _ places).trans order
  · obtain ⟨places, -, order⟩ := ledger.places
    have calls := ((List.sublist_append_left _ places).trans order).map Prod.fst
    rw [List.map_map] at calls
    exact ledger.calls_nodup.sublist calls

theorem frames_conserved_reply : ∃ bus actions s, (fresh {} bus).run actions = some s ∧
    (s.call? 1).bind (·.outcome?) = some (.reply [7]) ∧ s.unsolicited = [[8]] ∧
    (∀ m ∈ (fresh {} bus).moments actions, FrameChange m ∧ ∀ generation frame,
      m.arrival? = some (generation, frame) → m.before.active.any (·.generation = generation) = true) ∧
    s.Conserved ((fresh {} bus).moments actions) := by
  let bus : Link.Bus := { devices := [.ofInfo ⟨"adapter", .usb, none⟩ (.always [7]) []] }
  let actions : List Action :=
    [.begin (.connect .usb none), .resume 0, .resume 0, .work 0, .resume 0, .begin (.request [5] 10), .resume 1,
      .work 1, .resume 1, .happen (.push 0 [8]), .read 0 0, .read 0 0, .read 0 0, .receive 1, .resume 1, .read 0 0,
      .read 0 0, .read 0 0, .receive 1]
  have ends : ((fresh {} bus).run actions).any (fun s =>
      (s.call? 1).bind (·.outcome?) = some (.reply [7]) ∧ s.unsolicited = [[8]]) = true := by decide +kernel
  obtain ⟨s, run, ends⟩ := (Option.any_eq_true _ _).mp ends
  obtain ⟨replied, unsolicited⟩ := of_decide_eq_true ends
  exact ⟨bus, actions, s, run, replied, unsolicited, frames_conserved run⟩

end TagConsole.Session
