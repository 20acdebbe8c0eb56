import Mathlib.Data.List.Nodup
import TagConsole.Proofs.Session.Turns

/-!
How the links of a session hang together: whose turn it is to open, use and release which transport, and
which receiver listens to it.
-/

namespace TagConsole

def Transport.IsUnopened (t : Transport) : Prop := t.writer = none ∧ t.readers = []

def Transport.IsOpen (t : Transport) : Prop :=
  ∃ reader, t.readers = [reader] ∧ t.writer = some reader.device ∧ reader.isHeard = true ∧
    reader.isRunning = reader.isAlive

namespace Transport

theorem IsOpen.isConnected {t : Transport} (isOpen : t.IsOpen) {reader : Reader}
    (taps : t.readers[0]? = some reader) : t.isConnected = reader.isRunning := by
  obtain ⟨_, readers, writer, -, stops⟩ := isOpen
  rw [readers, List.getElem?_cons_zero, Option.some.injEq] at taps
  subst taps
  simp [Transport.isConnected, readers, writer, stops]

section Turn

variable {t : Transport} {index : Nat} {reader reader' : Reader} (taps : t.readers[index]? = some reader)
  (turn : reader.Turn reader')
include taps

theorem IsUnopened.set (unopened : t.IsUnopened) : IsUnopened { t with readers := t.readers.set index reader' } := by
  simp [unopened.2] at taps

include turn

theorem IsOpen.set (isOpen : t.IsOpen) : IsOpen { t with readers := t.readers.set index reader' } := by
  obtain ⟨single, readers, writer, heard, stops⟩ := isOpen
  obtain ⟨rfl, rfl⟩ : index = 0 ∧ single = reader := by
    rw [readers, List.getElem?_singleton] at taps
    simpa using taps
  exact ⟨reader', by simp [readers], by simp [writer, turn.device], by simp [turn.isHeard, heard],
    turn.stops heard stops⟩

theorem isConnected_set (connected : isConnected { t with readers := t.readers.set index reader' } = true) :
    t.isConnected = true := by
  simp only [Transport.isConnected, List.getLast?_eq_getElem?, List.length_set, List.getElem?_set,
    Bool.and_eq_true] at connected ⊢
  refine ⟨?_, connected.2⟩
  have alive := connected.1
  split at alive
  · rename_i last
    rw [← last, taps, Option.any_some]
    split at alive
    · exact turn.isAlive (by simpa using alive)
    · cases alive
  · exact alive

end Turn

end Transport

namespace Session

namespace Call

def opening? : Call → Option Nat
  | connect transport _ => some transport
  | _ => none

def unopened? : Call → Option Nat
  | connect _ (.discarding _) => none
  | connect transport _ => some transport
  | _ => none

@[grind →]
theorem opening?_of_unopened? {call : Call} {transport : Nat} (h : call.unopened? = some transport) :
    call.opening? = some transport := by
  unfold unopened? at h
  split at h <;> simp_all [opening?]

def releasing? : Call → Option Nat
  | connect _ (.releasing previous) | disconnect (.releasing previous) => previous
  | connect transport (.discarding _) => some transport
  | _ => none

end Call

theorem Call.isUnderway_of_releasing? {call : Call} {transport : Nat} (h : call.releasing? = some transport) :
    call.isUnderway = true := by
  unfold releasing? at h
  split at h
  · rfl
  · rfl
  · rfl
  · cases h

def attempt? (s : Session) (id : Nat) : Option Call := (s.call? id).filter (·.isLifecycle)

/-- A transport whose link is the active one, or is about to be released by a call. -/
def InUse (s : Session) (transport : Nat) : Prop :=
  (∃ generation, s.active = some ⟨transport, generation⟩) ∨
    ∃ id call, s.attempt? id = some call ∧ call.releasing? = some transport

/-- How links, transports, receivers and calls stand to one another between any two steps. -/
structure Linked (s : Session) : Prop where
  opening_lt : ∀ id call i, s.attempt? id = some call → call.opening? = some i → i < s.transports.length
  opening_unrouted : ∀ id call i, s.attempt? id = some call → call.opening? = some i →
    i ∉ s.receivers.map (·.transport)
  opening_unique : ∀ id call id' call' i, s.attempt? id = some call → s.attempt? id' = some call' →
    call.opening? = some i → call'.opening? = some i → id = id'
  unopened : ∀ id call i t, s.attempt? id = some call → call.unopened? = some i →
    s.transports[i]? = some t → t.IsUnopened
  underway_idle : ∀ id call, s.attempt? id = some call → call.isUnderway = true → s.active = none
  generations_nodup : (s.receivers.map (·.generation)).Nodup
  generation_le : ∀ r ∈ s.receivers, r.generation ≤ s.generation
  routes_nodup : (s.receivers.map (·.transport)).Nodup
  route_lt : ∀ r ∈ s.receivers, r.transport < s.transports.length
  listening_active : ∀ r ∈ s.receivers, r.stage = .listening → s.active = some ⟨r.transport, r.generation⟩
  active_receiver : ∀ link, s.active = some link →
    { generation := link.generation, transport := link.transport, reader := 0 } ∈ s.receivers
  active_open : ∀ link, s.active = some link → ∃ t, s.transports[link.transport]? = some t ∧ t.IsOpen
  held : ∀ i t, s.transports[i]? = some t → t.writer.isSome = true →
    s.InUse i ∨ ∃ r ∈ s.receivers, r.transport = i ∧ r.stage = .releasing
  lost_dead : ∀ r ∈ s.receivers, r.stage = .releasing →
    ∀ t, s.transports[r.transport]? = some t → t.isConnected = false
  idle_status : (∀ id call, s.attempt? id = some call → call.isUnderway = false) →
    (s.status = .connected ↔ s.active.isSome = true) ∧ s.status ≠ .connecting

theorem call?_of_attempt? {s : Session} {id : Nat} {call : Call} (present : s.attempt? id = some call) :
    s.call? id = some call := (Option.filter_eq_some_iff.mp present).1

theorem attempt?_of_call? {s : Session} {id : Nat} {call : Call} (present : s.call? id = some call)
    (connects : call.isLifecycle = true) : s.attempt? id = some call := by
  simp [attempt?, present, connects]

theorem Tidy.lifecycle_first {s : Session} {id : Nat} {call : Call} (tidy : s.Tidy)
    (present : s.attempt? id = some call) (underway : call.isUnderway = true) : s.lifecycle.head? = some id := by
  apply tidy.lifecycle.first id
  rw [show s.calls.lookup id = some call from call?_of_attempt? present]
  exact underway

theorem Tidy.underway_alone {s : Session} {id id' : Nat} {call call' : Call} (tidy : s.Tidy)
    (present : s.attempt? id = some call) (underway : call.isUnderway = true)
    (present' : s.attempt? id' = some call') (underway' : call'.isUnderway = true) : id = id' := by
  have first := tidy.lifecycle_first present underway
  rw [tidy.lifecycle_first present' underway'] at first
  exact (Option.some.inj first).symm

theorem Linked.inUse_eq {s : Session} {link : ActiveLink} {transport : Nat} (linked : s.Linked)
    (active : s.active = some link) (used : s.InUse transport) : transport = link.transport := by
  rcases used with ⟨generation, active'⟩ | ⟨id, call, present, releases⟩
  · rw [active, Option.some.injEq] at active'
    rw [active']
  · have idle := linked.underway_idle id call present (Call.isUnderway_of_releasing? releases)
    rw [active] at idle
    cases idle

section Attempt

variable {s s' : Session} {id : Nat} {old : Call}

theorem attempt?_update {new : Option Call} (present : s.call? id = some old)
    (single : old.isLifecycle = false ∧ new.any (·.isLifecycle) = false)
    (calls : s'.calls = s.calls.update id new) : s'.attempt? = s.attempt? := by
  funext other
  simp only [attempt?, call?, calls, Calls.lookup_update]
  by_cases same : other = id
  · subst same
    rw [show s.calls.lookup other = some old from present]
    cases new with
    | none => simp [Option.filter, single.1]
    | some call =>
      have new : call.isLifecycle = false := by simpa using single.2
      simp [Option.filter, single.1, new]
  · rw [if_neg same]

theorem attempt?_handMail {mail : Mail} {chosen : Nat → Bool}
    (calls : s'.calls = s.calls.handMail mail chosen) : s'.attempt? = s.attempt? := by
  funext other
  simp only [attempt?, call?, calls, Calls.lookup_handMail]
  cases s.calls.lookup other with
  | none => rfl
  | some call =>
    rcases call.handMail_cases mail chosen with same | ⟨_, _, _, _, _, rfl, _, handed⟩
    · rw [Option.map_some, same]
    · rw [Option.map_some, handed]
      rfl

theorem attempt?_replace {new : Call} (present : s.call? id = some old)
    (calls : s'.calls = s.calls.replace id new) (other : Nat) :
    s'.attempt? other = if other = id then (some new).filter (·.isLifecycle) else s.attempt? other := by
  simp only [attempt?, call?, calls, Calls.lookup_replace]
  by_cases same : other = id
  · subst same
    rw [show s.calls.lookup other = some old from present]
    simp
  · simp [same]

theorem attempt?_add {call : Call} (tidy : s.Tidy) (calls : s'.calls = s.calls ++ [(s.nextCall, call)])
    (other : Nat) : s'.attempt? other =
      if other = s.nextCall then (some call).filter (·.isLifecycle) else s.attempt? other := by
  simp only [attempt?, call?, calls, Calls.lookup_add]
  by_cases same : other = s.nextCall
  · subst same
    rw [show s.calls.lookup s.nextCall = none from tidy.call?_nextCall]
    simp
  · simp [same]

theorem attempt?_goesOn {new : Call} (present : s.call? id = some old) (connects : new.isLifecycle = true)
    (calls : s'.calls = s.calls.replace id new) (other : Nat) :
    s'.attempt? other = if other = id then some new else s.attempt? other := by
  rw [attempt?_replace present calls, Option.filter_some_pos connects]

theorem attempt?_ends {new : Call} (present : s.call? id = some old) (ended : new.isLifecycle = false)
    (calls : s'.calls = s.calls.replace id new) (other : Nat) :
    s'.attempt? other = if other = id then none else s.attempt? other := by
  rw [attempt?_replace present calls, Option.filter_some_neg (by simp [ended])]

theorem attempt?_add_sending {call : Call} (tidy : s.Tidy) (single : call.isLifecycle = false)
    (calls : s'.calls = s.calls ++ [(s.nextCall, call)]) : s'.attempt? = s.attempt? := by
  funext other
  rw [attempt?_add tidy calls]
  split
  · rename_i same
    rw [same, attempt?, tidy.call?_nextCall]
    simp [Option.filter, single]
  · rfl

theorem call?_handMail {mail : Mail} {chosen : Nat → Bool} (present : s.call? id = some old) :
    call? { s with calls := s.calls.handMail mail chosen } id = some (old.handMail mail chosen) := by
  rw [call?, Calls.lookup_handMail, show s.calls.lookup id = some old from present]
  rfl

theorem attempt?_handMail_replace {new : Call} {mail : Mail} {chosen : Nat → Bool} (present : s.call? id = some old)
    (calls : s'.calls = (s.calls.handMail mail chosen).replace id new) (other : Nat) :
    s'.attempt? other = if other = id then (some new).filter (·.isLifecycle) else s.attempt? other := by
  rw [attempt?_replace (call?_handMail present) calls, attempt?_handMail (s := s) rfl]

end Attempt

section InUse

variable {s s' : Session} {id i : Nat} {old : Call}

theorem inUse_congr (attempts : s'.attempt? = s.attempt?) (active : s'.active = s.active) (i : Nat) :
    s'.InUse i ↔ s.InUse i := by
  simp only [InUse, attempts, active]

theorem InUse.added {call : Call} (used : s.InUse i) (tidy : s.Tidy)
    (calls : s'.calls = s.calls ++ [(s.nextCall, call)]) (active : s'.active = s.active) : s'.InUse i := by
  rcases used with ⟨generation, used⟩ | ⟨other, call, used, releases⟩
  · exact .inl ⟨generation, active.trans used⟩
  · refine .inr ⟨other, call, ?_, releases⟩
    rw [attempt?_add tidy calls, if_neg, used]
    rintro rfl
    simp [attempt?, tidy.call?_nextCall] at used

theorem InUse.replaced {new : Option Call} (used : s.InUse i) (present : s.attempt? id = some old)
    (attempts : ∀ other, s'.attempt? other = if other = id then new else s.attempt? other)
    (active : ∀ link, s.active = some link → s'.active = some link) :
    s'.InUse i ∨ old.releasing? = some i := by
  rcases used with ⟨generation, used⟩ | ⟨other, call, used, releases⟩
  · exact .inl (.inl ⟨generation, active _ used⟩)
  · by_cases same : other = id
    · subst same
      rw [present] at used
      cases used
      exact .inr releases
    · exact .inl (.inr ⟨other, call, by rw [attempts, if_neg same, used], releases⟩)

theorem InUse.taken {new : Call} (used : s.InUse i) (present : s.attempt? id = some old)
    (attempts : ∀ other, s'.attempt? other = if other = id then some new else s.attempt? other)
    (idle : old.releasing? = none) (releases : new.releasing? = s.active.map (·.transport)) : s'.InUse i := by
  rcases used with ⟨generation, used⟩ | ⟨other, call, used, frees⟩
  · exact .inr ⟨id, new, by rw [attempts, if_pos rfl], by rw [releases, used]; rfl⟩
  · refine .inr ⟨other, call, ?_, frees⟩
    rw [attempts, if_neg, used]
    rintro rfl
    rw [present, Option.some.injEq] at used
    subst used
    simp [idle] at frees

end InUse

section Parts

variable {s s' : Session}

theorem status_congr (published : s'.published = s.published) : s'.status = s.status := by
  simp only [status, published]

theorem status_publish {status : Status} (published : s'.published = s.published ++ [status]) :
    s'.status = status := by
  simp [Session.status, published]

theorem receiver?_some {generation : Nat} {receiver : Receiver}
    (known : s.receiver? generation = some receiver) :
    receiver ∈ s.receivers ∧ receiver.generation = generation :=
  ⟨List.mem_of_find?_eq_some known, by simpa using List.find?_some known⟩

theorem takeActive_receivers (s : Session) : s.takeActive.2.receivers = s.receivers.map fun r =>
    if s.active.any (·.generation = r.generation) then { r with stage := .over } else r := by
  unfold takeActive
  split
  · rename_i idle
    simp [idle]
  · rename_i link active
    simp only [active, Option.any_some, decide_eq_true_eq, abort]
    split
    · rename_i absent
      simp only [receiver?, List.find?_eq_none, decide_eq_true_eq] at absent
      have unchanged : ∀ r ∈ s.receivers,
          (if link.generation = r.generation then { r with stage := .over } else r) = r :=
        fun r member => if_neg fun same => absent r member same.symm
      rw [List.map_congr_left unchanged, List.map_id']
    · simp only [updateTransport, updateReceiver, eq_comm]

theorem map_stage {α : Type} (field : Receiver → α) (receivers : List Receiver) (stage : Receiver.Stage)
    (chosen : Receiver → Bool) (fixed : ∀ r : Receiver, field { r with stage := stage } = field r) :
    (receivers.map fun r => if chosen r then { r with stage := stage } else r).map field = receivers.map field := by
  rw [List.map_map]
  apply List.map_congr_left
  intro r _
  simp only [Function.comp_apply]
  split
  · exact fixed r
  · rfl

theorem updateReceiver_receivers (s : Session) (generation : Nat) (stage : Receiver.Stage) :
    (s.updateReceiver generation stage).receivers = s.receivers.map fun r =>
      if decide (r.generation = generation) then { r with stage := stage } else r := by
  simp [updateReceiver]

section Staged

variable (s : Session) (generation : Nat) (stage : Receiver.Stage)

theorem takeActive_generations :
    s.takeActive.2.receivers.map (·.generation) = s.receivers.map (·.generation) := by
  rw [takeActive_receivers, map_stage _ _ _ _ fun _ => rfl]

theorem takeActive_routes : s.takeActive.2.receivers.map (·.transport) = s.receivers.map (·.transport) := by
  rw [takeActive_receivers, map_stage _ _ _ _ fun _ => rfl]

theorem updateReceiver_generations :
    (s.updateReceiver generation stage).receivers.map (·.generation) = s.receivers.map (·.generation) := by
  rw [updateReceiver_receivers, map_stage _ _ _ _ fun _ => rfl]

theorem updateReceiver_routes :
    (s.updateReceiver generation stage).receivers.map (·.transport) = s.receivers.map (·.transport) := by
  rw [updateReceiver_receivers, map_stage _ _ _ _ fun _ => rfl]

theorem updateReceiver_cases {s : Session} {generation : Nat} {stage : Receiver.Stage} {r' : Receiver}
    (member : r' ∈ (s.updateReceiver generation stage).receivers) : ∃ r ∈ s.receivers,
      r'.generation = r.generation ∧ r'.transport = r.transport ∧
        (r.generation ≠ generation ∧ r' = r ∨ r.generation = generation ∧ r'.stage = stage) := by
  rw [updateReceiver_receivers, List.mem_map] at member
  obtain ⟨r, member, rfl⟩ := member
  refine ⟨r, member, ?_⟩
  by_cases same : r.generation = generation <;> simp [same]

end Staged

theorem takeActive_transports (s : Session) : ∃ i change, s.takeActive.2.transports = s.transports.modify i change ∧
    ∀ t : Transport, (change t).writer = t.writer ∧ (change t).isConnected = t.isConnected ∧
      (t.IsUnopened → (change t).IsUnopened) := by
  unfold takeActive
  split
  · exact ⟨0, id, (List.modify_id 0 _).symm, fun t => ⟨rfl, rfl, id⟩⟩
  · simp only [abort]
    split
    · exact ⟨0, id, (List.modify_id 0 _).symm, fun t => ⟨rfl, rfl, id⟩⟩
    · rename_i receiver _
      refine ⟨receiver.transport, _, rfl, fun t => ⟨rfl, ?_, ?_⟩⟩
      · simp only [Transport.isConnected, List.getLast?_eq_getElem?, List.length_modify, List.getElem?_modify]
        cases t.readers[t.readers.length - 1]? with
        | none => rfl
        | some reader =>
          simp only [Option.map_eq_map, Option.map_some, Option.any_some]
          split <;> rfl
      · rintro ⟨released, unopened⟩
        exact ⟨released, by simp [unopened]⟩

end Parts

theorem Linked.congr {s s' : Session} (linked : s.Linked) (attempts : s'.attempt? = s.attempt?)
    (transports : s'.transports = s.transports) (receivers : s'.receivers = s.receivers)
    (active : s'.active = s.active) (generation : s'.generation = s.generation)
    (published : s'.published = s.published) : s'.Linked := by
  have inUse := inUse_congr attempts active
  constructor
  all_goals simp only [attempts, transports, receivers, active, generation, status, published, inUse]
  · exact linked.opening_lt
  · exact linked.opening_unrouted
  · exact linked.opening_unique
  · exact linked.unopened
  · exact linked.underway_idle
  · exact linked.generations_nodup
  · exact linked.generation_le
  · exact linked.routes_nodup
  · exact linked.route_lt
  · exact linked.listening_active
  · exact linked.active_receiver
  · exact linked.active_open
  · exact linked.held
  · exact linked.lost_dead
  · exact linked.idle_status

section Receivers

variable {s : Session} (linked : s.Linked)
include linked

theorem Linked.receiver_eq {r r' : Receiver} (member : r ∈ s.receivers) (member' : r' ∈ s.receivers)
    (same : r.generation = r'.generation) : r = r' :=
  List.inj_on_of_nodup_map linked.generations_nodup member member' same

theorem Linked.past_of_not_listening {r : Receiver} (member : r ∈ s.receivers) (stage : r.stage ≠ .listening) :
    s.active.any (·.generation = r.generation) = false := by
  cases active : s.active with
  | none => rfl
  | some link =>
    have listens := linked.active_receiver link active
    simp only [Option.any_some, decide_eq_false_iff_not]
    intro same
    rw [← linked.receiver_eq listens member same] at stage
    exact stage rfl

theorem Linked.current_of_listening {generation : Nat} {receiver : Receiver}
    (known : s.receiver? generation = some receiver) (stage : receiver.stage = .listening) :
    s.active.any (·.generation = generation) = true := by
  obtain ⟨member, rfl⟩ := receiver?_some known
  rw [linked.listening_active _ member stage]
  simp

end Receivers

section Attempts

variable {s s' : Session} {id : Nat} {old new : Call}

theorem Linked.begins (tidy : s.Tidy) (linked : s.Linked) {more : List Transport} (idle : new.isUnderway = false)
    (calls : s'.calls = s.calls ++ [(s.nextCall, new)])
    (own : ∀ i, new.opening? = some i → i = s.transports.length ∧ 0 < more.length)
    (unopened : ∀ t ∈ more, t.IsUnopened) (transports : s'.transports = s.transports ++ more)
    (receivers : s'.receivers = s.receivers) (active : s'.active = s.active)
    (generation : s'.generation = s.generation) (published : s'.published = s.published) : s'.Linked := by
  have attempts := attempt?_add tidy calls
  have absent : s.attempt? s.nextCall = none := by simp [attempt?, tidy.call?_nextCall]
  have stays {other : Nat} {call : Call} (h : s.attempt? other = some call) : s'.attempt? other = some call := by
    rw [attempts, if_neg (by rintro rfl; simp [absent] at h), h]
  have new_or_old {other : Nat} {call : Call} (h : s'.attempt? other = some call) :
      s.attempt? other = some call ∨ (other = s.nextCall ∧ call = new) := by
    rw [attempts] at h
    split at h
    · exact .inr ⟨‹_›, (Option.filter_eq_some_iff.mp h).1 |> Option.some.inj |>.symm⟩
    · exact .inl h
  have was {i : Nat} {t : Transport} (h : s'.transports[i]? = some t) :
      s.transports[i]? = some t ∨ (s.transports.length ≤ i ∧ t.IsUnopened) := by
    rw [transports, List.getElem?_append] at h
    split at h
    · exact .inl h
    · exact .inr ⟨by omega, unopened t (List.mem_of_getElem? h)⟩
  have keeps {i : Nat} {t : Transport} (h : s.transports[i]? = some t) : s'.transports[i]? = some t := by
    rw [transports, List.getElem?_append_left (List.getElem?_eq_some_iff.mp h).1, h]
  have length : s'.transports.length = s.transports.length + more.length := by simp [transports]
  have inUse {i : Nat} (h : s.InUse i) : s'.InUse i := h.added tidy calls active
  have status := status_congr published
  clear transports attempts calls absent
  cases linked
  constructor
  all_goals grind [Transport.IsUnopened]

section Underway

variable (linked : s.Linked) (present : s.attempt? id = some old) (underway : old.isUnderway = true)
include linked present underway

theorem Linked.proceeds (attempts : ∀ other, s'.attempt? other = if other = id then some new else s.attempt? other)
    (underway' : new.isUnderway = true) (opening : new.opening? = old.opening?)
    (unopened : ∀ i, new.unopened? = some i → old.unopened? = some i) (releasing : old.releasing? = none)
    (transports : s'.transports = s.transports) (receivers : s'.receivers = s.receivers)
    (active : s'.active = s.active) (generation : s'.generation = s.generation) : s'.Linked := by
  have inUse {i : Nat} (h : s.InUse i) : s'.InUse i :=
    (h.replaced present attempts fun _ => active.trans).resolve_right (by simp [releasing])
  have self := attempts id
  cases linked
  constructor
  all_goals grind

theorem Linked.fails {transport : Nat} {change : Transport → Transport}
    (attempts : ∀ other, s'.attempt? other = if other = id then some new else s.attempt? other)
    (opening : old.opening? = some transport) (opening' : new.opening? = some transport)
    (underway' : new.isUnderway = true) (unopened : new.unopened? = none) (idle : old.releasing? = none)
    (releasing : new.releasing? = some transport)
    (transports : s'.transports = s.transports.modify transport change)
    (receivers : s'.receivers = s.receivers) (active : s'.active = s.active)
    (generation : s'.generation = s.generation) : s'.Linked := by
  have inUse {i : Nat} (h : s.InUse i) : s'.InUse i :=
    (h.replaced present attempts fun _ => active.trans).resolve_right (by simp [idle])
  have self := attempts id
  have own : s'.InUse transport := .inr ⟨id, new, by rw [self, if_pos rfl], releasing⟩
  have length : s'.transports.length = s.transports.length := by simp [transports]
  have others {i : Nat} (h : i ≠ transport) : s'.transports[i]? = s.transports[i]? := by
    rw [transports, List.getElem?_modify_ne _ _ (Ne.symm h)]
  have unrouted := linked.opening_unrouted id old transport present opening
  clear transports
  cases linked
  constructor
  all_goals grind

theorem Linked.detaches {new : Option Call}
    (attempts : ∀ other, s'.attempt? other = if other = id then new else s.attempt? other)
    (goes_on : ∀ call, new = some call → call.isUnderway = true ∧ call.opening? = old.opening? ∧
      ∀ i, call.unopened? = some i → old.unopened? = some i)
    (transports : s'.transports = (s.detach old.releasing?).transports)
    (receivers : s'.receivers = s.receivers) (active : s'.active = s.active)
    (generation : s'.generation = s.generation)
    (published : new = none →
      ∃ status, s'.published = s.published ++ [status] ∧ status ≠ .connected ∧ status ≠ .connecting) :
    s'.Linked := by
  have status (ended : new = none) : s'.status ≠ .connected ∧ s'.status ≠ .connecting := by
    obtain ⟨status, published, rest⟩ := published ended
    rwa [status_publish published]
  have idle := linked.underway_idle id old present underway
  have length : s'.transports.length = s.transports.length := by
    rw [transports]
    cases old.releasing? <;> simp [detach, updateTransport]
  have was {i : Nat} {t' : Transport} (h : s'.transports[i]? = some t') :
      (s.transports[i]? = some t' ∧ old.releasing? ≠ some i) ∨
        ∃ t, s.transports[i]? = some t ∧ t'.writer = none ∧ t'.isConnected = false ∧
          (t.IsUnopened → t'.IsUnopened) := by
    rw [transports] at h
    cases releases : old.releasing? with
    | none => exact .inl ⟨by simpa [releases, detach] using h, by simp⟩
    | some j =>
      simp only [releases, detach, updateTransport, List.getElem?_modify, Option.map_eq_map] at h
      cases found : s.transports[i]? with
      | none => simp [found] at h
      | some t =>
        simp only [found, Option.map_some, Option.some.injEq] at h
        by_cases same : j = i
        · rw [if_pos same] at h
          subst h
          exact .inr ⟨t, rfl, rfl, t.detach_isConnected, fun unopened =>
            ⟨rfl, t.detach_readers_of_nil unopened.2⟩⟩
        · rw [if_neg same] at h
          exact .inl ⟨by rw [← h], by simpa using same⟩
  have inUse {i : Nat} (h : s.InUse i) : s'.InUse i ∨ old.releasing? = some i :=
    h.replaced present attempts fun _ => active.trans
  have self := attempts id
  -- what became of each transport is known by now, and every field follows from those of `s`
  clear transports
  cases linked
  constructor
  case idle_status => cases new <;> grind
  all_goals grind

end Underway

theorem Linked.takes (linked : s.Linked) (present : s.attempt? id = some old)
    (attempts : ∀ other, s'.attempt? other = if other = id then some new else s.attempt? other)
    (underway' : new.isUnderway = true) (opening : new.opening? = old.opening?)
    (unopened : ∀ i, new.unopened? = some i → old.unopened? = some i) (idle : old.releasing? = none)
    (releases : new.releasing? = s.active.map (·.transport))
    (transports : s'.transports = s.takeActive.2.transports)
    (receivers : s'.receivers = s.takeActive.2.receivers) (active : s'.active = none)
    (generation : s'.generation = s.generation) : s'.Linked := by
  obtain ⟨taken, change, modified, kept⟩ := s.takeActive_transports
  have length : s'.transports.length = s.transports.length := by simp [transports, modified]
  have was {i : Nat} {t' : Transport} (h : s'.transports[i]? = some t') :
      ∃ t, s.transports[i]? = some t ∧ t'.writer = t.writer ∧ t'.isConnected = t.isConnected ∧
        (t.IsUnopened → t'.IsUnopened) := by
    rw [transports, modified, List.getElem?_modify, Option.map_eq_map, Option.map_eq_some_iff] at h
    obtain ⟨t, found, rfl⟩ := h
    refine ⟨t, found, ?_⟩
    split
    · exact kept t
    · exact ⟨rfl, rfl, fun unopened => unopened⟩
  have generations : s'.receivers.map (·.generation) = s.receivers.map (·.generation) := by
    rw [receivers, takeActive_generations]
  have routes : s'.receivers.map (·.transport) = s.receivers.map (·.transport) := by
    rw [receivers, takeActive_routes]
  have received {r' : Receiver} (member : r' ∈ s'.receivers) : ∃ r ∈ s.receivers,
      r'.generation = r.generation ∧ r'.transport = r.transport ∧ (r'.stage = r.stage ∨ r'.stage = .over) ∧
      (s.active.any (·.generation = r.generation) = true → r'.stage = .over) := by
    rw [receivers, takeActive_receivers, List.mem_map] at member
    obtain ⟨r, member, rfl⟩ := member
    refine ⟨r, member, ?_⟩
    split <;> simp_all
  have keeps {r : Receiver} (member : r ∈ s.receivers) (stage : r.stage = .releasing) : r ∈ s'.receivers := by
    rw [receivers, takeActive_receivers, List.mem_map]
    exact ⟨r, member, if_neg (by simp [linked.past_of_not_listening member (by simp [stage])])⟩
  have inUse {i : Nat} (h : s.InUse i) : s'.InUse i := h.taken present attempts idle releases
  have self := attempts id
  clear transports receivers
  cases linked
  constructor
  all_goals grind

end Attempts

section Links

variable {s s' : Session}

theorem Linked.reads (linked : s.Linked) {i index : Nat} {change : Transport → Transport} {t : Transport}
    {reader reader' : Transport.Reader} (found : s.transports[i]? = some t)
    (taps : t.readers[index]? = some reader) (turn : reader.Turn reader')
    (changed : change t = { t with readers := t.readers.set index reader' })
    (attempts : s'.attempt? = s.attempt?) (transports : s'.transports = s.transports.modify i change)
    (receivers : s'.receivers = s.receivers) (active : s'.active = s.active)
    (generation : s'.generation = s.generation) (published : s'.published = s.published) : s'.Linked := by
  have length : s'.transports.length = s.transports.length := by simp [transports]
  have was {j : Nat} {t' : Transport} (h : s'.transports[j]? = some t') :
      ∃ t, s.transports[j]? = some t ∧ t'.writer = t.writer ∧ (t'.isConnected = true → t.isConnected = true) ∧
        (t.IsUnopened → t'.IsUnopened) := by
    rw [transports, List.getElem?_modify, Option.map_eq_map, Option.map_eq_some_iff] at h
    obtain ⟨u, found', rfl⟩ := h
    refine ⟨u, found', ?_⟩
    split
    · rename_i same
      subst same
      rw [found, Option.some.injEq] at found'
      subst found'
      rw [changed]
      exact ⟨rfl, Transport.isConnected_set taps turn, Transport.IsUnopened.set taps⟩
    · exact ⟨rfl, fun connected => connected, fun unopened => unopened⟩
  have opens {j : Nat} {u : Transport} (found' : s.transports[j]? = some u) (isOpen : u.IsOpen) :
      ∃ t', s'.transports[j]? = some t' ∧ t'.IsOpen := by
    rw [transports, List.getElem?_modify, found']
    by_cases same : i = j
    · subst same
      rw [found, Option.some.injEq] at found'
      subst found'
      exact ⟨change t, by simp, changed ▸ isOpen.set taps turn⟩
    · exact ⟨u, by simp [same], isOpen⟩
  have inUse {j : Nat} (h : s.InUse j) : s'.InUse j := (inUse_congr attempts active j).mpr h
  have status := status_congr published
  have attempts (other : Nat) := congrFun attempts other
  clear transports changed taps found
  cases linked
  constructor
  all_goals grind

theorem Linked.loses (linked : s.Linked) {generation : Nat} {receiver : Receiver} {t : Transport}
    {reader : Transport.Reader} (known : s.receiver? generation = some receiver)
    (found : s.transports[receiver.transport]? = some t) (taps : t.readers[receiver.reader]? = some reader)
    (ended : reader.isEnded = true) (current : s.active.any (·.generation = generation) = true)
    (attempts : s'.attempt? = s.attempt?) (transports : s'.transports = s.transports)
    (receivers : s'.receivers = (s.updateReceiver generation .releasing).receivers) (active : s'.active = none)
    (same : s'.generation = s.generation) (status : s'.status = .linkLost) : s'.Linked := by
  obtain ⟨member, rfl⟩ := receiver?_some known
  have generations : s'.receivers.map (·.generation) = s.receivers.map (·.generation) := by
    rw [receivers, updateReceiver_generations]
  have routes : s'.receivers.map (·.transport) = s.receivers.map (·.transport) := by
    rw [receivers, updateReceiver_routes]
  have received {r' : Receiver} (h : r' ∈ s'.receivers) : ∃ r ∈ s.receivers, r'.generation = r.generation ∧
      r'.transport = r.transport ∧ (r.generation ≠ receiver.generation ∧ r' = r ∨
        r.generation = receiver.generation ∧ r'.stage = .releasing) := updateReceiver_cases (receivers ▸ h)
  have keeps {r : Receiver} (h : r ∈ s.receivers) (stage : r.stage = .releasing) : r ∈ s'.receivers := by
    rw [receivers, updateReceiver_receivers, List.mem_map]
    refine ⟨r, h, ?_⟩
    split
    · rw [← stage]
    · rfl
  have own : { receiver with stage := .releasing } ∈ s'.receivers := by
    rw [receivers, updateReceiver_receivers, List.mem_map]
    exact ⟨receiver, member, by simp⟩
  have unique {r : Receiver} (h : r ∈ s.receivers) (same : r.generation = receiver.generation) : r = receiver :=
    linked.receiver_eq h member same
  obtain ⟨link, active', same'⟩ : ∃ link, s.active = some link ∧ link.generation = receiver.generation := by
    cases active : s.active <;> simp_all
  have listens := unique (linked.active_receiver link active') same'
  subst listens
  have dead : t.isConnected = false := by
    obtain ⟨t', found', isOpen⟩ := linked.active_open link active'
    rw [found', Option.some.injEq] at found
    subst found
    rw [isOpen.isConnected taps]
    simp only [Transport.Reader.isEnded, Bool.and_eq_true, Bool.not_eq_true'] at ended
    exact ended.1
  have inUse {i : Nat} (h : s.InUse i) : s'.InUse i ∨ i = link.transport := by
    rcases h with ⟨generation, h⟩ | ⟨other, call, h, releases⟩
    · rw [active', Option.some.injEq] at h
      exact .inr (by rw [h])
    · exact .inl (.inr ⟨other, call, by rw [attempts, h], releases⟩)
  have attempts (other : Nat) := congrFun attempts other
  clear receivers
  cases linked
  constructor
  case idle_status => simp [status, active, Status.linkLost]
  all_goals grind

theorem Linked.releases (linked : s.Linked) {generation : Nat} {receiver : Receiver}
    (known : s.receiver? generation = some receiver) (stage : receiver.stage = .releasing)
    (attempts : s'.attempt? = s.attempt?)
    (transports : s'.transports = s.transports.modify receiver.transport (·.detach))
    (receivers : s'.receivers = (s.updateReceiver generation .over).receivers) (active : s'.active = s.active)
    (same : s'.generation = s.generation) (published : s'.published = s.published) : s'.Linked := by
  obtain ⟨member, rfl⟩ := receiver?_some known
  have generations : s'.receivers.map (·.generation) = s.receivers.map (·.generation) := by
    rw [receivers, updateReceiver_generations]
  have routes : s'.receivers.map (·.transport) = s.receivers.map (·.transport) := by
    rw [receivers, updateReceiver_routes]
  have received {r' : Receiver} (h : r' ∈ s'.receivers) : ∃ r ∈ s.receivers, r'.generation = r.generation ∧
      r'.transport = r.transport ∧ (r.generation ≠ receiver.generation ∧ r' = r ∨
        r.generation = receiver.generation ∧ r'.stage = .over) := updateReceiver_cases (receivers ▸ h)
  have keeps {r : Receiver} (h : r ∈ s.receivers) (other : r.generation ≠ receiver.generation) :
      r ∈ s'.receivers := by
    rw [receivers, updateReceiver_receivers, List.mem_map]
    exact ⟨r, h, if_neg (by simpa using other)⟩
  have unique {r : Receiver} (h : r ∈ s.receivers) (same : r.generation = receiver.generation) : r = receiver :=
    linked.receiver_eq h member same
  have past : s.active.any (·.generation = receiver.generation) = false :=
    linked.past_of_not_listening member (by simp [stage])
  have elsewhere {link : ActiveLink} (h : s.active = some link) : link.transport ≠ receiver.transport := by
    intro same
    have listens := linked.active_receiver link h
    rw [← List.inj_on_of_nodup_map linked.routes_nodup listens member same] at stage
    cases stage
  have length : s'.transports.length = s.transports.length := by simp [transports]
  have others {i : Nat} (h : i ≠ receiver.transport) : s'.transports[i]? = s.transports[i]? := by
    rw [transports, List.getElem?_modify_ne _ _ (Ne.symm h)]
  have own {t' : Transport} (h : s'.transports[receiver.transport]? = some t') :
      t'.writer = none ∧ t'.isConnected = false := by
    rw [transports, List.getElem?_modify_eq, Option.map_eq_map, Option.map_eq_some_iff] at h
    obtain ⟨t, -, rfl⟩ := h
    exact ⟨rfl, t.detach_isConnected⟩
  have inUse {i : Nat} (h : s.InUse i) : s'.InUse i := (inUse_congr attempts active i).mpr h
  have attempts (other : Nat) := congrFun attempts other
  have status := status_congr published
  clear receivers transports
  cases linked
  constructor
  all_goals grind [Transport.IsUnopened]

theorem Linked.installs (tidy : s.Tidy) (linked : s.Linked) {id transport : Nat} {old : Call} {config : Config}
    {bus bus' : Link.Bus} {device : Nat} {t t' : Transport} (present : s.attempt? id = some old)
    (underway : old.isUnderway = true) (opening : old.opening? = some transport)
    (unopened : old.unopened? = some transport) (releasing : old.releasing? = none)
    (attempts : ∀ other, s'.attempt? other = if other = id then none else s.attempt? other)
    (found : s.transports[transport]? = some t) (attached : t.attach config bus device = (.ok (), t', bus'))
    (transports : s'.transports = s.transports.modify transport fun _ => { t' with hasReceiver := false })
    (receivers : s'.receivers = s.receivers ++
      [{ generation := s.generation + 1, transport := transport, reader := t'.readers.length - 1 }])
    (active : s'.active = some ⟨transport, s.generation + 1⟩) (generation : s'.generation = s.generation + 1)
    (status : s'.status = .connected) : s'.Linked := by
  have idle := linked.underway_idle id old present underway
  have fresh : t.IsUnopened := linked.unopened id old transport t present unopened found
  have shape := (Transport.attach_ok attached).1
  have alone : t'.readers = [.start device config.link.readBuffer config.link.inboundCapacity] := by
    rw [shape, t.detach_readers_of_nil fresh.2]
    rfl
  rw [show t'.readers.length - 1 = 0 by simp [alone]] at receivers
  have isOpen : Transport.IsOpen { t' with hasReceiver := false } :=
    ⟨_, alone, by rw [shape]; rfl, rfl, rfl⟩
  have own : s'.transports[transport]? = some { t' with hasReceiver := false } := by
    simp [transports, found]
  have length : s'.transports.length = s.transports.length := by simp [transports]
  have others {i : Nat} (h : i ≠ transport) : s'.transports[i]? = s.transports[i]? := by
    rw [transports, List.getElem?_modify_ne _ _ (Ne.symm h)]
  have unrouted := linked.opening_unrouted id old transport present opening
  have lt := linked.opening_lt id old transport present opening
  have inUse {i : Nat} (h : s.InUse i) : s'.InUse i :=
    (h.replaced present attempts (by simp [idle])).resolve_right (by simp [releasing])
  have own' : s'.InUse transport := .inl ⟨_, active⟩
  have single {other : Nat} {call : Call} (h : s.attempt? other = some call) (h' : call.isUnderway = true) :
      other = id := by
    have first := tidy.lifecycle_first h h'
    rw [tidy.lifecycle_first present underway] at first
    exact (Option.some.inj first).symm
  clear transports attached shape alone
  generalize { t' with hasReceiver := false } = u at own isOpen
  cases linked
  constructor
  case idle_status => simp [status, active]
  all_goals grind

end Links

/-- Every step keeps the links in order. -/
theorem Move.linked {s s' : Session} {action : Action} (move : Move s action s') (tidy : s.Tidy)
    (linked : s.Linked) : s'.Linked := by
  have mailed {mail : Mail} {chosen : Nat → Bool} :
      attempt? { s with calls := s.calls.handMail mail chosen } = s.attempt? := attempt?_handMail rfl
  cases move with
  | refusesSend isClosed => exact linked.congr (attempt?_add_sending tidy rfl rfl) rfl rfl rfl rfl rfl
  | refusesRequest isClosed => exact linked.congr (attempt?_add_sending tidy rfl rfl) rfl rfl rfl rfl rfl
  | sends active isOpen => exact linked.congr (attempt?_add_sending tidy rfl rfl) rfl rfl rfl rfl rfl
  | requests active isOpen => exact linked.congr (attempt?_add_sending tidy rfl rfl) rfl rfl rfl rfl rfl
  | connects =>
    exact linked.begins tidy rfl rfl (by simp [Call.opening?]) (by simp [Transport.IsUnopened]) rfl rfl rfl rfl rfl
  | disconnects =>
    exact linked.begins tidy rfl rfl (by simp [Call.opening?]) (by simp) (List.append_nil _).symm rfl rfl rfl rfl
  | advances present advance =>
    exact linked.congr (attempt?_update present advance.sends rfl) rfl rfl rfl rfl rfl
  | takes present turn stage =>
    rcases stage with ⟨transport, rfl, rfl⟩ | ⟨rfl, rfl⟩
    · exact linked.takes (attempt?_of_call? present rfl) (attempt?_goesOn present rfl rfl) rfl rfl
        (by simp [Call.unopened?]) rfl rfl rfl rfl rfl rfl
    · exact linked.takes (attempt?_of_call? present rfl) (attempt?_goesOn present rfl rfl) rfl rfl
        (by simp [Call.unopened?]) rfl rfl rfl rfl rfl rfl
  | reopens present =>
    exact linked.detaches (attempt?_of_call? present rfl) rfl (attempt?_handMail_replace present rfl)
      (by rintro call ⟨⟩; exact ⟨rfl, rfl, by simp [Call.unopened?]⟩) rfl rfl rfl rfl (by rintro ⟨⟩)
  | disconnected present =>
    exact linked.detaches (attempt?_of_call? present rfl) rfl (attempt?_handMail_replace present rfl)
      (by rintro call ⟨⟩) rfl rfl rfl rfl (fun _ => ⟨_, rfl, by simp, by simp⟩)
  | opens present =>
    exact linked.proceeds (attempt?_of_call? present rfl) rfl (attempt?_goesOn present rfl rfl) rfl rfl
      (by simp [Call.unopened?]) rfl rfl rfl rfl rfl
  | @opensNot _ transport _ present =>
    exact linked.fails (attempt?_of_call? present rfl) rfl (attempt?_goesOn present rfl rfl) rfl rfl rfl rfl rfl rfl
      (List.modify_id transport _).symm rfl rfl rfl
  | attachesNot present =>
    exact linked.fails (attempt?_of_call? present rfl) rfl (attempt?_goesOn present rfl rfl) rfl rfl rfl rfl rfl rfl
      rfl rfl rfl rfl
  | installs present found attached =>
    exact linked.installs tidy (attempt?_of_call? present rfl) rfl rfl rfl rfl (attempt?_ends present rfl rfl) found
      attached rfl rfl rfl rfl (status_publish rfl)
  | discards present =>
    exact linked.detaches (attempt?_of_call? present rfl) rfl (attempt?_ends present rfl rfl) (by simp) rfl rfl rfl rfl
      (fun _ => ⟨_, rfl, by simp, by simp⟩)
  | reads found turned =>
    obtain ⟨reader, reader', device, link', taps, -, stepped, rfl, -⟩ := Transport.stepReader_some turned
    have turn := Transport.Reader.step_turn stepped
    exact linked.reads found taps turn rfl rfl rfl rfl rfl rfl rfl
  | delivers known stage found taps takes =>
    exact linked.reads found taps (Transport.Reader.receive_turn takes) rfl mailed rfl rfl rfl rfl rfl
  | publishes known stage found taps takes =>
    exact linked.reads found taps (Transport.Reader.receive_turn takes) rfl rfl rfl rfl rfl rfl rfl
  | loses known stage found taps ended current =>
    exact linked.loses known found taps ended current (attempt?_handMail rfl) rfl rfl rfl rfl (status_publish rfl)
  | noticesLate known stage found taps ended past =>
    exact absurd (linked.current_of_listening known stage) (by simp [past])
  | releases known stage =>
    exact linked.releases known stage rfl rfl rfl rfl rfl rfl
  | ticks => exact linked.congr rfl rfl rfl rfl rfl rfl
  | happens => exact linked.congr rfl rfl rfl rfl rfl rfl
  | withholds => exact linked.congr rfl rfl rfl rfl rfl rfl

end Session

end TagConsole
