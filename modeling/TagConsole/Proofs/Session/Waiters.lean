import Mathlib.Data.List.TakeWhile
import TagConsole.Proofs.Session.Links

/-!
The queue of waiters: which requests have their numbers in it, and that nobody waits for a link that is
gone.
-/

namespace TagConsole.Session

def request? (s : Session) (id : Nat) : Option Call := (s.call? id).filter (·.seq?.isSome)

/-- A request waits from its registration to the mail it gets, and only while its link is in use. -/
structure Queued (s : Session) : Prop where
  seq_lt : ∀ id call n, s.request? id = some call → call.seq? = some n → n < s.nextSeq
  seq_unique : ∀ id call id' call' n, s.request? id = some call → s.request? id' = some call' →
    call.seq? = some n → call'.seq? = some n → id = id'
  waiter_lt : ∀ n ∈ s.waiters, n < s.nextSeq
  nodup : s.waiters.Nodup
  waits : ∀ id call n, s.request? id = some call → call.seq? = some n →
    (n ∈ s.waiters ↔ call.mail? = some .empty)
  last : ∀ id call n, s.request? id = some call → call.seq? = some n → call.mail? = some .empty →
    call.isSending = true → s.waiters.getLast? = some n
  routed : ∀ id call i, s.request? id = some call → call.route? = some i → i ∈ s.receivers.map (·.transport)
  waiting_used : ∀ id call i, s.request? id = some call → call.route? = some i → call.mail? = some .empty →
    s.InUse i
  waiters_used : s.waiters ≠ [] → ∃ i ∈ s.receivers.map (·.transport), s.InUse i

theorem Call.mail?_handMail (call : Call) (mail : Mail) (chosen : Nat → Bool) : (call.handMail mail chosen).mail? =
    if call.mail? = some .empty ∧ call.seq?.any chosen = true then some mail else call.mail? := by
  unfold handMail
  split
  · rename_i frame timeout transport n progress
    by_cases hit : chosen n = true <;> simp [mail?, seq?, hit]
  · rename_i other
    have full : call.mail? ≠ some .empty := by
      intro empty
      unfold mail? at empty
      split at empty
      · rename_i frame timeout transport n mail progress
        cases empty
        exact other frame timeout transport n progress rfl
      · cases empty
    rw [if_neg fun h => full h.1]

theorem Call.isWaiting_iff (call : Call) (n : Nat) :
    call.isWaiting n = true ↔ call.seq? = some n ∧ call.mail? = some .empty := by
  unfold isWaiting
  split
  · simp [seq?, mail?]
  · rename_i other
    simp only [Bool.false_eq_true, false_iff]
    rintro ⟨seq, empty⟩
    unfold mail? at empty
    split at empty
    · rename_i frame timeout transport m mail progress
      cases empty
      exact other frame timeout transport m progress rfl
    · cases empty

section Request

variable {s s' : Session} {id : Nat} {old : Call}

theorem isLive_iff (tidy : s.Tidy) (n : Nat) : s.isLive n = true ↔
    ∃ id call, s.request? id = some call ∧ call.seq? = some n ∧ call.mail? = some .empty := by
  simp only [isLive, List.any_eq_true, Call.isWaiting_iff]
  constructor
  · rintro ⟨⟨id, call⟩, member, seq, empty⟩
    have present : s.call? id = some call := (Calls.mem_iff_lookup tidy.ids_nodup).mp member
    exact ⟨id, call, by simp [request?, present, seq], seq, empty⟩
  · rintro ⟨id, call, present, seq, empty⟩
    have present : s.call? id = some call := (Option.filter_eq_some_iff.mp present).1
    exact ⟨(id, call), (Calls.mem_iff_lookup tidy.ids_nodup).mpr present, seq, empty⟩

theorem request?_update {new : Option Call} (present : s.call? id = some old)
    (calls : s'.calls = s.calls.update id new) (other : Nat) :
    s'.request? other = if other = id then new.filter (·.seq?.isSome) else s.request? other := by
  simp only [request?, call?, calls, Calls.lookup_update]
  split
  · rw [show s.calls.lookup id = some old from present, Option.bind_some]
  · rfl

theorem request?_add {call : Call} (tidy : s.Tidy) (calls : s'.calls = s.calls ++ [(s.nextCall, call)])
    (other : Nat) : s'.request? other =
      if other = s.nextCall then (some call).filter (·.seq?.isSome) else s.request? other := by
  simp only [request?, call?, calls, Calls.lookup_add]
  by_cases same : other = s.nextCall
  · subst same
    rw [show s.calls.lookup s.nextCall = none from tidy.call?_nextCall]
    simp
  · simp [same]

theorem request?_handMail {mail : Mail} {chosen : Nat → Bool} (calls : s'.calls = s.calls.handMail mail chosen)
    (other : Nat) : s'.request? other = (s.request? other).map (·.handMail mail chosen) := by
  simp only [request?, call?, calls, Calls.lookup_handMail]
  cases s.calls.lookup other with
  | none => rfl
  | some call => by_cases sends : call.seq?.isSome = true <;> simp [Option.filter, sends]

theorem request?_other {new : Option Call} (present : s.call? id = some old)
    (single : old.seq? = none) (single' : new.bind (·.seq?) = none)
    (calls : s'.calls = s.calls.update id new) : s'.request? = s.request? := by
  funext other
  rw [request?_update present calls]
  split
  · rename_i same
    rw [same, request?, present]
    cases new <;> simp_all [Option.filter]
  · rfl

theorem request?_replace {new : Call} (present : s.call? id = some old) (single : old.isLifecycle = true)
    (single' : new.seq? = none) (calls : s'.calls = s.calls.replace id new) : s'.request? = s.request? := by
  have quiet : old.seq? = none := by
    cases old <;> simp_all [Call.isLifecycle, Call.seq?]
  have calls : s'.calls = s.calls.update id (some new) := calls
  exact request?_other present quiet (by simpa using single') calls

theorem request?_handMail_replace {new : Call} {mail : Mail} {chosen : Nat → Bool} (present : s.call? id = some old)
    (single : old.isLifecycle = true) (single' : new.seq? = none)
    (calls : s'.calls = (s.calls.handMail mail chosen).replace id new) (other : Nat) :
    s'.request? other = (s.request? other).map (·.handMail mail chosen) := by
  rw [request?_replace (call?_handMail present) (by simpa using single) single' calls, request?_handMail rfl]

theorem request?_add_other {call : Call} (tidy : s.Tidy) (single : call.seq? = none)
    (calls : s'.calls = s.calls ++ [(s.nextCall, call)]) : s'.request? = s.request? := by
  funext other
  rw [request?_add tidy calls]
  split
  · rename_i same
    rw [same, request?, tidy.call?_nextCall]
    simp [Option.filter, single]
  · rfl

end Request

section Steps

variable {s s' : Session} {id : Nat}

theorem Queued.congr (queued : s.Queued) (requests : s'.request? = s.request?)
    (waiters : s'.waiters = s.waiters) (nextSeq : s'.nextSeq = s.nextSeq)
    (routes : ∀ i ∈ s.receivers.map (·.transport), i ∈ s'.receivers.map (·.transport))
    (inUse : ∀ i ∈ s.receivers.map (·.transport), s.InUse i → s'.InUse i) : s'.Queued := by
  have requests (other : Nat) := congrFun requests other
  cases queued
  constructor
  all_goals grind

theorem Queued.adds (tidy : s.Tidy) (queued : s.Queued) {call : Call} {i : Nat}
    (calls : s'.calls = s.calls ++ [(s.nextCall, call)]) (seq : call.seq? = some s.nextSeq)
    (route : call.route? = some i) (mail : call.mail? = none) (routed : i ∈ s.receivers.map (·.transport))
    (waiters : s'.waiters = s.waiters) (nextSeq : s'.nextSeq = s.nextSeq + 1)
    (receivers : s'.receivers = s.receivers) (inUse : ∀ i, s'.InUse i ↔ s.InUse i) : s'.Queued := by
  have requests (other : Nat) :
      s'.request? other = if other = s.nextCall then some call else s.request? other := by
    rw [request?_add tidy calls, Option.filter_some_pos (by simp [seq])]
  cases queued
  constructor
  all_goals grind

section Request

variable {old : Call} {n : Nat} (queued : s.Queued) (present : s.request? id = some old)
  (seq : old.seq? = some n)
include queued present seq

theorem Queued.registers {call : Call} {i : Nat} (mail : old.mail? = none) (route : old.route? = some i)
    (seq' : call.seq? = some n) (route' : call.route? = some i) (mail' : call.mail? = some .empty)
    (alone : ∀ other call, s.request? other = some call → call.isSending = true → other = id) (used : s.InUse i)
    (requests : ∀ other, s'.request? other = if other = id then some call else s.request? other)
    (waiters : s'.waiters = s.waiters ++ [n]) (nextSeq : s'.nextSeq = s.nextSeq)
    (receivers : s'.receivers = s.receivers) (inUse : ∀ i, s'.InUse i ↔ s.InUse i) : s'.Queued := by
  have absent : n ∉ s.waiters := by simp [queued.waits id old n present seq, mail]
  cases queued
  constructor
  all_goals grind

theorem Queued.goesOn {call : Call}
    (requests : ∀ other, s'.request? other = if other = id then some call else s.request? other)
    (seq' : call.seq? = some n) (route : call.route? = old.route?) (mail : call.mail? = old.mail?)
    (sending : call.isSending = true → old.isSending = true)
    (waiters : s'.waiters = s.waiters) (nextSeq : s'.nextSeq = s.nextSeq)
    (receivers : s'.receivers = s.receivers) (inUse : ∀ i, s'.InUse i ↔ s.InUse i) : s'.Queued := by
  cases queued
  constructor
  all_goals grind

theorem Queued.leaves (requests : ∀ other, s'.request? other = if other = id then none else s.request? other)
    (waiters : s'.waiters = s.waiters ∨ s'.waiters = s.waiters.filter (· ≠ n))
    (nextSeq : s'.nextSeq = s.nextSeq)
    (receivers : s'.receivers = s.receivers) (inUse : ∀ i, s'.InUse i ↔ s.InUse i) : s'.Queued := by
  have mem (m : Nat) : m ≠ n → (m ∈ s'.waiters ↔ m ∈ s.waiters) := by grind
  have sublist : s'.waiters.Sublist s.waiters := by
    rcases waiters with same | same <;> rw [same]
    exact List.filter_sublist
  have kept {m : Nat} (last : s.waiters.getLast? = some m) (other : m ≠ n) : s'.waiters.getLast? = some m := by
    obtain ⟨front, whole⟩ := List.getLast?_eq_some_iff.mp last
    rcases waiters with same | same
    · rw [same, last]
    · simp [same, whole, List.filter_append, other]
  have filled : s'.waiters ≠ [] → s.waiters ≠ [] := by grind
  have nodup := queued.nodup.sublist sublist
  clear waiters
  cases queued
  constructor
  all_goals grind

end Request

section Mail

variable {mail : Mail} {chosen : Nat → Bool}

theorem Queued.drops (queued : s.Queued)
    (requests : ∀ other, s'.request? other = (s.request? other).map (·.handMail .dropped (· ∈ s.waiters)))
    (waiters : s'.waiters = []) (nextSeq : s'.nextSeq = s.nextSeq)
    (routes : s'.receivers.map (·.transport) = s.receivers.map (·.transport)) : s'.Queued := by
  have was {id : Nat} {call' : Call} (h : s'.request? id = some call') : ∃ call, s.request? id = some call ∧
      call'.seq? = call.seq? ∧ call'.route? = call.route? ∧ call'.mail? ≠ some .empty := by
    rw [requests, Option.map_eq_some_iff] at h
    obtain ⟨call, present, rfl⟩ := h
    refine ⟨call, present, call.seq?_handMail _ _, call.route?_handMail _ _, ?_⟩
    rw [Call.mail?_handMail]
    split
    · simp
    · rename_i kept
      intro empty
      cases seq : call.seq? with
      | none => simp [request?, seq, Option.filter_eq_some_iff] at present
      | some n => simp [empty, seq, queued.waits id call n present seq] at kept
  clear requests
  cases queued
  constructor
  all_goals grind

theorem Queued.split (queued : s.Queued) {n : Nat} {later : List Nat}
    (first : s.waiters.dropWhile (fun n => !s.isLive n) = n :: later) :
    ∃ dead, s.waiters = dead ++ n :: later ∧ s.isLive n = true ∧ n ∉ later ∧ ∀ m ∈ dead, s.isLive m = false := by
  have whole := List.takeWhile_append_dropWhile (p := fun n => !s.isLive n) (l := s.waiters)
  rw [first] at whole
  have nodup := queued.nodup
  rw [← whole, List.nodup_append] at nodup
  refine ⟨_, whole.symm, ?_, (List.nodup_cons.mp nodup.2.1).1, ?_⟩
  · have stops := List.head_dropWhile_not (fun n => !s.isLive n) (l := s.waiters) (by simp [first])
    simpa [first] using stops
  · intro m member
    simpa using List.mem_takeWhile_imp member

theorem Queued.delivers (tidy : s.Tidy) (queued : s.Queued) {frame : Wire.Frame} {n : Nat} {later : List Nat}
    (first : s.waiters.dropWhile (fun n => !s.isLive n) = n :: later)
    (requests : ∀ other, s'.request? other = (s.request? other).map (·.handMail (.reply frame) (· = n)))
    (waiters : s'.waiters = later) (nextSeq : s'.nextSeq = s.nextSeq) (receivers : s'.receivers = s.receivers)
    (inUse : ∀ i, s'.InUse i ↔ s.InUse i) : s'.Queued := by
  obtain ⟨dead, whole, -, fresh, abandoned⟩ := queued.split first
  -- whoever still waits is none of those that are passed by
  have alive (id : Nat) (call : Call) (m : Nat) (present : s.request? id = some call) (seq : call.seq? = some m)
      (empty : call.mail? = some .empty) : m ∉ dead := by
    intro member
    have live := (isLive_iff tidy m).mpr ⟨id, call, present, seq, empty⟩
    rw [abandoned m member] at live
    cases live
  have was {id : Nat} {call' : Call} (h : s'.request? id = some call') : ∃ call, s.request? id = some call ∧
      call'.seq? = call.seq? ∧ call'.route? = call.route? ∧ call'.isSending = call.isSending ∧
      (call'.mail? = some .empty ↔ call.mail? = some .empty ∧ call.seq? ≠ some n) := by
    rw [requests, Option.map_eq_some_iff] at h
    obtain ⟨call, present, rfl⟩ := h
    refine ⟨call, present, call.seq?_handMail _ _, call.route?_handMail _ _, call.isSending_handMail _ _, ?_⟩
    rw [Call.mail?_handMail]
    cases seq : call.seq? <;> grind
  have last {m : Nat} (last : s.waiters.getLast? = some m) (other : m ≠ n) : later.getLast? = some m := by
    rw [whole] at last
    cases later with
    | nil => simp at last; grind
    | cons _ _ => simpa using last
  have mem (m : Nat) : m ∈ s.waiters ↔ m ∈ dead ∨ m = n ∨ m ∈ later := by simp [whole]
  have filled : s.waiters ≠ [] := by simp [whole]
  have nodup : later.Nodup := by
    have nodup := queued.nodup
    rw [whole, List.nodup_append] at nodup
    exact (List.nodup_cons.mp nodup.2.1).2
  clear requests first whole
  cases queued
  constructor
  all_goals grind

theorem Queued.publishes (tidy : s.Tidy) (queued : s.Queued)
    (nobody : s.waiters.dropWhile (fun n => !s.isLive n) = []) (requests : s'.request? = s.request?)
    (waiters : s'.waiters = []) (nextSeq : s'.nextSeq = s.nextSeq) (receivers : s'.receivers = s.receivers)
    (inUse : ∀ i, s'.InUse i ↔ s.InUse i) : s'.Queued := by
  have dead {id : Nat} {call : Call} {n : Nat} (h : s.request? id = some call) (seq : call.seq? = some n) :
      call.mail? ≠ some .empty := by
    intro empty
    have live : s.isLive n = true := (isLive_iff tidy n).mpr ⟨id, call, h, seq, empty⟩
    have := List.dropWhile_eq_nil_iff.mp nobody n ((queued.waits id call n h seq).mpr empty)
    simp [live] at this
  have requests (other : Nat) := congrFun requests other
  clear nobody
  cases queued
  constructor
  all_goals grind

end Mail

end Steps

theorem request?_of_call? {s : Session} {id : Nat} {call : Call} (present : s.call? id = some call)
    (sends : call.seq?.isSome = true) : s.request? id = some call := by
  simp [request?, present, sends]

theorem Linked.inUse_of_isConnected {s : Session} (linked : s.Linked) {i : Nat}
    (isOpen : s.transports[i]?.any (·.isConnected) = true) : s.InUse i := by
  obtain ⟨t, found, connected⟩ := (Option.any_eq_true _ _).mp isOpen
  have writes : t.writer.isSome = true := by
    simp only [Transport.isConnected, Bool.and_eq_true] at connected
    exact connected.2
  rcases linked.held i t found writes with used | ⟨r, member, rfl, stage⟩
  · exact used
  · rw [linked.lost_dead r member stage t found] at connected
    cases connected

theorem Advance.queued {s s' : Session} {action : Action} {id : Nat} {old : Call} {new : Option Call}
    {waiters : List Nat} {bus : Link.Bus} (advance : Advance s id action old new waiters bus) (tidy : s.Tidy)
    (linked : s.Linked) (queued : s.Queued) (present : s.call? id = some old)
    (calls : s'.calls = s.calls.update id new) (waiting : s'.waiters = waiters)
    (nextSeq : s'.nextSeq = s.nextSeq) (receivers : s'.receivers = s.receivers)
    (inUse : ∀ i, s'.InUse i ↔ s.InUse i) : s'.Queued := by
  have requests := request?_update present calls
  have requested (sends : old.seq?.isSome = true) := request?_of_call? present sends
  have other (single : old.seq? = none) (single' : new.bind (·.seq?) = none) (same : waiters = s.waiters) : s'.Queued :=
    queued.congr (request?_other present single single' calls) (waiting.trans same) nextSeq
      (by simp [receivers]) (fun i _ => (inUse i).mpr)
  have ends {n : Nat} (seq : old.seq? = some n) (single' : new.bind (·.seq?) = none)
      (left : waiters = s.waiters ∨ waiters = s.waiters.filter (· ≠ n)) : s'.Queued := by
    refine queued.leaves (requested (by simp [seq])) seq ?_ (by rwa [waiting]) nextSeq receivers inUse
    intro other
    rw [requests]
    cases new <;> simp_all [Option.filter]
  cases advance with
  | @registers frame timeout transport seq turn isOpen =>
    refine queued.registers (requested rfl) rfl rfl rfl rfl rfl rfl ?_ (linked.inUse_of_isConnected isOpen) requests
      waiting nextSeq receivers inUse
    intro other call h sending
    have first := tidy.turns.first other
      (by rw [show s.calls.lookup other = some call from (Option.filter_eq_some_iff.mp h).1]; exact sending)
    rw [turn] at first
    exact (Option.some.inj first).symm
  | @refuses frame timeout transport seq turn isClosed =>
    have absent : seq ∉ s.waiters := by simp [queued.waits id _ seq (requested rfl) rfl, Call.mail?]
    exact ends rfl rfl (.inr (by simp))
  | writes write =>
    exact queued.goesOn (requested rfl) rfl requests rfl rfl rfl (fun _ => rfl) waiting nextSeq receivers inUse
  | awaits positive =>
    exact queued.goesOn (requested rfl) rfl requests rfl rfl rfl (fun _ => rfl) waiting nextSeq receivers inUse
  | fails => exact ends rfl rfl (.inr rfl)
  | replies sent => exact ends rfl rfl (.inl rfl)
  | closes sent => exact ends rfl rfl (.inl rfl)
  | expiresAtOnce => exact ends rfl rfl (.inr rfl)
  | expires late => exact ends rfl rfl (.inr rfl)
  | orphansRequest => exact ends rfl rfl (.inl rfl)
  | writesAlone write => exact other rfl rfl rfl
  | endsAlone => exact other rfl rfl rfl
  | orphansAlone => exact other rfl rfl rfl
  | writesOrphan write => exact other rfl rfl rfl
  | leaves begun =>
    cases seq : old.seq? with
    | none => exact other seq rfl rfl
    | some n => exact ends seq rfl (.inl rfl)

theorem Move.queued {s s' : Session} {action : Action} (move : Move s action s') (tidy : s.Tidy)
    (linked : s.Linked) (queued : s.Queued) : s'.Queued := by
  have route_of_active {link : ActiveLink} (active : s.active = some link) :
      link.transport ∈ s.receivers.map (·.transport) :=
    List.mem_map.mpr ⟨_, linked.active_receiver link active, rfl⟩
  have alone {s' : Session} {call : Call} (single : call.seq? = none) (sends : call.isLifecycle = false)
      (calls : s'.calls = s.calls ++ [(s.nextCall, call)]) (waiters : s'.waiters = s.waiters)
      (nextSeq : s'.nextSeq = s.nextSeq) (receivers : s'.receivers = s.receivers)
      (active : s'.active = s.active) : s'.Queued :=
    queued.congr (request?_add_other tidy single calls) waiters nextSeq (by simp [receivers])
      (fun i _ => (inUse_congr (attempt?_add_sending tidy sends calls) active i).mpr)
  have dropped {s' : Session} {id : Nat} {old new : Call} (present : s.call? id = some old)
      (single : old.isLifecycle = true) (single' : new.seq? = none)
      (calls : s'.calls = (s.calls.handMail .dropped (· ∈ s.waiters)).replace id new) (waiters : s'.waiters = [])
      (nextSeq : s'.nextSeq = s.nextSeq) (receivers : s'.receivers = s.receivers) : s'.Queued :=
    queued.drops (request?_handMail_replace present single single' calls) waiters nextSeq (by rw [receivers])
  have proceeds {s' : Session} {id : Nat} {old new : Call} (present : s.call? id = some old)
      (single : old.isLifecycle = true) (single' : new.isLifecycle = true) (idle : old.releasing? = none)
      (calls : s'.calls = s.calls.replace id new) (waiters : s'.waiters = s.waiters)
      (nextSeq : s'.nextSeq = s.nextSeq) (receivers : s'.receivers = s.receivers)
      (active : s'.active = s.active) : s'.Queued := by
    have quiet : new.seq? = none := by cases new <;> simp_all [Call.isLifecycle, Call.seq?]
    refine queued.congr (request?_replace present single quiet calls) waiters nextSeq (by simp [receivers]) ?_
    intro i _ used
    exact (used.replaced (attempt?_of_call? present single) (attempt?_goesOn present single' calls)
      fun _ => active.trans).resolve_right (by simp [idle])
  cases move with
  | refusesSend isClosed => exact alone rfl rfl rfl rfl rfl rfl rfl
  | refusesRequest isClosed => exact alone rfl rfl rfl rfl rfl rfl rfl
  | sends active isOpen => exact alone rfl rfl rfl rfl rfl rfl rfl
  | requests active isOpen =>
    refine queued.adds tidy rfl rfl rfl rfl (route_of_active active) rfl rfl rfl ?_
    exact inUse_congr (attempt?_add_sending tidy rfl rfl) rfl
  | connects =>
    exact queued.congr (request?_add_other tidy rfl rfl) rfl rfl (fun _ => id) (fun i _ used => used.added tidy rfl rfl)
  | disconnects =>
    exact queued.congr (request?_add_other tidy rfl rfl) rfl rfl (fun _ => id) (fun i _ used => used.added tidy rfl rfl)
  | advances present advance =>
    exact advance.queued tidy linked queued present rfl rfl rfl rfl
      (inUse_congr (attempt?_update present advance.sends rfl) rfl)
  | takes present turn stage =>
    rcases stage with ⟨transport, rfl, rfl⟩ | ⟨rfl, rfl⟩
    · exact queued.congr (request?_replace present rfl rfl rfl) rfl rfl (fun _ => by rw [takeActive_routes]; exact id)
        (fun i _ used => used.taken (attempt?_of_call? present rfl) (attempt?_goesOn present rfl rfl) rfl rfl)
    · exact queued.congr (request?_replace present rfl rfl rfl) rfl rfl (fun _ => by rw [takeActive_routes]; exact id)
        (fun i _ used => used.taken (attempt?_of_call? present rfl) (attempt?_goesOn present rfl rfl) rfl rfl)
  | reopens present => exact dropped present rfl rfl rfl rfl rfl rfl
  | disconnected present => exact dropped present rfl rfl rfl rfl rfl rfl
  | opens present => exact proceeds present rfl rfl rfl rfl rfl rfl rfl rfl
  | opensNot present => exact proceeds present rfl rfl rfl rfl rfl rfl rfl rfl
  | attachesNot present => exact proceeds present rfl rfl rfl rfl rfl rfl rfl rfl
  | installs present found attached =>
    have idle := linked.underway_idle _ _ (attempt?_of_call? present rfl) rfl
    refine queued.congr (request?_replace present rfl rfl rfl) rfl rfl (fun i h => by simp_all) (fun i _ used => ?_)
    refine Or.resolve_right (used.replaced (attempt?_of_call? present rfl) (attempt?_ends present rfl rfl) ?_) ?_
    · simp [idle]
    · simp [Call.releasing?]
  | @discards id transport cause present =>
    refine queued.congr (request?_replace present rfl rfl rfl) rfl rfl (fun _ h => h) (fun i routed used => ?_)
    refine Or.resolve_right
      (used.replaced (attempt?_of_call? present rfl) (attempt?_ends present rfl rfl) fun _ h => h) ?_
    rintro ⟨⟩
    exact linked.opening_unrouted id _ transport (attempt?_of_call? present rfl) rfl routed
  | reads found turned => exact queued.congr rfl rfl rfl (fun _ => id) (fun i _ => (inUse_congr rfl rfl i).mpr)
  | delivers known stage found taps takes first =>
    exact queued.delivers tidy first (request?_handMail rfl) rfl rfl rfl (inUse_congr (attempt?_handMail rfl) rfl)
  | publishes known stage found taps takes nobody =>
    exact queued.publishes tidy nobody rfl rfl rfl rfl (inUse_congr rfl rfl)
  | loses known stage found taps ended current =>
    refine queued.drops (request?_handMail rfl) rfl rfl ?_
    rw [updateReceiver_routes]
  | noticesLate known stage found taps ended past =>
    exact absurd (linked.current_of_listening known stage) (by simp [past])
  | releases known stage =>
    refine queued.congr rfl rfl rfl (fun i h => ?_) (fun i _ => (inUse_congr rfl rfl i).mpr)
    rwa [updateReceiver_routes]
  | ticks => exact queued.congr rfl rfl rfl (fun _ => id) (fun i _ => (inUse_congr rfl rfl i).mpr)
  | happens => exact queued.congr rfl rfl rfl (fun _ => id) (fun i _ => (inUse_congr rfl rfl i).mpr)
  | withholds => exact queued.congr rfl rfl rfl (fun _ => id) (fun i _ => (inUse_congr rfl rfl i).mpr)

end TagConsole.Session
