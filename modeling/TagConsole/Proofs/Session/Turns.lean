import TagConsole.Proofs.Session.Moves
import TagConsole.Proofs.Transport.Attachment

/-!
Calls are numbered without repetition, and each of the session's two queues holds the calls that it
should. On such a session every step is a move, and a move leads to such a session again.
-/

namespace TagConsole.Session

/-- A queue of the calls that want something; whoever has it stands first. -/
structure Queue (calls : Calls) (wants holds : Call → Bool) (queue : List Nat) : Prop where
  nodup : queue.Nodup
  mem_iff : ∀ id, id ∈ queue ↔ (calls.lookup id).any wants = true
  first : ∀ id, (calls.lookup id).any holds = true → queue.head? = some id

structure Tidy (s : Session) : Prop where
  ids_nodup : (s.calls.map (·.1)).Nodup
  ids_lt : ∀ id ∈ s.calls.map (·.1), id < s.nextCall
  lifecycle : Queue s.calls (·.isLifecycle) (·.isUnderway) s.lifecycle
  turns : Queue s.calls (·.wantsTurn) (·.isSending) s.turns

namespace Queue

variable {calls : Calls} {wants holds : Call → Bool} {queue : List Nat} {id : Nat}

theorem head?_erase {other : Nat} (first : queue.head? = some id) (different : id ≠ other) :
    (queue.erase other).head? = some id := by
  cases queue with
  | nil => cases first
  | cons front queue =>
    cases first
    rw [List.erase_cons_tail (by simpa using different)]
    rfl

theorem enter (q : Queue calls wants holds queue) (fresh : calls.lookup id = none) {call : Call}
    (waits : holds call = false) :
    Queue (calls ++ [(id, call)]) wants holds (if wants call then queue ++ [id] else queue) := by
  have absent : id ∉ queue := by simp [q.mem_iff, fresh]
  constructor
  · split
    · refine List.nodup_append.mpr ⟨q.nodup, by simp, ?_⟩
      intro other member fresh same
      simp only [List.mem_singleton] at same
      subst same
      rintro rfl
      exact absent member
    · exact q.nodup
  · intro other
    rw [Calls.lookup_add]
    by_cases same : other = id
    · subst same
      rw [fresh]
      split <;> simp_all
    · have old := q.mem_iff other
      split <;> simp [same, old]
  · intro other held
    rw [Calls.lookup_add] at held
    by_cases same : other = id
    · subst same
      simp [fresh, waits] at held
    · have first := q.first other (by simpa [same] using held)
      split
      · rw [List.head?_append, first]
        rfl
      · exact first

theorem update (q : Queue calls wants holds queue) {old : Call} (present : calls.lookup id = some old)
    {new : Option Call} (keeps : new.any wants = true → wants old = true)
    (turn : new.any holds = true → queue.head? = some id ∧ new.any wants = true) :
    Queue (calls.update id new) wants holds (if new.any wants then queue else queue.erase id) := by
  constructor
  · split
    · exact q.nodup
    · exact q.nodup.erase id
  · intro other
    rw [Calls.lookup_update, present, Option.bind_some]
    by_cases same : other = id
    · subst same
      by_cases wanted : new.any wants = true
      · have member : other ∈ queue := by simp [q.mem_iff, present, keeps wanted]
        simp [wanted, member]
      · have gone : other ∉ queue.erase other := q.nodup.not_mem_erase
        simp [wanted, gone]
    · have kept : other ∈ queue.erase id ↔ other ∈ queue := List.mem_erase_of_ne same
      split <;> simp [kept, q.mem_iff]
  · intro other held
    rw [Calls.lookup_update, present, Option.bind_some] at held
    by_cases same : other = id
    · subst same
      rw [if_pos rfl] at held
      rw [if_pos (turn held).2]
      exact (turn held).1
    · rw [if_neg same] at held
      have first := q.first other held
      split
      · exact first
      · exact head?_erase first same

theorem handMail (q : Queue calls wants holds queue) (mail : Mail) (chosen : Nat → Bool)
    (wants_mail : ∀ call : Call, wants (call.handMail mail chosen) = wants call)
    (holds_mail : ∀ call : Call, holds (call.handMail mail chosen) = holds call) :
    Queue (calls.handMail mail chosen) wants holds queue := by
  constructor
  · exact q.nodup
  · intro other
    rw [Calls.lookup_handMail, q.mem_iff]
    cases calls.lookup other <;> simp [wants_mail]
  · intro other held
    rw [Calls.lookup_handMail] at held
    apply q.first other
    cases present : calls.lookup other <;> simp_all

end Queue

section Fields

variable (s : Session)

theorem detach_eq (previous : Option Nat) :
    s.detach previous = { s with transports := (s.detach previous).transports } := by
  cases previous <;> rfl

theorem abort_eq (generation : Nat) :
    s.abort generation = { s with
      receivers := (s.abort generation).receivers, transports := (s.abort generation).transports } := by
  unfold abort
  split <;> rfl

theorem takeActive_eq :
    s.takeActive = (s.active.map (·.transport), { s with
      active := none, receivers := s.takeActive.2.receivers, transports := s.takeActive.2.transports }) := by
  unfold takeActive
  split
  · rename_i idle
    simp only [idle, Option.map_none]
    rw [← idle]
  · rename_i link active
    simp only [active, Option.map_some]
    rw [abort_eq]

theorem write_eq (transport : Nat) (frame : Wire.Frame) :
    s.write transport frame =
      ((s.write transport frame).1, { s with bus := (s.write transport frame).2.bus }) := by
  unfold write
  split <;> rfl

end Fields

namespace Tidy

variable {s s' : Session} {id : Nat} {call : Call}

theorem erase_turns (tidy : s.Tidy) (present : s.call? id = some call) (no : call.wantsTurn = false) :
    s.turns.erase id = s.turns := by
  apply List.erase_of_not_mem
  rw [tidy.turns.mem_iff, show s.calls.lookup id = some call from present]
  simp [no]

theorem erase_lifecycle (tidy : s.Tidy) (present : s.call? id = some call)
    (no : call.isLifecycle = false) : s.lifecycle.erase id = s.lifecycle := by
  apply List.erase_of_not_mem
  rw [tidy.lifecycle.mem_iff, show s.calls.lookup id = some call from present]
  simp [no]

theorem lt_nextCall (tidy : s.Tidy) (present : s.call? id = some call) : id < s.nextCall :=
  tidy.ids_lt id (Calls.mem_ids_of_lookup present)

theorem call?_nextCall (tidy : s.Tidy) : s.call? s.nextCall = none := by
  cases h : s.call? s.nextCall with
  | none => rfl
  | some call => exact absurd (tidy.lt_nextCall h) (Nat.lt_irrefl _)

theorem finish_sending (tidy : s.Tidy) (present : s.call? id = some call)
    (no : call.isLifecycle = false) (outcome : Outcome) (waiters : List Nat) (bus : Link.Bus) :
    finish { s with waiters := waiters, bus := bus } id outcome =
      { s with
        calls := s.calls.update id (some (.ended outcome))
        turns := s.turns.erase id
        waiters := waiters
        bus := bus } := by
  have same := tidy.erase_lifecycle present no
  simp only [finish, setCall, Calls.update, same]

end Tidy

theorem not_isConnected_of_idle {s : Session} (idle : s.active = none) : s.isConnected = false := by
  simp [isConnected, transport?, idle]

theorem begin_move (s : Session) (operation : Operation) :
    Move s (.begin operation) (s.begin operation) := by
  cases operation with
  | connect kind target => exact .connects
  | disconnect => exact .disconnects
  | send frame =>
    simp only [begin]
    split
    · rename_i idle
      exact .refusesSend (not_isConnected_of_idle idle)
    · rename_i link active
      split
      · rename_i isOpen
        exact .sends active isOpen
      · rename_i isClosed
        exact .refusesSend (Bool.eq_false_iff.mpr isClosed)
  | request frame timeout =>
    simp only [begin]
    split
    · rename_i idle
      exact .refusesRequest (not_isConnected_of_idle idle)
    · rename_i link active
      split
      · rename_i isOpen
        exact .requests active isOpen
      · rename_i isClosed
        exact .refusesRequest (Bool.eq_false_iff.mpr isClosed)

theorem begin_nextCall (s : Session) (operation : Operation) : (s.begin operation).nextCall = s.nextCall + 1 := by
  cases operation <;> simp only [begin] <;> (repeat' split) <;> rfl

section Resume

variable {s s' : Session} {id : Nat}

inductive Takes (s : Session) (transport device : Nat) : Except Transport.Error Nat × Session → Prop where
  | refused {t t' bus cause} (found : s.transports[transport]? = some t)
      (refused : t.attach s.config s.bus device = (.error cause, t', bus)) :
      Takes s transport device (.error cause, { s with
        bus := bus, transports := s.transports.modify transport fun _ => t' })
  | withheld {t t' bus} (found : s.transports[transport]? = some t)
      (attached : t.attach s.config s.bus device = (.ok (), t', bus)) (withholds : s.withholdsReceivers = true) :
      Takes s transport device (.error .notConnected, { s with
        bus := bus, transports := s.transports.modify transport fun _ => t' })
  | taken {t t' bus} (found : s.transports[transport]? = some t)
      (attached : t.attach s.config s.bus device = (.ok (), t', bus)) (handsOut : s.withholdsReceivers = false) :
      Takes s transport device (.ok (t'.readers.length - 1), { s with
        bus := bus, transports := s.transports.modify transport fun _ => { t' with hasReceiver := false } })

theorem takeInUse_takes {transport device : Nat} {result : Except Transport.Error Nat × Session}
    (h : s.takeInUse transport device = some result) : Takes s transport device result := by
  simp only [takeInUse, Option.bind_eq_bind, Option.bind_eq_some_iff] at h
  obtain ⟨t, found, h⟩ := h
  split at h
  · rename_i refused
    cases h
    exact .refused found refused
  · rename_i t' bus attached
    by_cases withholds : s.withholdsReceivers = true
    · rw [if_pos withholds] at h
      cases h
      exact .withheld found attached withholds
    · have hasReceiver : t'.hasReceiver = true := by rw [(Transport.attach_ok attached).1]
      rw [if_neg withholds, Transport.takeReceiver, if_pos hasReceiver] at h
      cases h
      exact .taken found attached (Bool.eq_false_iff.mpr withholds)

theorem exists_takeInUse {transport : Nat} {t : Transport} (found : s.transports[transport]? = some t) (device : Nat) :
    ∃ result, s.takeInUse transport device = some result := by
  simp only [takeInUse, found, Option.bind_eq_bind, Option.bind_some]
  split
  · exact ⟨_, rfl⟩
  · split <;> exact ⟨_, rfl⟩

theorem resumeConnect_move (tidy : s.Tidy) {transport : Nat} {stage : Connecting}
    (present : s.call? id = some (.connect transport stage))
    (h : s.resumeConnect id transport stage = some s') : Move s (.resume id) s' := by
  have turns : s.turns.erase id = s.turns := tidy.erase_turns present rfl
  cases stage with
  | waiting =>
    simp only [resumeConnect] at h
    split at h
    · rename_i turn
      rw [takeActive_eq] at h
      cases h
      exact .takes present turn (.inl ⟨transport, rfl, rfl⟩)
    · cases h
  | releasing previous =>
    simp only [resumeConnect, Option.some.injEq] at h
    rw [detach_eq] at h
    subst h
    exact .reopens present
  | opening => cases h
  | opened result =>
    cases result with
    | error cause =>
      cases h
      exact .opensNot present
    | ok device =>
      simp only [resumeConnect, Option.bind_eq_bind, Option.bind_eq_some_iff] at h
      obtain ⟨result, taken, h⟩ := h
      cases takeInUse_takes taken with
      | refused found refused =>
        cases h
        exact .attachesNot present found (.inl refused)
      | withheld found attached withholds =>
        cases h
        exact .attachesNot present found (.inr ⟨attached, withholds, rfl⟩)
      | taken found attached handsOut =>
        cases h
        simp only [finish, publish, setCall, install, spawn, activate, turns]
        exact .installs present found attached handsOut
  | discarding cause =>
    simp only [resumeConnect, Option.some.injEq] at h
    subst h
    simp only [finish, publish, setCall, detach, updateTransport, turns]
    exact .discards present

theorem resumeDisconnect_move (tidy : s.Tidy) {stage : Disconnecting}
    (present : s.call? id = some (.disconnect stage))
    (h : s.resumeDisconnect id stage = some s') : Move s (.resume id) s' := by
  have turns : s.turns.erase id = s.turns := tidy.erase_turns present rfl
  cases stage with
  | waiting =>
    simp only [resumeDisconnect] at h
    split at h
    · rename_i turn
      rw [takeActive_eq] at h
      cases h
      exact .takes present turn (.inr ⟨rfl, rfl⟩)
    · cases h
  | releasing previous =>
    simp only [resumeDisconnect, Option.some.injEq] at h
    rw [detach_eq] at h
    subst h
    simp only [finish, publish, setCall, failWaiters, handMail, turns]
    exact .disconnected present

theorem resumeSend_move (tidy : s.Tidy) {frame : Wire.Frame} {stage : Sending}
    (present : s.call? id = some (.send frame stage)) (h : s.resumeSend id stage = some s') :
    Move s (.resume id) s' := by
  have finished := tidy.finish_sending present rfl
  cases stage with
  | writing transport => cases h
  | written result =>
    cases result with
    | ok _ =>
      simp only [resumeSend, Option.some.injEq] at h
      have same := finished .done s.waiters s.bus
      rw [show { s with waiters := s.waiters, bus := s.bus } = s from rfl, h] at same
      rw [same]
      exact .advances present .endsAlone
    | error cause =>
      simp only [resumeSend, Option.some.injEq] at h
      have same := finished (.failed (.send cause)) s.waiters s.bus
      rw [show { s with waiters := s.waiters, bus := s.bus } = s from rfl, h] at same
      rw [same]
      exact .advances present .endsAlone

theorem giveUp_move (tidy : s.Tidy) {action : Action} {call : Call} {seq : Nat} {error : Error}
    {waiters : List Nat} (present : s.call? id = some call) (sends : call.isLifecycle = false)
    (advance : Advance s id action call (some (.ended (.failed error))) (waiters.filter (· ≠ seq)) s.bus) :
    Move s action (giveUp { s with waiters := waiters } id seq error) := by
  have same := tidy.finish_sending present sends (.failed error) (waiters.filter (· ≠ seq)) s.bus
  rw [giveUp, forget]
  rw [show ({ s with waiters := waiters.filter (· ≠ seq) } : Session) =
    { s with waiters := waiters.filter (· ≠ seq), bus := s.bus } from rfl, same]
  exact .advances present advance

theorem resumeRequest_move (tidy : s.Tidy) {frame : Wire.Frame} {timeout : Nat} {stage : Requesting}
    (present : s.call? id = some (.request frame timeout stage))
    (h : s.resumeRequest id frame timeout stage = some s') : Move s (.resume id) s' := by
  cases stage with
  | queueing transport seq =>
    simp only [resumeRequest] at h
    split at h
    · rename_i turn
      split at h
      · rename_i isOpen
        cases h
        exact .advances present (.registers turn isOpen)
      · rename_i isClosed
        cases h
        exact giveUp_move tidy present rfl (.refuses turn (Bool.eq_false_iff.mpr isClosed))
    · cases h
  | registered transport seq mail progress =>
    have give {error : Error} (advance : Advance s id (.resume id)
        (.request frame timeout (.registered transport seq mail progress))
        (some (.ended (.failed error))) (s.waiters.filter (· ≠ seq)) s.bus) :=
      giveUp_move tidy present rfl advance
    have finished (outcome : Outcome) := tidy.finish_sending present rfl outcome s.waiters s.bus
    have same : ({ s with waiters := s.waiters, bus := s.bus } : Session) = s := rfl
    rw [same] at finished
    cases progress with
    | writing => cases h
    | written result =>
      cases result with
      | error cause =>
        cases h
        exact give .fails
      | ok _ =>
        cases mail with
        | reply reply =>
          cases h
          rw [finished]
          exact .advances present (.replies rfl)
        | dropped =>
          cases h
          rw [finished]
          exact .advances present (.closes rfl)
        | empty =>
          simp only [resumeRequest] at h
          split at h
          · rename_i atOnce
            cases h
            subst atOnce
            exact give .expiresAtOnce
          · rename_i positive
            cases h
            exact .advances present (.awaits positive)
    | awaiting deadline =>
      cases mail with
      | reply reply =>
        cases h
        rw [finished]
        exact .advances present (.replies rfl)
      | dropped =>
        cases h
        rw [finished]
        exact .advances present (.closes rfl)
      | empty => cases h

theorem resume_move (tidy : s.Tidy) (h : s.resume id = some s') : Move s (.resume id) s' := by
  cases present : s.call? id with
  | none => simp [resume, present] at h
  | some call =>
    simp only [resume, present, Option.bind_eq_bind, Option.bind_some] at h
    cases call with
    | connect transport stage => exact resumeConnect_move tidy present h
    | disconnect stage => exact resumeDisconnect_move tidy present h
    | send frame stage => exact resumeSend_move tidy present h
    | request frame timeout stage => exact resumeRequest_move tidy present h
    | orphan transport frame => cases h
    | ended outcome => cases h

theorem work_move (tidy : s.Tidy) (h : s.work id = some s') : Move s (.work id) s' := by
  cases present : s.call? id with
  | none => simp [work, present] at h
  | some call =>
    simp only [work, present, Option.bind_eq_bind, Option.bind_some] at h
    split at h
    · rename_i transport
      cases found : s.transports[transport]? with
      | none => simp [found] at h
      | some t =>
        simp only [found, Option.bind_some, Option.some.injEq] at h
        subst h
        exact .opens present found rfl
    · rename_i frame transport
      have written := write_eq s transport frame
      have turns := tidy.erase_turns present rfl
      rw [written] at h
      cases h
      have move := Move.advances present (.writesAlone written)
      simp only [Option.any_some, Call.wantsTurn, Bool.false_eq_true, if_false, turns] at move
      exact move
    · rename_i frame timeout transport seq mail
      have written := write_eq s transport frame
      rw [written] at h
      cases h
      exact .advances present (.writes written)
    · rename_i transport frame
      have written := write_eq s transport frame
      have turns := tidy.erase_turns present rfl
      rw [written] at h
      cases h
      have move := Move.advances present (.writesOrphan written)
      simp only [Option.any_none, Bool.false_eq_true, if_false, turns] at move
      exact move
    · cases h

theorem expire_move (tidy : s.Tidy) (h : s.expire id = some s') : Move s (.expire id) s' := by
  cases present : s.call? id with
  | none => simp [expire, present] at h
  | some call =>
    simp only [expire, present, Option.bind_eq_bind, Option.bind_some] at h
    split at h
    · rename_i timeout transport seq deadline
      split at h
      · rename_i late
        cases h
        exact giveUp_move tidy present rfl (.expires late)
      · cases h
    · cases h

theorem cancel_move (h : s.cancel id = some s') : Move s (.cancel id) s' := by
  cases present : s.call? id with
  | none => simp [cancel, present] at h
  | some call =>
    simp only [cancel, present, Option.bind_eq_bind, Option.bind_some] at h
    split at h
    · cases h
    · cases h
    · cases h
    · cases h
      exact .advances present .orphansAlone
    · cases h
      exact .advances present .orphansRequest
    · cases h
      exact .advances present (.leaves rfl)
    · cases h
      exact .advances present (.leaves rfl)
    · cases h
      exact .advances present (.leaves rfl)

theorem read_move {transport reader : Nat} (h : s.read transport reader = some s') :
    Move s (.read transport reader) s' := by
  cases found : s.transports[transport]? with
  | none => simp [read, found] at h
  | some t =>
    simp only [read, found, Option.bind_eq_bind, Option.bind_some, Option.bind_eq_some_iff,
      Option.pure_def, Option.some.injEq] at h
    obtain ⟨⟨t', bus⟩, turned, rfl⟩ := h
    exact .reads found turned

theorem receive_move {generation : Nat} (h : s.receive generation = some s') :
    Move s (.receive generation) s' := by
  cases known : s.receiver? generation with
  | none => simp [receive, known] at h
  | some receiver =>
    simp only [receive, known, Option.bind_eq_bind, Option.bind_some] at h
    split at h
    · cases h
    · rename_i stage
      cases h
      exact .releases known stage
    · rename_i stage
      simp only [Option.bind_eq_some_iff] at h
      obtain ⟨t, found, reader, taps, h⟩ := h
      split at h
      · rename_i frame reader' takes
        simp only [dispatch, isLive, updateTransport, Option.pure_def, Option.some.injEq] at h
        split at h
        · rename_i queue
          subst h
          exact .publishes known stage found taps takes queue
        · rename_i seq later queue
          subst h
          exact .delivers known stage found taps takes queue
      · split at h
        · rename_i ended
          by_cases current : s.active.any (·.generation = generation) = true
          · simp only [linkEnded, takeLost, current, if_true, Option.pure_def, Option.some.injEq] at h
            subst h
            exact .loses known stage found taps ended current
          · simp only [linkEnded, takeLost, current, Option.pure_def, Option.some.injEq] at h
            subst h
            exact .noticesLate known stage found taps ended (Bool.eq_false_iff.mpr current)
        · cases h

end Resume

namespace Advance

variable {s : Session} {id : Nat} {action : Action} {old : Call} {new : Option Call} {waiters : List Nat}
  {bus : Link.Bus}

theorem sends (advance : Advance s id action old new waiters bus) :
    old.isLifecycle = false ∧ new.any (·.isLifecycle) = false := by
  cases advance <;> simp_all [Call.isLifecycle]

theorem keeps_turn (advance : Advance s id action old new waiters bus)
    (wants : new.any (·.wantsTurn) = true) : old.wantsTurn = true := by
  cases advance <;> simp_all [Call.wantsTurn, Progress.isSending]

theorem sending_turn (advance : Advance s id action old new waiters bus) (tidy : s.Tidy)
    (present : s.call? id = some old) (sending : new.any (·.isSending) = true) :
    s.turns.head? = some id ∧ new.any (·.wantsTurn) = true := by
  have kept (h : old.isSending = true) : s.turns.head? = some id :=
    tidy.turns.first id (by rw [show s.calls.lookup id = some old from present]; simpa using h)
  cases advance with
  | registers turn isOpen => exact ⟨turn, rfl⟩
  | writes write => exact ⟨kept rfl, rfl⟩
  | awaits positive => cases sending
  | _ => simp [Call.isSending] at sending

end Advance

namespace Tidy

variable {s s' : Session} {action : Action}

theorem add (tidy : s.Tidy) {call : Call} (new : call.isUnderway = false) (idle : call.isSending = false)
    (calls : s'.calls = s.calls ++ [(s.nextCall, call)]) (nextCall : s'.nextCall = s.nextCall + 1)
    (lifecycle : s'.lifecycle = if call.isLifecycle then s.lifecycle ++ [s.nextCall] else s.lifecycle)
    (turns : s'.turns = if call.wantsTurn then s.turns ++ [s.nextCall] else s.turns) : s'.Tidy := by
  constructor
  · rw [calls, List.map_append, List.nodup_append]
    refine ⟨tidy.ids_nodup, by simp, ?_⟩
    intro id member fresh same
    simp only [List.map_cons, List.map_nil, List.mem_singleton] at same
    subst same
    have := tidy.ids_lt id member
    omega
  · intro id member
    rw [calls, List.map_append, List.mem_append] at member
    rw [nextCall]
    rcases member with member | member
    · have := tidy.ids_lt id member
      omega
    · simp only [List.map_cons, List.map_nil, List.mem_singleton] at member
      omega
  · rw [calls, lifecycle]
    exact tidy.lifecycle.enter tidy.call?_nextCall new
  · rw [calls, turns]
    exact tidy.turns.enter tidy.call?_nextCall idle

theorem update (tidy : s.Tidy) {id : Nat} {old : Call} {new : Option Call} (present : s.call? id = some old)
    (keeps_lifecycle : new.any (·.isLifecycle) = true → old.isLifecycle = true)
    (underway : new.any (·.isUnderway) = true → s.lifecycle.head? = some id ∧ new.any (·.isLifecycle) = true)
    (keeps_turn : new.any (·.wantsTurn) = true → old.wantsTurn = true)
    (sending : new.any (·.isSending) = true → s.turns.head? = some id ∧ new.any (·.wantsTurn) = true)
    (calls : s'.calls = s.calls.update id new) (nextCall : s'.nextCall = s.nextCall)
    (lifecycle : s'.lifecycle = if new.any (·.isLifecycle) then s.lifecycle else s.lifecycle.erase id)
    (turns : s'.turns = if new.any (·.wantsTurn) then s.turns else s.turns.erase id) : s'.Tidy := by
  have ids : (s'.calls.map (·.1)).Sublist (s.calls.map (·.1)) := by
    rw [calls]
    exact s.calls.ids_update id new
  constructor
  · exact tidy.ids_nodup.sublist ids
  · intro other member
    rw [nextCall]
    exact tidy.ids_lt other (ids.subset member)
  · rw [calls, lifecycle]
    exact tidy.lifecycle.update present keeps_lifecycle underway
  · rw [calls, turns]
    exact tidy.turns.update present keeps_turn sending

theorem update_lifecycle (tidy : s.Tidy) {id : Nat} {old new : Call} (present : s.call? id = some old)
    (connects : old.isLifecycle = true) (turn : s.lifecycle.head? = some id)
    (alone : new.wantsTurn = false) (calls : s'.calls = s.calls.replace id new)
    (nextCall : s'.nextCall = s.nextCall)
    (lifecycle : s'.lifecycle = if new.isLifecycle then s.lifecycle else s.lifecycle.erase id)
    (turns : s'.turns = s.turns) : s'.Tidy := by
  have wants : old.wantsTurn = false := by
    cases old <;> simp_all [Call.isLifecycle, Call.wantsTurn]
  have idle : new.isSending = false :=
    Bool.eq_false_iff.mpr fun h => by simp [Call.wantsTurn_of_isSending h] at alone
  have calls : s'.calls = s.calls.update id (some new) := calls
  refine tidy.update present (fun _ => connects) ?_ ?_ ?_ calls nextCall lifecycle ?_
  · intro underway
    exact ⟨turn, Call.isLifecycle_of_isUnderway underway⟩
  · intro wanted
    simp [alone] at wanted
  · intro sending
    simp [idle] at sending
  · rw [turns, Option.any_some, alone]
    exact (tidy.erase_turns present wants).symm

theorem handMail (tidy : s.Tidy) {mail : Mail} {chosen : Nat → Bool}
    (calls : s'.calls = s.calls.handMail mail chosen) (nextCall : s'.nextCall = s.nextCall)
    (lifecycle : s'.lifecycle = s.lifecycle) (turns : s'.turns = s.turns) : s'.Tidy := by
  constructor
  · rw [calls, Calls.ids_handMail]
    exact tidy.ids_nodup
  · rw [calls, Calls.ids_handMail, nextCall]
    exact tidy.ids_lt
  · rw [calls, lifecycle]
    exact tidy.lifecycle.handMail mail chosen (by simp) (by simp)
  · rw [calls, turns]
    exact tidy.turns.handMail mail chosen (by simp) (by simp)

end Tidy

/-- Every step is a move. -/
theorem step_move {s s' : Session} {action : Action} (tidy : s.Tidy) (h : s.step action = some s') :
    Move s action s' := by
  cases action with
  | begin operation =>
    cases h
    exact begin_move s operation
  | resume call => exact resume_move tidy h
  | work call => exact work_move tidy h
  | expire call => exact expire_move tidy h
  | cancel call => exact cancel_move h
  | read transport reader => exact read_move h
  | receive generation => exact receive_move h
  | tick ms =>
    cases h
    exact .ticks
  | happen event =>
    cases h
    exact .happens
  | withhold on =>
    cases h
    exact .withholds

theorem Move.config_eq {s s' : Session} {action : Action} (move : Move s action s') : s'.config = s.config := by
  cases move <;> rfl

theorem Move.generation_le {s s' : Session} {action : Action} (move : Move s action s') :
    s.generation ≤ s'.generation := by
  cases move <;> simp [withhold, updateReceiver]

theorem Move.next_le {s s' : Session} {action : Action} (move : Move s action s') :
    s.nextCall ≤ s'.nextCall ∧ s.nextSeq ≤ s'.nextSeq := by
  cases move <;> exact ⟨by simp [withhold, updateReceiver], by simp [withhold, updateReceiver]⟩

theorem Move.tidy {s s' : Session} {action : Action} (move : Move s action s') (tidy : s.Tidy) : s'.Tidy := by
  have first {id : Nat} {call : Call} (present : s.call? id = some call) (underway : call.isUnderway = true) :
      s.lifecycle.head? = some id :=
    tidy.lifecycle.first id (by rw [show s.calls.lookup id = some call from present]; exact underway)
  have mailed {mail : Mail} {chosen : Nat → Bool} : Tidy { s with calls := s.calls.handMail mail chosen } :=
    tidy.handMail rfl rfl rfl rfl
  have kept {id : Nat} {call : Call} {mail : Mail} {chosen : Nat → Bool} (present : s.call? id = some call) :
      call? { s with calls := s.calls.handMail mail chosen } id = some (call.handMail mail chosen) := by
    rw [call?, Calls.lookup_handMail, show s.calls.lookup id = some call from present]
    rfl
  cases move with
  | refusesSend isClosed => exact tidy.add rfl rfl rfl rfl rfl rfl
  | refusesRequest isClosed => exact tidy.add rfl rfl rfl rfl rfl rfl
  | sends active isOpen => exact tidy.add rfl rfl rfl rfl rfl rfl
  | requests active isOpen => exact tidy.add rfl rfl rfl rfl rfl rfl
  | connects => exact tidy.add rfl rfl rfl rfl rfl rfl
  | disconnects => exact tidy.add rfl rfl rfl rfl rfl rfl
  | @advances _ id old new _ _ present advance =>
    have single := advance.sends
    refine tidy.update present ?_ ?_ advance.keeps_turn (advance.sending_turn tidy present) rfl rfl ?_ rfl
    · simp [single.2]
    · intro underway
      cases new with
      | none => cases underway
      | some call => exact absurd (Call.isLifecycle_of_isUnderway underway) (by simpa using single.2)
    · rw [single.2]
      exact (tidy.erase_lifecycle present single.1).symm
  | takes present turn stage =>
    rcases stage with ⟨transport, rfl, rfl⟩ | ⟨rfl, rfl⟩
    · exact tidy.update_lifecycle present rfl turn rfl rfl rfl rfl rfl
    · exact tidy.update_lifecycle present rfl turn rfl rfl rfl rfl rfl
  | reopens present =>
    exact mailed.update_lifecycle (kept present) rfl (first present rfl) rfl rfl rfl rfl rfl
  | disconnected present =>
    exact mailed.update_lifecycle (kept present) rfl (first present rfl) rfl rfl rfl rfl rfl
  | opens present => exact tidy.update_lifecycle present rfl (first present rfl) rfl rfl rfl rfl rfl
  | opensNot present => exact tidy.update_lifecycle present rfl (first present rfl) rfl rfl rfl rfl rfl
  | attachesNot present => exact tidy.update_lifecycle present rfl (first present rfl) rfl rfl rfl rfl rfl
  | installs present => exact tidy.update_lifecycle present rfl (first present rfl) rfl rfl rfl rfl rfl
  | discards present => exact tidy.update_lifecycle present rfl (first present rfl) rfl rfl rfl rfl rfl
  | delivers => exact tidy.handMail rfl rfl rfl rfl
  | loses => exact tidy.handMail rfl rfl rfl rfl
  | _ => exact ⟨tidy.ids_nodup, tidy.ids_lt, tidy.lifecycle, tidy.turns⟩

end TagConsole.Session
