import TagConsole.Proofs.Session.Runs

/-!
What one step can make of a request.
-/

namespace TagConsole.Session

open Wire (Frame)

theorem not_inUse_of_released {s s' : Session} {id : Nat} {old new : Call} {mail : Mail} {chosen : Nat → Bool}
    (tidy : s.Tidy) (linked : s.Linked) (present : s.call? id = some old) (connects : old.isLifecycle = true)
    (underway : old.isUnderway = true) (calls : s'.calls = (s.calls.handMail mail chosen).replace id new)
    (idle : new.releasing? = none) (active : s'.active = s.active) (i : Nat) : ¬ s'.InUse i := by
  have known := attempt?_of_call? present connects
  rintro (⟨generation, used⟩ | ⟨other, call, present', releases⟩)
  · rw [active, linked.underway_idle id old known underway] at used
    cases used
  · rw [attempt?_handMail_replace present calls] at present'
    split at present'
    · rw [← Option.some.inj (Option.filter_eq_some_iff.mp present').1, idle] at releases
      cases releases
    · rename_i apart
      have first := tidy.lifecycle_first present' (Call.isUnderway_of_releasing? releases)
      rw [tidy.lifecycle_first known underway] at first
      exact apart (Option.some.inj first).symm

theorem not_inUse_of_lost {s s' : Session} {mail : Mail} {chosen : Nat → Bool} (linked : s.Linked)
    (current : s.active.isSome = true) (calls : s'.calls = s.calls.handMail mail chosen) (idle : s'.active = none)
    (i : Nat) : ¬ s'.InUse i := by
  rintro (⟨generation, used⟩ | ⟨other, call, present, releases⟩)
  · rw [idle] at used
    cases used
  · rw [attempt?_handMail calls] at present
    rw [linked.underway_idle other call present (Call.isUnderway_of_releasing? releases)] at current
    cases current

inductive RequestChange (s : Session) (action : Action) (s' : Session) : Prop where
  | same (requests : s'.request? = s.request?)
  | replied {frame n}
      (requests : ∀ other, s'.request? other = (s.request? other).map (·.handMail (.reply frame) (· = n)))
  | dropped (requests : ∀ other, s'.request? other = (s.request? other).map (·.handMail .dropped (· ∈ s.waiters)))
      (waiters : s'.waiters = []) (unused : ∀ i, ¬ s'.InUse i)
  | added {frame timeout link} (begun : action = .begin (.request frame timeout)) (active : s.active = some link)
      (calls : s'.calls = s.calls ++ [(s.nextCall, .request frame timeout (.queueing link.transport s.nextSeq))])
  | advanced {id old new waiters bus} (present : s.call? id = some old)
      (advance : Advance s id action old new waiters bus) (calls : s'.calls = s.calls.update id new)

theorem Move.requestChange {s s' : Session} {action : Action} (move : Move s action s') (tidy : s.Tidy)
    (linked : s.Linked) : RequestChange s action s' := by
  cases move with
  | refusesSend isClosed => exact .same (request?_add_other tidy rfl rfl)
  | refusesRequest isClosed => exact .same (request?_add_other tidy rfl rfl)
  | sends active isOpen => exact .same (request?_add_other tidy rfl rfl)
  | requests active isOpen => exact .added rfl active rfl
  | connects => exact .same (request?_add_other tidy rfl rfl)
  | disconnects => exact .same (request?_add_other tidy rfl rfl)
  | advances present advance => exact .advanced present advance rfl
  | takes present turn stage =>
    rcases stage with ⟨transport, rfl, rfl⟩ | ⟨rfl, rfl⟩
    · exact .same (request?_replace present rfl rfl rfl)
    · exact .same (request?_replace present rfl rfl rfl)
  | reopens present =>
    exact .dropped (request?_handMail_replace present rfl rfl rfl) rfl
      (not_inUse_of_released tidy linked present rfl rfl rfl rfl rfl)
  | disconnected present =>
    exact .dropped (request?_handMail_replace present rfl rfl rfl) rfl
      (not_inUse_of_released tidy linked present rfl rfl rfl rfl rfl)
  | opens present => exact .same (request?_replace present rfl rfl rfl)
  | opensNot present => exact .same (request?_replace present rfl rfl rfl)
  | attachesNot present => exact .same (request?_replace present rfl rfl rfl)
  | installs present found attached => exact .same (request?_replace present rfl rfl rfl)
  | discards present => exact .same (request?_replace present rfl rfl rfl)
  | delivers => exact .replied (request?_handMail rfl)
  | loses known stage found taps ended current =>
    refine .dropped (request?_handMail rfl) rfl (not_inUse_of_lost linked ?_ rfl rfl)
    exact Option.isSome_of_any current
  | _ => exact .same rfl

/-- What a step leaves of a request that goes on: its number and its transport, and its mail unless it is
    registered or handed some. What has been written stays so. -/
structure Call.Next (call call' : Call) : Prop where
  seq : call'.seq? = call.seq?
  route : call'.route? = call.route?
  sent : call.isSent = true → call'.isSent = true
  mail : call'.mail? = call.mail? ∨ (call.mail? = none ∧ call'.mail? = some .empty) ∨
    (call.mail? = some .empty ∧ ∃ mail, call'.mail? = some mail)

theorem Call.next_refl (call : Call) : call.Next call := ⟨rfl, rfl, id, .inl rfl⟩

theorem Call.next_handMail (call : Call) (mail : Mail) (chosen : Nat → Bool) :
    call.Next (call.handMail mail chosen) := by
  refine ⟨call.seq?_handMail mail chosen, call.route?_handMail mail chosen, by simp, ?_⟩
  rw [Call.mail?_handMail]
  split
  · rename_i waits
    exact .inr (.inr ⟨waits.1, mail, rfl⟩)
  · exact .inl rfl

structure Begun (s : Session) (action : Action) (s' : Session) (id : Nat) (call : Call) : Prop where
  action : ∃ frame timeout, action = .begin (.request frame timeout)
  id : id = s.nextCall
  seq : call.seq? = some s.nextSeq
  mail : call.mail? = none
  link : ∃ link, s.active = some link ∧ call.route? = some link.transport

namespace RequestChange

variable {s s' : Session} {action : Action} {id : Nat} {call call' : Call}

theorem before (change : RequestChange s action s') (tidy : s.Tidy) (present : s'.request? id = some call') :
    Begun s action s' id call' ∨ ∃ call, s.request? id = some call ∧ call.Next call' := by
  cases change with
  | same requests => exact .inr ⟨call', by rwa [← requests], call'.next_refl⟩
  | replied requests =>
    rw [requests, Option.map_eq_some_iff] at present
    obtain ⟨call, present, rfl⟩ := present
    exact .inr ⟨call, present, call.next_handMail _ _⟩
  | dropped requests =>
    rw [requests, Option.map_eq_some_iff] at present
    obtain ⟨call, present, rfl⟩ := present
    exact .inr ⟨call, present, call.next_handMail _ _⟩
  | added begun active calls =>
    rw [request?_add tidy calls] at present
    split at present
    · rename_i same
      cases present
      exact .inl ⟨⟨_, _, begun⟩, same, rfl, rfl, _, active, rfl⟩
    · exact .inr ⟨call', present, call'.next_refl⟩
  | @advanced id' old new waiters bus known advance calls =>
    rw [request?_update known calls] at present
    split at present
    · rename_i same
      subst same
      refine .inr ⟨old, request?_of_call? known ?_, ?_⟩
      · cases advance <;> first | rfl | cases present
      · cases advance <;> cases present
        · exact ⟨rfl, rfl, by rintro ⟨⟩, .inr (.inl ⟨rfl, rfl⟩)⟩
        · exact ⟨rfl, rfl, by rintro ⟨⟩, .inl rfl⟩
        · exact ⟨rfl, rfl, fun _ => rfl, .inl rfl⟩
    · exact .inr ⟨call', present, call'.next_refl⟩

/-- A request goes on, is given up by whoever made it, or ends as its mail and its write say. -/
theorem after (change : RequestChange s action s') (tidy : s.Tidy) (present : s.request? id = some call) :
    (∃ call', s'.request? id = some call' ∧ call.Next call') ∨
    (action = .cancel id ∧ (s'.call? id = none ∨ ∃ transport frame, s'.call? id = some (.orphan transport frame))) ∨
    ∃ outcome, s'.call? id = some (.ended outcome) ∧
      ((∃ reply, outcome = .reply reply ∧ call.mail? = some (.reply reply)) ∨
        (outcome = .failed .linkClosed ∧ call.mail? = some .dropped) ∨
        (∃ cause, outcome = .failed (.send cause) ∧ call.isSent = false) ∨
        (∃ waited, outcome = .failed (.timeout waited) ∧ call.mail? = some .empty)) := by
  cases change with
  | same requests => exact .inl ⟨call, by rwa [requests], call.next_refl⟩
  | replied requests => exact .inl ⟨_, by rw [requests, present]; rfl, call.next_handMail _ _⟩
  | dropped requests => exact .inl ⟨_, by rw [requests, present]; rfl, call.next_handMail _ _⟩
  | added begun active calls =>
    refine .inl ⟨call, ?_, call.next_refl⟩
    rw [request?_add tidy calls, if_neg, present]
    rintro rfl
    simp [request?, tidy.call?_nextCall] at present
  | @advanced id' old new waiters bus known advance calls =>
    by_cases same : id = id'
    · subst same
      have now : s'.call? id = new := by
        rw [call?, calls, Calls.lookup_update, if_pos rfl, show s.calls.lookup id = some old from known]
        rfl
      obtain ⟨known', sends⟩ := Option.filter_eq_some_iff.mp present
      rw [known, Option.some.injEq] at known'
      subst known'
      cases advance with
      | registers turn isOpen =>
        exact .inl ⟨_, request?_of_call? now rfl, rfl, rfl, by rintro ⟨⟩, .inr (.inl ⟨rfl, rfl⟩)⟩
      | writes write => exact .inl ⟨_, request?_of_call? now rfl, rfl, rfl, by rintro ⟨⟩, .inl rfl⟩
      | awaits positive => exact .inl ⟨_, request?_of_call? now rfl, rfl, rfl, fun _ => rfl, .inl rfl⟩
      | orphansRequest => exact .inr (.inl ⟨rfl, .inr ⟨_, _, now⟩⟩)
      | leaves begun => exact .inr (.inl ⟨rfl, .inl now⟩)
      | refuses turn isClosed => exact .inr (.inr ⟨_, now, .inr (.inr (.inl ⟨_, rfl, rfl⟩))⟩)
      | fails => exact .inr (.inr ⟨_, now, .inr (.inr (.inl ⟨_, rfl, rfl⟩))⟩)
      | replies sent => exact .inr (.inr ⟨_, now, .inl ⟨_, rfl, rfl⟩⟩)
      | closes sent => exact .inr (.inr ⟨_, now, .inr (.inl ⟨rfl, rfl⟩)⟩)
      | expiresAtOnce => exact .inr (.inr ⟨_, now, .inr (.inr (.inr ⟨_, rfl, rfl⟩))⟩)
      | expires late => exact .inr (.inr ⟨_, now, .inr (.inr (.inr ⟨_, rfl, rfl⟩))⟩)
      | _ => cases sends
    · exact .inl ⟨call, by rw [request?_update known calls, if_neg same, present], call.next_refl⟩

end RequestChange

theorem Advance.of_reply {s : Session} {action : Action} {id : Nat} {old : Call} {reply : Frame}
    {waiters : List Nat} {bus : Link.Bus}
    (advance : Advance s id action old (some (.ended (.reply reply))) waiters bus) :
    old.seq?.isSome = true ∧ old.mail? = some (.reply reply) := by
  generalize outcome : some (Call.ended (.reply reply)) = new at advance
  cases advance with
  | replies sent =>
    cases outcome
    exact ⟨rfl, rfl⟩
  | @endsAlone frame result => cases result <;> cases outcome
  | _ => cases outcome

inductive CallChange (s : Session) (action : Action) (s' : Session) (id : Nat) : Prop where
  | same (now : s'.call? id = s.call? id)
  | mailed {mail chosen} (now : s'.call? id = (s.call? id).map (·.handMail mail chosen))
  | begun {call} (new : id = s.nextCall) (now : s'.call? id = some call)
      (unanswered : ∀ reply, call ≠ .ended (.reply reply))
  | lifecycle {old new} (present : s.call? id = some old) (single : old.isLifecycle = true)
      (now : s'.call? id = some new) (unanswered : ∀ reply, new ≠ .ended (.reply reply))
  | advanced {old new waiters bus} (present : s.call? id = some old)
      (advance : Advance s id action old new waiters bus) (now : s'.call? id = new)

theorem Move.callChange {s s' : Session} {action : Action} (move : Move s action s') (tidy : s.Tidy) (id : Nat) :
    CallChange s action s' id := by
  have added {s' : Session} {call : Call} (calls : s'.calls = s.calls ++ [(s.nextCall, call)])
      (unanswered : ∀ reply, call ≠ .ended (.reply reply)) : CallChange s action s' id := by
    have now : s'.call? id = (s.call? id).or (if id = s.nextCall then some call else none) := by
      rw [call?, calls, Calls.lookup_add]
      rfl
    by_cases new : id = s.nextCall
    · rw [if_pos new, new, tidy.call?_nextCall, Option.none_or, ← new] at now
      exact .begun new now unanswered
    · rw [if_neg new, Option.or_none] at now
      exact .same now
  have goesOn {s' : Session} {id' : Nat} {old new : Call} (present : s.call? id' = some old)
      (single : old.isLifecycle = true) (calls : s'.calls = s.calls.replace id' new)
      (unanswered : ∀ reply, new ≠ .ended (.reply reply)) : CallChange s action s' id := by
    have now : s'.call? id = _ := (congrArg (List.lookup id) calls).trans (Calls.lookup_replace s.calls id' id new)
    by_cases own : id = id'
    · subst own
      rw [if_pos rfl, show s.calls.lookup id = some old from present, Option.map_some] at now
      exact .lifecycle present single now unanswered
    · rw [if_neg own] at now
      exact .same now
  have mailed {s' : Session} {id' : Nat} {old new : Call} {mail : Mail} {chosen : Nat → Bool}
      (present : s.call? id' = some old) (single : old.isLifecycle = true)
      (calls : s'.calls = (s.calls.handMail mail chosen).replace id' new)
      (unanswered : ∀ reply, new ≠ .ended (.reply reply)) : CallChange s action s' id := by
    have now : s'.call? id = _ :=
      (congrArg (List.lookup id) calls).trans (Calls.lookup_replace (s.calls.handMail mail chosen) id' id new)
    rw [Calls.lookup_handMail, Calls.lookup_handMail] at now
    by_cases own : id = id'
    · subst own
      rw [if_pos rfl, show s.calls.lookup id = some old from present] at now
      exact .lifecycle present single now unanswered
    · rw [if_neg own] at now
      exact .mailed now
  cases move with
  | refusesSend isClosed => exact added rfl (by simp)
  | refusesRequest isClosed => exact added rfl (by simp)
  | sends active isOpen => exact added rfl (by simp)
  | requests active isOpen => exact added rfl (by simp)
  | connects => exact added rfl (by simp)
  | disconnects => exact added rfl (by simp)
  | @advances _ id' old new waiters bus present advance =>
    have now := Calls.lookup_update s.calls id' id new
    by_cases own : id = id'
    · subst own
      rw [if_pos rfl, show s.calls.lookup id = some old from present, Option.bind_some] at now
      exact .advanced present advance now
    · rw [if_neg own] at now
      exact .same now
  | takes present turn stage =>
    rcases stage with ⟨transport, rfl, rfl⟩ | ⟨rfl, rfl⟩
    · exact goesOn present rfl rfl (by simp)
    · exact goesOn present rfl rfl (by simp)
  | reopens present => exact mailed present rfl rfl (by simp)
  | disconnected present => exact mailed present rfl rfl (by simp)
  | opens present => exact goesOn present rfl rfl (by simp)
  | opensNot present => exact goesOn present rfl rfl (by simp)
  | attachesNot present => exact goesOn present rfl rfl (by simp)
  | installs present found attached => exact goesOn present rfl rfl (by simp)
  | discards present => exact goesOn present rfl rfl (by simp)
  | delivers => exact .mailed (Calls.lookup_handMail ..)
  | loses => exact .mailed (Calls.lookup_handMail ..)
  | _ => exact .same rfl

namespace CallChange

variable {s s' : Session} {action : Action} {id : Nat}

theorem ended_reply (change : CallChange s action s' id) {reply : Frame}
    (ended : s'.call? id = some (.ended (.reply reply))) : s.call? id = some (.ended (.reply reply)) ∨
      ∃ call, s.request? id = some call ∧ call.mail? = some (.reply reply) := by
  cases change with
  | same now => exact .inl (now.symm.trans ended)
  | mailed now =>
    rw [now, Option.map_eq_some_iff] at ended
    obtain ⟨call, present, ended⟩ := ended
    rcases call.handMail_cases _ _ with h | ⟨_, _, _, _, _, rfl, _, h⟩
    · rw [h] at ended
      exact .inl (present.trans (congrArg some ended))
    · rw [h] at ended
      cases ended
  | begun new now unanswered => exact absurd (Option.some.inj (now.symm.trans ended)) (unanswered reply)
  | lifecycle present single now unanswered =>
    exact absurd (Option.some.inj (now.symm.trans ended)) (unanswered reply)
  | advanced present advance now =>
    rw [now] at ended
    subst ended
    exact .inr ⟨_, request?_of_call? present advance.of_reply.1, advance.of_reply.2⟩

theorem ended_stays (change : CallChange s action s' id) (tidy : s.Tidy) {outcome : Outcome}
    (ended : s.call? id = some (.ended outcome)) :
    s'.call? id = some (.ended outcome) ∨ (action = .cancel id ∧ s'.call? id = none) := by
  cases change with
  | same now => exact .inl (now.trans ended)
  | mailed now =>
    rw [ended] at now
    exact .inl now
  | begun new now unanswered => exact absurd (tidy.lt_nextCall ended) (by omega)
  | lifecycle present single now unanswered =>
    rw [ended] at present
    cases present
    cases single
  | advanced present advance now =>
    rw [ended] at present
    cases present
    cases advance
    exact .inr ⟨rfl, now⟩

theorem absent_stays (change : CallChange s action s' id) (absent : s.call? id = none) (old : id < s.nextCall) :
    s'.call? id = none := by
  cases change with
  | same now => rw [now, absent]
  | mailed now => rw [now, absent, Option.map_none]
  | begun new now unanswered => omega
  | lifecycle present single now unanswered => simp [absent] at present
  | advanced present advance now => simp [absent] at present

theorem queueing_stays (change : CallChange s action s' id) (tidy : s.Tidy) {frame : Frame} {timeout transport n : Nat}
    (present : s.call? id = some (.request frame timeout (.queueing transport n)))
    (closed : s.transports[transport]?.any (·.isConnected) = false) :
    s'.call? id = some (.request frame timeout (.queueing transport n)) ∨
      s'.call? id = some (.ended (.failed (.send .notConnected))) ∨ (action = .cancel id ∧ s'.call? id = none) := by
  cases change with
  | same now => exact .inl (now.trans present)
  | mailed now =>
    rw [present] at now
    exact .inl now
  | begun new now unanswered => exact absurd (tidy.lt_nextCall present) (by omega)
  | lifecycle present' single now unanswered =>
    rw [present] at present'
    cases present'
    cases single
  | advanced present' advance now =>
    rw [present] at present'
    cases present'
    cases advance with
    | registers turn isOpen => simp [closed] at isOpen
    | refuses turn isClosed => exact .inr (.inl now)
    | leaves begun => exact .inr (.inr ⟨rfl, now⟩)

end CallChange

end TagConsole.Session
