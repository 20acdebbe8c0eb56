import TagConsole.Proofs.Session.Isolation

/-!
How requests leave the queue of waiters. However a request returns, its number is gone from the queue for
good, the others stand there as before, and nothing else of the session has changed through it.
-/

namespace TagConsole.Session

open Wire (Frame)

section Own

variable {s s' : Session} {action : Action} {id timeout n : Nat} {frame : Frame} {stage : Requesting}

theorem Move.of_call {call : Call} (move : Move s action s') (present : s.call? id = some call)
    (sends : call.isLifecycle = false) (own : action.call? = some id) : ∃ new waiters bus,
      Advance s id action call new waiters bus ∧
      s' = { s with
        calls := s.calls.update id new
        turns := if new.any (·.wantsTurn) then s.turns else s.turns.erase id
        waiters := waiters
        bus := bus } := by
  have other {id' : Nat} {call' : Call} (known : s.call? id' = some call') (single : call'.isLifecycle = true)
      (same : id' = id) : False := by
    rw [same, present, Option.some.injEq] at known
    simp [← known, sends] at single
  cases move with
  | advances known advance =>
    obtain rfl : _ = id := Option.some.inj (advance.call?_eq.symm.trans own)
    obtain rfl := Option.some.inj (known.symm.trans present)
    exact ⟨_, _, _, advance, rfl⟩
  | takes known turn stage =>
    rcases stage with ⟨transport, rfl, -⟩ | ⟨rfl, -⟩
    · exact (other known rfl (Option.some.inj own)).elim
    · exact (other known rfl (Option.some.inj own)).elim
  | reopens known => exact (other known rfl (Option.some.inj own)).elim
  | disconnected known => exact (other known rfl (Option.some.inj own)).elim
  | opens known => exact (other known rfl (Option.some.inj own)).elim
  | opensNot known => exact (other known rfl (Option.some.inj own)).elim
  | attachesNot known => exact (other known rfl (Option.some.inj own)).elim
  | installs known => exact (other known rfl (Option.some.inj own)).elim
  | discards known => exact (other known rfl (Option.some.inj own)).elim
  | _ => cases own

theorem Move.of_request (move : Move s action s') (present : s.call? id = some (.request frame timeout stage))
    (own : action.call? = some id) : ∃ new waiters bus,
      Advance s id action (.request frame timeout stage) new waiters bus ∧
      s' = { s with
        calls := s.calls.update id new
        turns := if new.any (·.wantsTurn) then s.turns else s.turns.erase id
        waiters := waiters
        bus := bus } :=
  move.of_call present rfl own

theorem CallChange.own (change : CallChange s action s' id) (tidy : s.Tidy)
    (present : s.call? id = some (.request frame timeout stage)) {outcome : Outcome}
    (ended : s'.call? id = some (.ended outcome)) : action.call? = some id := by
  cases change with
  | same now => simp [now, present] at ended
  | mailed now =>
    rw [now, present, Option.map_some, Option.some.injEq] at ended
    rcases Call.handMail_cases (.request frame timeout stage) _ _ with same | ⟨_, _, _, _, _, -, _, same⟩
    · rw [same] at ended
      cases ended
    · rw [same] at ended
      cases ended
  | begun new => exact absurd (tidy.lt_nextCall present) (by omega)
  | lifecycle known single =>
    obtain rfl := Option.some.inj (known.symm.trans present)
    cases single
  | advanced known advance => exact advance.call?_eq

/-- How a request that waits so many milliseconds may return once it has a number. -/
inductive Outcome.Returned : Nat → Outcome → Prop where
  | reply {ms frame} : Returned ms (.reply frame)
  | linkClosed {ms} : Returned ms (.failed .linkClosed)
  | send {ms cause} : Returned ms (.failed (.send cause))
  | timeout {ms} : Returned ms (.failed (.timeout (.ofMillis ms)))

theorem Advance.returns {outcome : Outcome} {waiters : List Nat} {bus : Link.Bus}
    (advance : Advance s id action (.request frame timeout stage) (some (.ended outcome)) waiters bus)
    (queued : s.Queued) (present : s.call? id = some (.request frame timeout stage))
    (number : (Call.request frame timeout stage).seq? = some n) :
    waiters = s.waiters.filter (· ≠ n) ∧ bus = s.bus ∧ outcome.Returned timeout := by
  have waits := queued.waits id _ n (request?_of_call? present (by simp [number])) number
  -- whoever has been handed something is not in the queue any more
  have gone (handed : (Call.request frame timeout stage).mail? ≠ some .empty) :
      s.waiters = s.waiters.filter (· ≠ n) := by
    symm
    rw [List.filter_eq_self]
    intro k member
    simp only [ne_eq, decide_eq_true_eq]
    rintro rfl
    exact handed (waits.mp member)
  cases advance with
  | refuses =>
    cases number
    exact ⟨by simp, rfl, .send⟩
  | fails =>
    cases number
    exact ⟨rfl, rfl, .send⟩
  | replies => exact ⟨gone (by simp [Call.mail?]), rfl, .reply⟩
  | closes => exact ⟨gone (by simp [Call.mail?]), rfl, .linkClosed⟩
  | expiresAtOnce =>
    cases number
    exact ⟨rfl, rfl, .timeout⟩
  | expires =>
    cases number
    exact ⟨rfl, rfl, .timeout⟩

end Own

/-- The ways in which a number leaves the queue of waiters. -/
inductive Departs (m : Moment) (n : Nat) : Prop where
  | withdrawn {id frame timeout stage outcome} (present : m.before.call? id = some (.request frame timeout stage))
      (number : (Call.request frame timeout stage).seq? = some n) (ended : m.after.call? id = some (.ended outcome))
      (waiters : m.after.waiters = m.before.waiters.filter (· ≠ n))
  | answered {id frame dead later} (deliveries : m.deliveries = [⟨id, n, frame⟩])
      (queue : m.before.waiters = dead ++ n :: later) (abandoned : ∀ x ∈ dead, m.before.isLive x = false)
      (waiters : m.after.waiters = later)
  | discarded {generation frame} (arrival : m.arrival? = some (generation, frame))
      (abandoned : m.before.isLive n = false)
  | closed (torn : Torn m.before m.after)

theorem FrameChange.departs {m : Moment} {n : Nat} (change : FrameChange m) (arrives : m.arrival? ≠ none)
    (waits : n ∈ m.before.waiters) (gone : n ∉ m.after.waiters) : Departs m n := by
  cases change with
  | quiet arrival => exact absurd arrival arrives
  | registers arrival => exact absurd arrival arrives
  | delivers arrival registration deliveries inbound unsolicited queue abandoned live waiters =>
    rw [waiters] at gone
    rw [queue, List.mem_append, List.mem_cons] at waits
    rcases waits with dead | rfl | later
    · exact .discarded arrival (abandoned n dead)
    · exact .answered deliveries queue abandoned waiters
    · exact absurd later gone
  | publishes arrival registration deliveries inbound unsolicited abandoned waiters =>
    exact .discarded arrival (abandoned n waits)

theorem Move.departs {s s' : Session} {action : Action} {n : Nat} (move : Move s action s') (sound : s.Sound)
    (waits : n ∈ s.waiters) (gone : n ∉ s'.waiters) : Departs ⟨s, action, s'⟩ n := by
  have same (waiters : s'.waiters = s.waiters) : Departs ⟨s, action, s'⟩ n := absurd waits (waiters ▸ gone)
  have torn {s' : Session} {action : Action}
      (requests : ∀ other, s'.request? other = (s.request? other).map (·.handMail .dropped (· ∈ s.waiters)))
      (waiters : s'.waiters = []) (unused : ∀ i, ¬ s'.InUse i) : Departs ⟨s, action, s'⟩ n :=
    .closed ⟨waiters, requests, unused⟩
  cases move with
  | @advances _ id old new waiters bus present advance =>
    have now : call? { s with
        calls := s.calls.update id new
        turns := if new.any (·.wantsTurn) then s.turns else s.turns.erase id
        waiters := waiters
        bus := bus } id = new := by
      rw [call?, Calls.lookup_update, if_pos rfl, show s.calls.lookup id = some old from present]
      rfl
    have withdrawn {seq : Nat} (left : n ∉ s.waiters.filter (· ≠ seq)) : n = seq := by
      by_contra other
      exact left (List.mem_filter.mpr ⟨waits, by simpa using other⟩)
    cases advance with
    | registers => exact absurd (List.mem_append_left _ waits) gone
    | refuses =>
      obtain rfl : n = _ := withdrawn (by simpa [List.filter_append] using gone)
      exact .withdrawn present rfl now (by simp)
    | fails =>
      obtain rfl := withdrawn gone
      exact .withdrawn present rfl now rfl
    | expiresAtOnce =>
      obtain rfl := withdrawn gone
      exact .withdrawn present rfl now rfl
    | expires =>
      obtain rfl := withdrawn gone
      exact .withdrawn present rfl now rfl
    | _ => exact absurd waits gone
  | reopens present =>
    exact torn (request?_handMail_replace present rfl rfl rfl) rfl
      (not_inUse_of_released sound.tidy sound.linked present rfl rfl rfl rfl rfl)
  | disconnected present =>
    exact torn (request?_handMail_replace present rfl rfl rfl) rfl
      (not_inUse_of_released sound.tidy sound.linked present rfl rfl rfl rfl rfl)
  | loses known stage found taps ended current =>
    exact torn (request?_handMail rfl) rfl (not_inUse_of_lost sound.linked (Option.isSome_of_any current) rfl rfl)
  | delivers known stage found taps takes queue =>
    refine FrameChange.departs (frameChange (.delivers known stage found taps takes queue) sound.tidy sound.linked
      sound.queued) ?_ waits gone
    rw [arrival?_eq_some.mpr ⟨rfl, _, _, _, _, known, stage, found, taps, takes⟩]
    simp
  | publishes known stage found taps takes nobody =>
    refine FrameChange.departs (frameChange (.publishes known stage found taps takes nobody) sound.tidy sound.linked
      sound.queued) ?_ waits gone
    rw [arrival?_eq_some.mpr ⟨rfl, _, _, _, _, known, stage, found, taps, takes⟩]
    simp
  | _ => exact absurd waits gone

/-- A frame passes a request by: it goes to the oldest of the others that wait, or nobody waits for it. -/
inductive Elsewhere (m : Moment) (frame : Frame) (id n : Nat) : Prop where
  | another {id' n' dead later} (apart : id' ≠ id ∧ n' ≠ n) (deliveries : m.deliveries = [⟨id', n', frame⟩])
      (queue : m.before.waiters = dead ++ n' :: later) (abandoned : ∀ x ∈ dead, m.before.isLive x = false)
      (live : m.before.isLive n' = true) (unsolicited : m.after.unsolicited = m.before.unsolicited)
  | nobody (deliveries : m.deliveries = []) (abandoned : ∀ x ∈ m.before.waiters, m.before.isLive x = false)
      (unsolicited : m.after.unsolicited = m.before.unsolicited ++ [frame])

section Returned

variable {s s' : Session} {action : Action} {id n timeout : Nat} {frame : Frame} {stage : Requesting}

theorem request?_of_over {t : Session} {later : List Action} (sound : s.Sound) (old : id < s.nextCall)
    (gone : s.call? id = none ∨ ∃ outcome, s.call? id = some (.ended outcome)) (run : s.run later = some t) :
    t.request? id = none := by
  have fate := sound.run_induction (P := fun t _ => id < t.nextCall ∧
    (t.call? id = none ∨ ∃ outcome, t.call? id = some (.ended outcome))) ⟨old, gone⟩ ?_ run
  · rcases fate.2 with absent | ⟨outcome, ended⟩
    · simp [request?, absent]
    · simp [request?, ended, Option.filter, Call.seq?]
  · rintro before action after past sound ⟨old, gone⟩ stepped
    have move := step_move sound.tidy stepped
    refine ⟨Nat.lt_of_lt_of_le old move.next_le.1, ?_⟩
    have change := move.callChange sound.tidy id
    rcases gone with absent | ⟨outcome, ended⟩
    · exact .inl (change.absent_stays absent old)
    · rcases change.ended_stays sound.tidy ended with stays | ⟨-, absent⟩
      · exact .inr ⟨outcome, stays⟩
      · exact .inl absent

theorem FrameChange.elsewhere {m : Moment} {generation : Nat} (change : FrameChange m) (tidy : m.before.Tidy)
    (absent : n ∉ m.before.waiters) (gone : m.before.request? id = none)
    (arrival : m.arrival? = some (generation, frame)) : Elsewhere m frame id n := by
  cases change with
  | quiet none => simp [arrival] at none
  | registers none => simp [arrival] at none
  | @delivers _ _ id' n' dead later arrives registration deliveries inbound unsolicited queue abandoned live waiters =>
    obtain ⟨-, rfl⟩ := Prod.mk.inj (Option.some.inj (arrival.symm.trans arrives))
    refine .another ⟨?_, ?_⟩ deliveries queue abandoned live unsolicited
    · rintro rfl
      obtain ⟨call, present, seq, -⟩ := (mem_deliveries (d := ⟨id', n', frame⟩) tidy).mp (by simp [deliveries])
      have known := request?_of_call? present (by simp [seq])
      simp [gone] at known
    · rintro rfl
      exact absent (by simp [queue])
  | publishes arrives registration deliveries inbound unsolicited abandoned waiters =>
    obtain ⟨-, rfl⟩ := Prod.mk.inj (Option.some.inj (arrival.symm.trans arrives))
    exact .nobody deliveries abandoned unsolicited

structure Returned (s s' : Session) (id n timeout : Nat) (outcome : Outcome) : Prop where
  outcome : outcome.Returned timeout
  waiters : s'.waiters = s.waiters.filter (· ≠ n)
  gone : ∀ later t, s'.run later = some t → n ∉ t.waiters
  frames : ∀ later t generation frame t', s'.run later = some t → t.step (.receive generation) = some t' →
    Moment.arrival? ⟨t, .receive generation, t'⟩ = some (generation, frame) →
    Elsewhere ⟨t, .receive generation, t'⟩ frame id n

theorem Sound.returned (sound : s.Sound) (stepped : s.step action = some s')
    (present : s.call? id = some (.request frame timeout stage))
    (number : (Call.request frame timeout stage).seq? = some n) {outcome : Outcome}
    (ended : s'.call? id = some (.ended outcome)) : Returned s s' id n timeout outcome := by
  have move := step_move sound.tidy stepped
  have sound' := sound.step stepped
  have known := request?_of_call? present (by simp [number])
  have own := (move.callChange sound.tidy id).own sound.tidy present ended
  obtain ⟨new, waiters, bus, advance, after⟩ := move.of_request present own
  have calls : s'.calls = s.calls.update id new := by rw [after]
  obtain rfl : new = some (.ended outcome) := by
    rw [call?, calls, Calls.lookup_update, if_pos rfl, show s.calls.lookup id = some _ from present] at ended
    exact ended
  obtain ⟨left, -, returned⟩ := advance.returns sound.queued present number
  have waiters : s'.waiters = s.waiters.filter (· ≠ n) := by rw [after, ← left]
  have spent : s'.Spent n := by
    refine ⟨Nat.lt_of_lt_of_le (sound.queued.seq_lt id _ n known number) move.next_le.2, by simp [waiters], ?_⟩
    intro other call present' number'
    rw [request?_update present calls] at present'
    split at present'
    · simp [Option.filter, Call.seq?] at present'
    · rename_i apart
      exact absurd (sound.queued.seq_unique other call id _ n present' known number' number) apart
  have old : id < s'.nextCall := Nat.lt_of_lt_of_le (sound.tidy.lt_nextCall present) move.next_le.1
  refine ⟨returned, waiters, fun later t run => (spent.run sound' run).absent, ?_⟩
  intro later t generation frame t' run stepped' arrival
  have sound'' := sound'.run run
  refine FrameChange.elsewhere ?_ sound''.tidy (spent.run sound' run).absent
    (request?_of_over sound' old (.inr ⟨outcome, ended⟩) run) arrival
  exact (step_move sound''.tidy stepped').frameChange sound''.tidy sound''.linked sound''.queued

end Returned

theorem Sound.live_request {s : Session} {n : Nat} (sound : s.Sound) (live : s.isLive n = true) :
    ∃ id frame timeout stage, s.call? id = some (.request frame timeout stage) ∧
      (Call.request frame timeout stage).seq? = some n ∧
      ∀ other call, s.request? other = some call → call.seq? = some n → other = id := by
  obtain ⟨id, call, known, number, -⟩ := (isLive_iff sound.tidy n).mp live
  obtain ⟨present, -⟩ := Option.filter_eq_some_iff.mp known
  cases call with
  | request frame timeout stage =>
    exact ⟨id, frame, timeout, stage, present, number, fun other call known' number' =>
      sound.queued.seq_unique other call id _ n known' known number' number⟩
  | _ => cases number

/-- What holds for the requests of a session and its queue of waiters, whatever the next step is. -/
structure LeavesNothing (s : Session) : Prop where
  nodup : s.waiters.Nodup
  live : ∀ n ∈ s.waiters, s.isLive n = true → ∃ id frame timeout stage,
    s.call? id = some (.request frame timeout stage) ∧ (Call.request frame timeout stage).seq? = some n ∧
    ∀ other call, s.request? other = some call → call.seq? = some n → other = id
  refused : ∀ frame timeout, s.isConnected = false → s.step (.begin (.request frame timeout)) =
    some { s with nextCall := s.nextCall + 1, calls := s.calls ++ [(s.nextCall, .ended (.failed .notConnected))] }
  begins : ∀ frame timeout s', s.step (.begin (.request frame timeout)) = some s' → s'.active = s.active ∧
    s'.published = s.published ∧ s'.waiters = s.waiters ∧
    (s.isConnected = true → ∃ stage, s'.call? s.nextCall = some (.request frame timeout stage))
  /-- What a request does by itself concerns neither the status nor the link in use. -/
  keeps : ∀ action s' id frame timeout stage, s.step action = some s' → action.call? = some id →
    s.call? id = some (.request frame timeout stage) → s'.active = s.active ∧ s'.published = s.published
  returns : ∀ action s' id frame timeout stage n outcome, s.step action = some s' →
    s.call? id = some (.request frame timeout stage) → (Call.request frame timeout stage).seq? = some n →
    s'.call? id = some (.ended outcome) → Returned s s' id n timeout outcome
  departs : ∀ action s' n, s.step action = some s' → n ∈ s.waiters → n ∉ s'.waiters → Departs ⟨s, action, s'⟩ n

/-- A request leaves nothing behind, in whatever state it comes and whatever goes on beside it. -/
theorem requests_leave_nothing {config : Config} {bus : Link.Bus} {actions : List Action} {s : Session}
    (run : (fresh config bus).run actions = some s) : s.LeavesNothing := by
  have sound := sound_of_run run
  constructor
  · exact sound.queued.nodup
  · exact fun n _ live => sound.live_request live
  · intro frame timeout closed
    obtain ⟨s', stepped⟩ : ∃ s', s.step (.begin (.request frame timeout)) = some s' := ⟨_, rfl⟩
    rw [stepped]
    cases step_move sound.tidy stepped with
    | refusesRequest => rfl
    | requests active isOpen => simp [closed] at isOpen
    | advances present advance => cases advance.call?_eq
  · rintro frame timeout s' stepped
    have move := step_move sound.tidy stepped
    have now {s' : Session} {call : Call} (calls : s'.calls = s.calls ++ [(s.nextCall, call)]) :
        s'.call? s.nextCall = some call := by
      rw [call?, calls, Calls.lookup_add, show s.calls.lookup s.nextCall = none from sound.tidy.call?_nextCall]
      simp
    cases move with
    | refusesRequest closed => exact ⟨rfl, rfl, rfl, by simp [closed]⟩
    | requests active isOpen => exact ⟨rfl, rfl, rfl, fun _ => ⟨_, now rfl⟩⟩
    | advances present advance => cases advance.call?_eq
  · intro action s' id frame timeout stage stepped own present
    obtain ⟨new, waiters, bus, -, after⟩ := (step_move sound.tidy stepped).of_request present own
    exact ⟨by rw [after], by rw [after]⟩
  · intro action s' id frame timeout stage n outcome stepped present number ended
    exact sound.returned stepped present number ended
  · intro action s' n stepped waits gone
    exact (step_move sound.tidy stepped).departs sound waits gone

theorem requests_leave_nothing_expiring : ∃ bus actions s, (fresh {} bus).run actions = some s ∧
    s.waiters = [1, 2, 3] ∧ s.isLive 1 = false ∧ (s.step (.expire 2)).any (·.waiters = [1, 3]) = true ∧
    s.LeavesNothing := by
  let bus : Link.Bus := { devices := [.ofInfo ⟨"adapter", .usb, none⟩ .silent []] }
  let actions : List Action :=
    [.begin (.connect .usb none), .resume 0, .resume 0, .work 0, .resume 0, .begin (.request [5] 10),
      .begin (.request [6] 10), .begin (.request [7] 30), .resume 1, .work 1, .resume 1, .resume 2, .work 2, .resume 2,
      .resume 3, .work 3, .resume 3, .cancel 1, .tick 20]
  have ends : ((fresh {} bus).run actions).any (fun s => s.waiters = [1, 2, 3] ∧ s.isLive 1 = false ∧
      (s.step (.expire 2)).any (·.waiters = [1, 3]) = true) = true := by decide +kernel
  obtain ⟨s, run, ends⟩ := (Option.any_eq_true _ _).mp ends
  obtain ⟨waiters, abandoned, expires⟩ := of_decide_eq_true ends
  exact ⟨bus, actions, s, run, waiters, abandoned, expires, requests_leave_nothing run⟩

end TagConsole.Session
