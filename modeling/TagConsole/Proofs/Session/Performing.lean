import TagConsole.Proofs.Session.Lifecycle
import TagConsole.Proofs.Session.Load
import TagConsole.Proofs.Session.Requests

/-!
Settling and waiting as runs. Whatever a session does until nothing is left but to wait, and whatever it does while
it waits for a call, it does by actions that could as well have come in another order. It comes to rest, and then
only time can be what a call waits for, so that each call that is waited for ends.
-/

namespace TagConsole.Session

variable {s s' : Session} {action : Action} {id : Nat} {call : Call}

def AtRest (s : Session) : Prop := ∀ action, action.isOwn = true → s.step action = none

theorem isOwn_of_mem (member : action ∈ s.ownActions) : action.isOwn = true := by
  simp only [ownActions, List.mem_append, List.mem_flatMap, List.mem_map, List.mem_cons, List.not_mem_nil, or_false] at member
  rcases member with (⟨_, _, rfl | rfl⟩ | ⟨_, _, _, _, rfl⟩) | ⟨_, _, rfl⟩ <;> rfl

theorem mem_ownActions (own : action.isOwn = true) (stepped : s.step action = some s') : action ∈ s.ownActions := by
  have called {id : Nat} {call : Call} (present : s.call? id = some call) : ∃ entry ∈ s.calls, entry.1 = id :=
    List.mem_map.mp (Calls.mem_ids_of_lookup present)
  simp only [ownActions, List.mem_append, List.mem_flatMap, List.mem_map, List.mem_cons, List.not_mem_nil, or_false]
  cases action with
  | resume id =>
    obtain ⟨call, present, -⟩ := Option.bind_eq_some_iff.mp stepped
    obtain ⟨entry, member, rfl⟩ := called present
    exact .inl (.inl ⟨entry, member, .inl rfl⟩)
  | work id =>
    obtain ⟨call, present, -⟩ := Option.bind_eq_some_iff.mp stepped
    obtain ⟨entry, member, rfl⟩ := called present
    exact .inl (.inl ⟨entry, member, .inr rfl⟩)
  | read transport reader =>
    obtain ⟨t, found, turned⟩ := Option.bind_eq_some_iff.mp stepped
    obtain ⟨⟨t', bus⟩, turned, -⟩ := Option.bind_eq_some_iff.mp turned
    obtain ⟨_, _, _, _, taps, -⟩ := Transport.stepReader_some turned
    exact .inl (.inr ⟨(t, transport), List.mem_zipIdx_iff_getElem?.mpr found, reader,
      List.mem_range.mpr (List.getElem?_eq_some_iff.mp taps).1, rfl⟩)
  | receive generation =>
    obtain ⟨receiver, known, -⟩ := Option.bind_eq_some_iff.mp stepped
    obtain ⟨member, rfl⟩ := receiver?_some known
    exact .inr ⟨receiver, member, rfl⟩
  | _ => cases own

theorem atRest_of_findSome? (nothing : s.ownActions.findSome? s.step = none) : s.AtRest := by
  intro action own
  cases stepped : s.step action with
  | none => rfl
  | some s' => exact stepped.symm.trans (List.findSome?_eq_none_iff.mp nothing action (mem_ownActions own stepped))

theorem AtRest.stays (rest : s.AtRest) (steps : Relation.ReflTransGen Proceeds s s') : s' = s := by
  rcases steps.cases_head with same | ⟨after, ⟨id, stepped | stepped⟩, -⟩
  · exact same.symm
  · cases (rest _ rfl).symm.trans stepped
  · cases (rest _ rfl).symm.trans stepped

theorem settleWithin_induction {P : Session → Prop} {fuel : Nat} (holds : P s)
    (next : ∀ t action t', P t → action.isOwn = true → t.step action = some t' → P t') : P (settleWithin fuel s) := by
  induction fuel generalizing s with
  | zero => exact holds
  | succ fuel ih =>
    rw [settleWithin]
    split
    · rename_i after found
      obtain ⟨action, member, stepped⟩ := List.exists_of_findSome?_eq_some found
      exact ih (next s action after holds (isOwn_of_mem member) stepped)
    · exact holds

structure Well (s : Session) : Prop where
  sound : s.Sound
  staffed : s.Staffed

theorem well_of_run {config : Config} {bus : Link.Bus} {actions : List Action}
    (run : (fresh config bus).run actions = some s) : s.Well := ⟨sound_of_run run, staffed_of_run run⟩

theorem Well.step (well : s.Well) (stepped : s.step action = some s') : s'.Well :=
  ⟨well.sound.step stepped, well.staffed.step (step_move well.sound.tidy stepped)⟩

theorem Well.of_leads (well : s.Well) (leads : s.Leads s') : s'.Well := by
  obtain ⟨actions, run⟩ := leads
  exact run_induction (P := fun s _ => s.Well) well (fun _ _ _ _ well stepped => well.step stepped) run

theorem Well.load_lt (well : s.Well) (own : action.isOwn = true) (stepped : s.step action = some s') : s'.load < s.load :=
  (step_move well.sound.tidy stepped).load_lt own well.sound.tidy well.sound.linked well.staffed

theorem Well.settleWithin_atRest {fuel : Nat} (well : s.Well) (enough : s.load ≤ fuel) :
    (settleWithin fuel s).AtRest := by
  induction fuel generalizing s with
  | zero =>
    intro action own
    cases stepped : s.step action with
    | none => exact stepped
    | some s' =>
      have := well.load_lt own stepped
      omega
  | succ fuel ih =>
    rw [settleWithin]
    split
    · rename_i after found
      obtain ⟨action, member, stepped⟩ := List.exists_of_findSome?_eq_some found
      have := well.load_lt (isOwn_of_mem member) stepped
      exact ih (well.step stepped) (by omega)
    · rename_i nothing
      exact atRest_of_findSome? nothing

theorem Well.settle_atRest (well : s.Well) : s.settle.AtRest := well.settleWithin_atRest s.load_le_effort

theorem settle_leads (s : Session) : s.Leads s.settle := by
  refine settleWithin_induction (P := s.Leads) (.refl s) fun t action t' leads _ stepped => ?_
  exact leads.trans ((Leads.refl t').head stepped)

theorem expireAll_leads (s : Session) : s.Leads s.expireAll := by
  unfold expireAll
  generalize s.calls = calls
  induction calls generalizing s with
  | nil => exact .refl s
  | cons entry calls ih =>
    rw [List.foldl_cons]
    refine Leads.trans ?_ (ih _)
    cases expired : s.expire entry.1 with
    | none =>
      simp only [expired, Option.getD_none]
      exact .refl s
    | some after =>
      have stepped : s.step (.expire entry.1) = some after := expired
      simp only [expired, Option.getD_some]
      exact (Leads.refl after).head stepped

theorem elapse_leads (s : Session) (ms : Nat) : s.Leads (s.elapse ms) := by
  have ticks : s.step (.tick ms) = some { s with clock := s.clock + ms } := rfl
  exact ((expireAll_leads _).trans (settle_leads _)).head ticks

theorem await_leads (s : Session) (id : Nat) : s.Leads (s.await id) := by
  unfold await
  extract_lets settled
  have settles : s.Leads settled := s.settle_leads
  split
  · exact settles.trans (settled.elapse_leads _)
  · exact settles

theorem call?_of_outcome? {s : Session} {id : Nat} {outcome : Outcome} (ended : s.outcome? id = some outcome) :
    s.call? id = some (.ended outcome) := by
  obtain ⟨call, present, ended⟩ := Option.bind_eq_some_iff.mp ended
  cases call with
  | ended other =>
    cases ended
    exact present
  | _ => cases ended

def Holds (s : Session) (id : Nat) : Prop := ∃ call, s.call? id = some call ∧ ∀ transport frame, call ≠ .orphan transport frame

theorem Holds.step (holds : s.Holds id) (tidy : s.Tidy) (stepped : s.step action = some s')
    (kept : action ≠ .cancel id) : s'.Holds id := by
  obtain ⟨call, present, here⟩ := holds
  have move := step_move tidy stepped
  cases move.callChange tidy id with
  | same now => exact ⟨call, now.trans present, here⟩
  | mailed now =>
    rw [present, Option.map_some] at now
    refine ⟨_, now, ?_⟩
    rcases call.handMail_cases _ _ with same | ⟨_, _, _, _, _, -, -, handed⟩
    · rwa [same]
    · simp [handed]
  | begun new now => exact absurd (new ▸ tidy.lt_nextCall present) (Nat.lt_irrefl _)
  | lifecycle known single =>
    have attempt := attempt?_of_call? known single
    by_cases own : action.call? = some id
    · rcases (move.goesOn attempt own).own with ⟨new, now, -⟩ | ⟨outcome, now, -⟩
      · refine ⟨new, call?_of_attempt? now, ?_⟩
        rintro transport frame rfl
        cases (Option.filter_eq_some_iff.mp now).2
      · exact ⟨_, now, by simp⟩
    · exact ⟨_, call?_of_attempt? (move.keeps_attempt tidy attempt own), by rintro transport frame rfl; cases single⟩
  | advanced known advance now =>
    obtain rfl := Option.some.inj (present.symm.trans known)
    cases advance with
    | writesOrphan => exact absurd rfl (here _ _)
    | orphansRequest => exact absurd rfl kept
    | orphansAlone => exact absurd rfl kept
    | leaves => exact absurd rfl kept
    | _ => exact ⟨_, now, by simp⟩

/-- Of the calls that go on, only those wait at rest that time has to end. -/
theorem AtRest.waits (rest : s.AtRest) (sound : s.Sound) (holds : s.Holds id) :
    (∃ outcome, s.call? id = some (.ended outcome)) ∨ ∃ frame timeout transport n deadline,
      s.call? id = some (.request frame timeout (.registered transport n .empty (.awaiting deadline))) := by
  obtain ⟨call, present, here⟩ := holds
  -- whatever can go on has gone on
  have canEnd {ends : Outcome → Prop} (can : s.CanEnd id ends) : ∃ outcome, s.call? id = some (.ended outcome) := by
    obtain ⟨s', outcome, steps, ended, -⟩ := can
    exact ⟨outcome, rest.stays steps ▸ ended⟩
  have connects (single : call.isLifecycle = true) : ∃ outcome, s.call? id = some (.ended outcome) := by
    obtain ⟨s', outcome, steps, ended⟩ := lifecycle_ends sound (attempt?_of_call? present single)
    exact ⟨outcome, rest.stays steps ▸ ended⟩
  have stuck {action : Action} {s' : Session} (own : action.isOwn = true) (stepped : s.step action = some s') : False := by
    cases (rest action own).symm.trans stepped
  cases call with
  | ended outcome => exact .inl ⟨outcome, present⟩
  | orphan transport frame => exact absurd rfl (here transport frame)
  | connect transport stage => exact .inl (connects rfl)
  | disconnect stage => exact .inl (connects rfl)
  | send frame stage =>
    cases stage with
    | writing transport =>
      have works : s.step (.work id) = some ((s.write transport frame).2.setCall id
          (.send frame (.written (s.write transport frame).1))) := by
        simp [step, work, present]
      exact (stuck rfl works).elim
    | written result =>
      cases result with
      | ok done =>
        have resumes : s.step (.resume id) = some (s.finish id .done) := by simp [step, resume, present, resumeSend]
        exact (stuck rfl resumes).elim
      | error cause =>
        have resumes : s.step (.resume id) = some (s.finish id (.failed (.send cause))) := by
          simp [step, resume, present, resumeSend]
        exact (stuck rfl resumes).elim
  | request frame timeout stage =>
    cases stage with
    | queueing transport n =>
      -- the turn comes to it, and then it leaves the queue
      obtain ⟨s', steps, turn, -, -⟩ := comes_to_turn sound.tidy present
      obtain rfl := rest.stays steps
      obtain ⟨s'', steps', turns, -⟩ := turn_passes sound.tidy turn
      obtain rfl := rest.stays steps'
      have member := List.mem_of_head? turn
      rw [turns] at member
      exact absurd member sound.tidy.turns.nodup.not_mem_erase
    | registered transport n mail progress =>
      cases progress with
      | writing =>
        obtain ⟨s', _, stepped, -⟩ := writes_on present
        exact (stuck rfl stepped).elim
      | written result =>
        obtain ⟨s', stepped, -⟩ := leaves_of_written present
        exact (stuck rfl stepped).elim
      | awaiting deadline =>
        cases mail with
        | empty => exact .inr ⟨frame, timeout, transport, n, deadline, present⟩
        | reply reply => exact .inl (canEnd (sent_ends present rfl rfl))
        | dropped => exact .inl (canEnd (sent_ends present rfl rfl))

theorem expire_call? {other : Nat} (expired : s.expire other = some s') (apart : id ≠ other) :
    s'.call? id = s.call? id ∧ s'.clock = s.clock := by
  obtain ⟨call, -, expired⟩ := Option.bind_eq_some_iff.mp expired
  split at expired
  · split at expired
    · cases expired
      refine ⟨?_, rfl⟩
      exact (Calls.lookup_replace ..).trans (if_neg apart)
    · cases expired
  · cases expired

theorem expireAll_ends {frame : Wire.Frame} {timeout transport n deadline : Nat}
    (present : s.call? id = some (.request frame timeout (.registered transport n .empty (.awaiting deadline))))
    (due : deadline ≤ s.clock) : ∃ outcome, s.expireAll.call? id = some (.ended outcome) := by
  -- by induction on the calls that are left: the call has ended, or its turn is still to come
  have general : ∀ (calls : Calls) (t : Session), deadline ≤ t.clock →
      (∃ outcome, t.call? id = some (.ended outcome)) ∨ id ∈ calls.map (·.1) ∧
        t.call? id = some (.request frame timeout (.registered transport n .empty (.awaiting deadline))) →
      ∃ outcome, (calls.foldl (fun t entry => (t.expire entry.1).getD t) t).call? id = some (.ended outcome) := by
    intro calls
    induction calls with
    | nil =>
      rintro t due (ended | ⟨member, -⟩)
      · exact ended
      · cases member
    | cons entry calls ih =>
      intro t due known
      rw [List.foldl_cons]
      by_cases own : id = entry.1
      · subst own
        rcases known with ⟨outcome, ended⟩ | ⟨-, present⟩
        · have stays : t.expire entry.1 = none := by simp [expire, ended]
          rw [stays, Option.getD_none]
          exact ih t due (.inl ⟨outcome, ended⟩)
        · have expires : t.expire entry.1 = some (t.timedOut entry.1 n timeout) := by simp [expire, present, due]
          rw [expires, Option.getD_some]
          exact ih _ due (.inl ⟨_, call?_of_replace present rfl⟩)
      · have later (member : id ∈ (entry :: calls).map (·.1)) : id ∈ calls.map (·.1) :=
          (List.mem_cons.mp member).resolve_left own
        cases expired : t.expire entry.1 with
        | none => exact ih t due (known.imp_right (And.imp_left later))
        | some t' =>
          obtain ⟨same, clock⟩ := expire_call? expired own
          rw [Option.getD_some]
          refine ih t' (clock ▸ due) ?_
          rw [same]
          exact known.imp_right (And.imp_left later)
  exact general s.calls s due (.inr ⟨Calls.mem_ids_of_lookup present, present⟩)

theorem Well.settles_ended {outcome : Outcome} (well : s.Well) (ended : s.call? id = some (.ended outcome)) :
    s.settle.call? id = some (.ended outcome) := by
  refine (settleWithin_induction (P := fun t => t.Well ∧ t.call? id = some (.ended outcome)) ⟨well, ended⟩ ?_).2
  rintro t action t' ⟨well, ended⟩ own stepped
  refine ⟨well.step stepped, ?_⟩
  have tidy := well.sound.tidy
  rcases ((step_move tidy stepped).callChange tidy id).ended_stays tidy ended with now | ⟨rfl, -⟩
  · exact now
  · cases own

theorem Well.settles_held (well : s.Well) (holds : s.Holds id) : s.settle.Holds id := by
  refine (settleWithin_induction (P := fun t => t.Well ∧ t.Holds id) ⟨well, holds⟩ ?_).2
  rintro t action t' ⟨well, holds⟩ own stepped
  refine ⟨well.step stepped, holds.step well.sound.tidy stepped ?_⟩
  rintro rfl
  cases own

/-- Waiting for a call brings it to its end. -/
theorem Well.await_ends (well : s.Well) (holds : s.Holds id) : ∃ outcome, (s.await id).call? id = some (.ended outcome) := by
  have settled := well.of_leads s.settle_leads
  rcases well.settle_atRest.waits settled.sound (well.settles_held holds) with
    ⟨outcome, ended⟩ | ⟨frame, timeout, transport, n, deadline, present⟩
  · have there : s.settle.outcome? id = some outcome := by rw [outcome?, ended]; rfl
    refine ⟨outcome, ?_⟩
    simp only [await, there]
    exact ended
  · -- the deadline comes, unless it has
    have nothing : s.settle.outcome? id = none := by rw [outcome?, present]; rfl
    have waits : (s.settle.call? id).bind (·.deadline?) = some deadline := by rw [present]; rfl
    let later := { s.settle with clock := s.settle.clock + (deadline - s.settle.clock) }
    have due : deadline ≤ later.clock := by simp only [later]; omega
    obtain ⟨outcome, ended⟩ := expireAll_ends (s := later) present due
    have ticked : s.settle.step (.tick (deadline - s.settle.clock)) = some later := rfl
    have expired := (settled.step ticked).of_leads later.expireAll_leads
    refine ⟨outcome, ?_⟩
    simp only [await, nothing, waits]
    exact expired.settles_ended ended

theorem begin_holds (tidy : s.Tidy) (operation : Operation) : (s.begin operation).Holds s.nextCall := by
  have added {s' : Session} {call : Call} (calls : s'.calls = s.calls ++ [(s.nextCall, call)])
      (here : ∀ transport frame, call ≠ .orphan transport frame) : s'.Holds s.nextCall := by
    refine ⟨call, ?_, here⟩
    rw [call?, calls, Calls.lookup_add, show s.calls.lookup s.nextCall = none from tidy.call?_nextCall]
    simp
  cases operation with
  | connect kind target => exact added rfl (by simp)
  | disconnect => exact added rfl (by simp)
  | send frame =>
    rw [begin]
    dsimp only
    split
    · exact added rfl (by simp)
    · split <;> exact added rfl (by simp)
  | request frame timeout =>
    rw [begin]
    dsimp only
    split
    · exact added rfl (by simp)
    · split <;> exact added rfl (by simp)

/-- Performing an operation is one of the ways in which its call can run, and it always comes to an end. -/
theorem Well.perform_runs (well : s.Well) (operation : Operation) : ∃ later t outcome,
    s.run (.begin operation :: later) = some t ∧ t.call? s.nextCall = some (.ended outcome) ∧
    s.perform operation = (outcome, t.dropCall s.nextCall) := by
  have begins : s.step (.begin operation) = some (s.begin operation) := rfl
  obtain ⟨outcome, ended⟩ := (well.step begins).await_ends (begin_holds well.sound.tidy operation)
  obtain ⟨later, run⟩ := (s.begin operation).await_leads s.nextCall
  refine ⟨later, _, outcome, run, ended, ?_⟩
  simp only [perform, outcome?, ended]
  rfl

end TagConsole.Session
