import TagConsole.Proofs.Session.Performing
import TagConsole.Proofs.Session.Sending
import TagConsole.Session.Errand

/-!
Errands as runs. An errand makes its call beside everything else that goes on, and its result is concluded from how
the call has ended. Errands that make the same call run alike.
-/

namespace TagConsole.Session

open Wire (Frame)

namespace Errand

variable {α β : Type}

def operation? : Errand α → Option Operation
  | done _ => none
  | call operation _ => some operation

/-- An errand runs to its end, while anything else may happen. -/
inductive Runs (errand : Errand α) (s : Session) : List Moment → Session → α → Prop where
  | alone {result} (done : errand = .done result) : Runs errand s [] s result
  | calls {operation conclude later s' outcome} (call : errand = .call operation conclude)
      (run : s.run (.begin operation :: later) = some s') (ended : s'.call? s.nextCall = some (.ended outcome)) :
      Runs errand s (s.moments (.begin operation :: later)) s' (conclude outcome s')

variable {errand : Errand α} {other : Errand β} {s s' : Session} {past : List Moment}

theorem operation?_eq_some {operation : Operation} :
    errand.operation? = some operation ↔ ∃ conclude, errand = .call operation conclude := by
  cases errand with
  | done result => simp [operation?]
  | call operation' conclude => simp [operation?]

theorem runs_congr (same : errand.operation? = other.operation?) :
    (∃ result, errand.Runs s past s' result) → ∃ result, other.Runs s past s' result := by
  rintro ⟨result, runs⟩
  cases runs with
  | alone done =>
    subst done
    cases other with
    | done result => exact ⟨result, .alone rfl⟩
    | call operation conclude => cases same
  | calls call run ended =>
    subst call
    cases other with
    | done result => cases same
    | call operation conclude =>
      cases same
      exact ⟨_, .calls rfl run ended⟩

/-- Of two errands that make the same call, one runs as the other does with its result read in another way. -/
theorem call_runs_iff {operation : Operation} {conclude : Outcome → Session → α} {conclude' : Outcome → Session → β}
    {Reads : β → α → Prop} (reads : ∀ outcome s', Reads (conclude' outcome s') (conclude outcome s'))
    (unique : ∀ generic result result', Reads generic result → Reads generic result' → result = result') {result : α} :
    (call operation conclude).Runs s past s' result ↔
      ∃ generic, (call operation conclude').Runs s past s' generic ∧ Reads generic result := by
  constructor
  · intro runs
    cases runs with
    | alone done => cases done
    | calls same run ended =>
      cases same
      exact ⟨_, .calls rfl run ended, reads _ _⟩
  · rintro ⟨generic, runs, read⟩
    cases runs with
    | alone done => cases done
    | calls same run ended =>
      cases same
      rw [unique _ _ _ read (reads _ _)]
      exact .calls rfl run ended

def IsBlind (errand : Errand α) : Prop :=
  ∀ operation conclude, errand = .call operation conclude → ∀ outcome t t', conclude outcome t = conclude outcome t'

/-- Running an errand at once is one of the ways in which it can run, and leaves all but its call as it is there. -/
theorem complete_runs (well : s.Well) (errand : Errand α) (blind : errand.IsBlind) : ∃ past t,
    errand.Runs s past t (s.complete errand).1 ∧ (s.complete errand).2 = t.dropCall s.nextCall := by
  cases errand with
  | done result =>
    have unknown : s.calls.remove s.nextCall = s.calls := Calls.update_of_absent (fun member =>
      Nat.lt_irrefl _ (well.sound.tidy.ids_lt _ member)) none
    exact ⟨[], s, .alone rfl, by rw [complete, dropCall, unknown]⟩
  | call operation conclude =>
    obtain ⟨later, t, outcome, run, ended, performed⟩ := well.perform_runs operation
    have runs : (call operation conclude).Runs s _ t (conclude outcome t) := .calls rfl run ended
    rw [blind operation conclude rfl outcome t (t.dropCall s.nextCall)] at runs
    rw [complete, performed]
    exact ⟨_, t, runs, rfl⟩

end Errand

section Request

variable {s s' : Session} {frame : Frame} {timeout : Nat} {later : List Action} {outcome : Outcome}

theorem begin_refused (tidy : s.Tidy) (closed : s.isConnected = false) (frame : Frame) (timeout : Nat) :
    (s.begin (.request frame timeout)).call? s.nextCall = some (.ended (.failed .notConnected)) ∧
      (s.begin (.request frame timeout)).bus = s.bus := by
  have stepped : s.step (.begin (.request frame timeout)) = some (s.begin (.request frame timeout)) := rfl
  generalize s.begin (.request frame timeout) = begun at stepped
  cases step_move tidy stepped with
  | refusesRequest =>
    refine ⟨?_, rfl⟩
    rw [call?, Calls.lookup_add, show s.calls.lookup s.nextCall = none from tidy.call?_nextCall]
    simp
  | requests active isOpen => simp [closed] at isOpen
  | advances present advance => cases advance.call?_eq

theorem refused_stays (sound : s.Sound) (closed : s.isConnected = false)
    (run : s.run (.begin (.request frame timeout) :: later) = some s') :
    s'.call? s.nextCall = some (.ended (.failed .notConnected)) ∨ (s'.call? s.nextCall = none ∧
      ∃ m ∈ s.moments (.begin (.request frame timeout) :: later), m.action = .cancel s.nextCall) := by
  rw [run_cons, Option.bind_eq_some_iff] at run
  obtain ⟨begun, stepped, run⟩ := run
  have sound' := sound.step stepped
  rw [moments, stepped]
  cases stepped
  have first := (begin_refused sound.tidy closed frame timeout).1
  have fate := sound'.run_induction (P := fun t past => s.nextCall < t.nextCall ∧
    (t.call? s.nextCall = some (.ended (.failed .notConnected)) ∨
      (t.call? s.nextCall = none ∧ ∃ m ∈ past, m.action = .cancel s.nextCall))) ?_ ?_ run
  · exact fate.2.imp id fun gone => ⟨gone.1, gone.2.imp fun m cancels => ⟨List.mem_cons_of_mem _ cancels.1, cancels.2⟩⟩
  · rw [begin_nextCall]
    exact ⟨Nat.lt_succ_self _, .inl first⟩
  · rintro before action after past known ⟨old, now⟩ stepped
    have move := step_move known.tidy stepped
    have change := move.callChange known.tidy s.nextCall
    refine ⟨Nat.lt_of_lt_of_le old move.next_le.1, ?_⟩
    rcases now with now | ⟨gone, cancelled⟩
    · exact (change.ended_stays known.tidy now).imp id fun gone => ⟨gone.2, _, List.mem_concat_self, gone.1⟩
    · exact .inr ⟨change.absent_stays gone old, earlier cancelled⟩

theorem request_ended (sound : s.Sound) (run : s.run (.begin (.request frame timeout) :: later) = some s')
    (ended : s'.call? s.nextCall = some (.ended outcome)) :
    if s.isConnected then outcome.Returned timeout else outcome = .failed .notConnected := by
  split
  · rename_i isOpen
    cases active : s.active with
    | none => simp [not_isConnected_of_idle active] at isOpen
    | some link => exact ((posts_of_run sound active isOpen run).ended ended).returned
  · rename_i closed
    rcases refused_stays sound (Bool.eq_false_iff.mpr closed) run with now | ⟨gone, -⟩
    · cases now.symm.trans ended
      rfl
    · cases gone.symm.trans ended

def Moment.requested? (m : Moment) : Option Frame :=
  match m.action with
  | .begin (.request frame _) => some frame
  | _ => none

def requests (id : Nat) (past : List Moment) : List Frame := (ownSteps id past).filterMap (·.requested?)

theorem request_can_end (sound : s.Sound) (run : s.run (.begin (.request frame timeout) :: later) = some s')
    (kept : ∀ m ∈ s.moments (.begin (.request frame timeout) :: later), m.action ≠ .cancel s.nextCall) :
    s'.Finishes s.nextCall := by
  by_cases isOpen : s.isConnected = true
  · cases active : s.active with
    | none => simp [not_isConnected_of_idle active] at isOpen
    | some link => exact (posts_of_run sound active isOpen run).finishes kept
  · rcases refused_stays sound (Bool.eq_false_iff.mpr isOpen) run with now | ⟨-, m, member, cancels⟩
    · exact finishes_of_ended now
    · exact absurd cancels (kept m member)

end Request

end TagConsole.Session
