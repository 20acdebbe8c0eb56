import Mathlib.Logic.Relation
import TagConsole.Proofs.Session.Turns

/-!
Requests get on. Whoever has the turn to send can be done with it, whatever else goes on, so that each
request that queues for its turn gets it.
-/

namespace TagConsole.Session

open Wire (Frame)

def Proceeds (s s' : Session) : Prop := ∃ id, s.step (.resume id) = some s' ∨ s.step (.work id) = some s'

/-- The calls can go on until one of them has ended in one of some ways. -/
def CanEnd (s : Session) (id : Nat) (ends : Outcome → Prop) : Prop :=
  ∃ s' outcome, Relation.ReflTransGen Proceeds s s' ∧ s'.call? id = some (.ended outcome) ∧ ends outcome

theorem CanEnd.mono {s : Session} {id : Nat} {ends ends' : Outcome → Prop} (can : s.CanEnd id ends)
    (weaker : ∀ outcome, ends outcome → ends' outcome) : s.CanEnd id ends' := by
  obtain ⟨s', outcome, steps, ended, so⟩ := can
  exact ⟨s', outcome, steps, ended, weaker outcome so⟩

theorem Tidy.proceeds {s s' : Session} (tidy : s.Tidy) (steps : Relation.ReflTransGen Proceeds s s') : s'.Tidy := by
  induction steps with
  | refl => exact tidy
  | tail _ last ih =>
    obtain ⟨id, stepped | stepped⟩ := last
    · exact (step_move ih stepped).tidy ih
    · exact (step_move ih stepped).tidy ih

structure Beside (id : Nat) (s s' : Session) : Prop where
  others : ∀ other, other ≠ id → s'.call? other = s.call? other
  transports : s'.transports = s.transports

section Leave

variable {s : Session} {id transport n timeout : Nat} {frame : Frame} {mail : Mail}

theorem Beside.trans {s' s'' : Session} (first : Beside id s s') (second : Beside id s' s'') : Beside id s s'' :=
  ⟨fun other apart => (second.others other apart).trans (first.others other apart),
    second.transports.trans first.transports⟩

theorem Beside.of_replace {s' : Session} {call : Call} (calls : s'.calls = s.calls.replace id call)
    (transports : s'.transports = s.transports) : Beside id s s' :=
  ⟨fun other apart => by rw [call?, calls, Calls.lookup_replace, if_neg apart]; rfl, transports⟩

theorem call?_of_replace {s' : Session} {old call : Call} (present : s.call? id = some old)
    (calls : s'.calls = s.calls.replace id call) : s'.call? id = some call := by
  rw [call?, calls, Calls.lookup_replace, if_pos rfl, show s.calls.lookup id = some old from present]
  rfl

theorem leaves_of_written {result : Except Transport.Error Unit}
    (present : s.call? id = some (.request frame timeout (.registered transport n mail (.written result)))) :
    ∃ s', s.step (.resume id) = some s' ∧ s'.turns = s.turns.erase id ∧ Beside id s s' := by
  have resumes : s.step (.resume id) =
      s.resumeRequest id frame timeout (.registered transport n mail (.written result)) := by
    simp [step, resume, present]
  rw [resumes]
  cases result with
  | error cause => exact ⟨_, rfl, rfl, .of_replace rfl rfl⟩
  | ok _ =>
    cases mail with
    | reply reply => exact ⟨_, rfl, rfl, .of_replace rfl rfl⟩
    | dropped => exact ⟨_, rfl, rfl, .of_replace rfl rfl⟩
    | empty =>
      by_cases atOnce : timeout = 0
      · refine ⟨s.timedOut id n timeout, ?_, rfl, .of_replace rfl rfl⟩
        simp [resumeRequest, atOnce]
      · refine ⟨{ s with turns := s.turns.erase id }.setCall id
          (.request frame timeout (.registered transport n .empty (.awaiting (s.clock + timeout)))), ?_, rfl,
          .of_replace rfl rfl⟩
        simp [resumeRequest, atOnce]

theorem writes_on (present : s.call? id = some (.request frame timeout (.registered transport n mail .writing))) :
    ∃ s' result, s.step (.work id) = some s' ∧ s'.turns = s.turns ∧ Beside id s s' ∧
      s'.call? id = some (.request frame timeout (.registered transport n mail (.written result))) := by
  have works : s.step (.work id) = some ((s.write transport frame).2.setCall id
      (.request frame timeout (.registered transport n mail (.written (s.write transport frame).1)))) := by
    simp [step, work, present]
  rw [write_eq] at works
  exact ⟨_, _, works, rfl, .of_replace rfl rfl, call?_of_replace present rfl⟩

theorem leaves_of_writing
    (present : s.call? id = some (.request frame timeout (.registered transport n mail .writing))) :
    ∃ s', Relation.ReflTransGen Proceeds s s' ∧ s'.turns = s.turns.erase id ∧ Beside id s s' := by
  obtain ⟨s₁, result, stepped, turns, beside, present⟩ := writes_on present
  obtain ⟨s₂, stepped', turns', beside'⟩ := leaves_of_written present
  exact ⟨s₂, .tail (.single ⟨id, .inr stepped⟩) ⟨id, .inl stepped'⟩, by rw [turns', turns], beside.trans beside'⟩

theorem refuses_of_closed (present : s.call? id = some (.request frame timeout (.queueing transport n)))
    (turn : s.turns.head? = some id) (closed : s.transports[transport]?.any (·.isConnected) = false) :
    ∃ s', s.step (.resume id) = some s' ∧ s'.turns = s.turns.erase id ∧ Beside id s s' ∧
      s'.call? id = some (.ended (.failed (.send .notConnected))) := by
  have closed' : (s.register n).transports[transport]?.any (·.isConnected) = false := closed
  have resumes : s.step (.resume id) = some ((s.register n).giveUp id n (.send .notConnected)) := by
    simp [step, resume, present, resumeRequest, turn, closed']
  exact ⟨_, resumes, rfl, .of_replace rfl rfl, call?_of_replace present rfl⟩

theorem leaves_of_queueing (present : s.call? id = some (.request frame timeout (.queueing transport n)))
    (turn : s.turns.head? = some id) :
    ∃ s', Relation.ReflTransGen Proceeds s s' ∧ s'.turns = s.turns.erase id ∧ Beside id s s' := by
  by_cases isOpen : s.transports[transport]?.any (·.isConnected) = true
  · let s₁ := (s.register n).setCall id (.request frame timeout (.registered transport n .empty .writing))
    have isOpen' : (s.register n).transports[transport]?.any (·.isConnected) = true := isOpen
    have resumes : s.step (.resume id) = some s₁ := by
      simp [s₁, step, resume, present, resumeRequest, turn, isOpen']
    have beside : Beside id s s₁ := .of_replace rfl rfl
    have now : s₁.call? id = some (.request frame timeout (.registered transport n .empty .writing)) :=
      call?_of_replace present rfl
    obtain ⟨s', steps, turns, beside'⟩ := leaves_of_writing now
    exact ⟨s', .head ⟨id, .inl resumes⟩ steps, turns, beside.trans beside'⟩
  · obtain ⟨s', stepped, turns, beside, -⟩ := refuses_of_closed present turn (Bool.eq_false_iff.mpr isOpen)
    exact ⟨s', .single ⟨id, .inl stepped⟩, turns, beside⟩

end Leave

def Mail.outcome? : Mail → Option Outcome
  | empty => none
  | reply frame => some (.reply frame)
  | dropped => some (.failed .linkClosed)

theorem sent_ends {s : Session} {id transport n timeout : Nat} {frame : Frame} {mail : Mail} {progress : Progress}
    {outcome : Outcome}
    (present : s.call? id = some (.request frame timeout (.registered transport n mail progress)))
    (handed : mail.outcome? = some outcome) (sent : progress.isSent = true) : s.CanEnd id (· = outcome) := by
  have resumes : s.step (.resume id) = some (s.finish id outcome) := by
    have resumes : s.step (.resume id) = s.resumeRequest id frame timeout (.registered transport n mail progress) := by
      simp [step, resume, present]
    rw [resumes]
    cases mail with
    | empty => cases handed
    | reply reply =>
      cases handed
      cases progress with
      | writing => cases sent
      | written result =>
        cases result with
        | error cause => cases sent
        | ok _ => rfl
      | awaiting deadline => rfl
    | dropped =>
      cases handed
      cases progress with
      | writing => cases sent
      | written result =>
        cases result with
        | error cause => cases sent
        | ok _ => rfl
      | awaiting deadline => rfl
  exact ⟨_, _, .single ⟨id, .inl resumes⟩, call?_of_replace present rfl, rfl⟩

theorem handed_ends {s : Session} {id transport n timeout : Nat} {frame : Frame} {mail : Mail} {progress : Progress}
    {outcome : Outcome}
    (present : s.call? id = some (.request frame timeout (.registered transport n mail progress)))
    (handed : mail.outcome? = some outcome) :
    s.CanEnd id fun ends => ends = outcome ∨ ∃ cause, ends = .failed (.send cause) := by
  have settles {s : Session} {progress : Progress} (tried : progress ≠ .writing)
      (present : s.call? id = some (.request frame timeout (.registered transport n mail progress))) :
      s.CanEnd id fun ends => ends = outcome ∨ ∃ cause, ends = .failed (.send cause) := by
    cases progress with
    | writing => exact absurd rfl tried
    | written result =>
      cases result with
      | error cause =>
        have resumes : s.step (.resume id) =
            s.resumeRequest id frame timeout (.registered transport n mail (.written (.error cause))) := by
          simp [step, resume, present]
        exact ⟨_, _, .single ⟨id, .inl resumes⟩, call?_of_replace present rfl, .inr ⟨cause, rfl⟩⟩
      | ok _ => exact (sent_ends present handed rfl).mono fun _ => .inl
    | awaiting deadline => exact (sent_ends present handed rfl).mono fun _ => .inl
  cases progress with
  | writing =>
    obtain ⟨s₁, result, stepped, -, -, present⟩ := writes_on present
    obtain ⟨s', ends, steps, ended⟩ := settles (by simp) present
    exact ⟨s', ends, .head ⟨id, .inr stepped⟩ steps, ended⟩
  | written result => exact settles (by simp) present
  | awaiting deadline => exact settles (by simp) present

theorem turn_passes {s : Session} {id : Nat} (tidy : s.Tidy) (turn : s.turns.head? = some id) :
    ∃ s', Relation.ReflTransGen Proceeds s s' ∧ s'.turns = s.turns.erase id ∧ Beside id s s' := by
  have wants := (tidy.turns.mem_iff id).mp (List.mem_of_head? turn)
  obtain ⟨call, present, wants⟩ := (Option.any_eq_true _ _).mp wants
  cases call with
  | request frame timeout stage =>
    cases stage with
    | queueing transport n => exact leaves_of_queueing present turn
    | registered transport n mail progress =>
      cases progress with
      | writing => exact leaves_of_writing present
      | written result =>
        obtain ⟨s', stepped, rest⟩ := leaves_of_written present
        exact ⟨s', .single ⟨id, .inl stepped⟩, rest⟩
      | awaiting deadline => cases wants
  | _ => cases wants

theorem comes_to_turn {s : Session} {id transport n timeout : Nat} {frame : Frame} (tidy : s.Tidy)
    (present : s.call? id = some (.request frame timeout (.queueing transport n))) :
    ∃ s', Relation.ReflTransGen Proceeds s s' ∧ s'.turns.head? = some id ∧
      s'.call? id = some (.request frame timeout (.queueing transport n)) ∧ s'.transports = s.transports := by
  -- by induction on the requests that stand before it
  generalize queue : s.turns = turns
  induction turns generalizing s with
  | nil =>
    have member : id ∈ s.turns := (tidy.turns.mem_iff id).mpr (by
      rw [show s.calls.lookup id = _ from present]
      rfl)
    rw [queue] at member
    cases member
  | cons first later ih =>
    have turn : s.turns.head? = some first := by rw [queue]; rfl
    by_cases own : id = first
    · exact ⟨s, .refl, own ▸ turn, present, rfl⟩
    · obtain ⟨s₁, steps, turns, beside⟩ := turn_passes tidy turn
      have queue' : s₁.turns = later := by rw [turns, queue, List.erase_cons_head]
      obtain ⟨s', steps', turn', present', same⟩ :=
        ih (tidy.proceeds steps) ((beside.others id own).trans present) queue'
      exact ⟨s', steps.trans steps', turn', present', same.trans beside.transports⟩

theorem queueing_ends {s : Session} {id transport n timeout : Nat} {frame : Frame} (tidy : s.Tidy)
    (present : s.call? id = some (.request frame timeout (.queueing transport n)))
    (closed : s.transports[transport]?.any (·.isConnected) = false) :
    s.CanEnd id (· = .failed (.send .notConnected)) := by
  obtain ⟨s', steps, turn, present', same⟩ := comes_to_turn tidy present
  obtain ⟨t, stepped, -, -, ended⟩ := refuses_of_closed present' turn (by rw [same, closed])
  exact ⟨t, _, steps.tail ⟨id, .inl stepped⟩, ended, rfl⟩

end TagConsole.Session
