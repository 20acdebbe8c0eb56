import TagConsole.Proofs.Session.Waiters

/-!
Runs of a session from its making. What holds at first and survives each step holds at the end of every
run; a run is also looked at as the list of its moments, and what happened in it is read off them.
-/

namespace TagConsole.Session

open Wire (Frame)

def fresh (config : Config) (bus : Link.Bus) : Session := { config := config, bus := bus }

structure Sound (s : Session) : Prop where
  tidy : s.Tidy
  linked : s.Linked
  queued : s.Queued

theorem fresh_sound (config : Config) (bus : Link.Bus) : (fresh config bus).Sound := by
  refine ⟨?_, ?_, ?_⟩
  · constructor
    · exact List.nodup_nil
    · simp [fresh]
    · constructor <;> simp [fresh]
    · constructor <;> simp [fresh]
  · constructor
    all_goals simp [fresh, attempt?, call?, Session.status]
  · constructor
    all_goals simp [fresh, request?, call?]

theorem Sound.step {s s' : Session} {action : Action} (sound : s.Sound) (h : s.step action = some s') :
    s'.Sound := by
  have move := step_move sound.tidy h
  exact ⟨move.tidy sound.tidy, move.linked sound.tidy sound.linked,
    move.queued sound.tidy sound.linked sound.queued⟩

structure Moment where
  before : Session
  action : Action
  after : Session

def moments (s : Session) : List Action → List Moment
  | [] => []
  | action :: later =>
    match s.step action with
    | none => []
    | some s' => ⟨s, action, s'⟩ :: s'.moments later

section Run

variable {s s' : Session} {actions : List Action}

theorem run_cons (action : Action) (later : List Action) :
    s.run (action :: later) = (s.step action).bind (·.run later) := rfl

theorem run_induction {P : Session → List Moment → Prop} (start : P s [])
    (next : ∀ before action after past, P before past → before.step action = some after →
      P after (past ++ [⟨before, action, after⟩]))
    (run : s.run actions = some s') : P s' (s.moments actions) := by
  have general : ∀ (actions : List Action) (s : Session) (past : List Moment), P s past →
      s.run actions = some s' → P s' (past ++ s.moments actions) := by
    intro actions
    induction actions with
    | nil =>
      rintro s past holds ⟨⟩
      rwa [moments, List.append_nil]
    | cons action later ih =>
      intro s past holds run
      rw [run_cons, Option.bind_eq_some_iff] at run
      obtain ⟨after, stepped, run⟩ := run
      simp only [moments, stepped]
      rw [List.append_cons]
      exact ih after _ (next s action after past holds stepped) run
  simpa using general actions s [] start run

theorem Sound.run (sound : s.Sound) (run : s.run actions = some s') : s'.Sound :=
  run_induction (P := fun s _ => s.Sound) sound (fun _ _ _ _ sound stepped => sound.step stepped) run

/-- What each step keeps may rest on what is known of every session. -/
theorem Sound.run_induction {P : Session → List Moment → Prop} (sound : s.Sound) (start : P s [])
    (next : ∀ before action after past, before.Sound → P before past → before.step action = some after →
      P after (past ++ [⟨before, action, after⟩]))
    (run : s.run actions = some s') : P s' (s.moments actions) := by
  have known := Session.run_induction (P := fun s past => s.Sound ∧ P s past) ⟨sound, start⟩ ?_ run
  · exact known.2
  · rintro before action after past ⟨sound, holds⟩ stepped
    exact ⟨sound.step stepped, next before action after past sound holds stepped⟩

theorem sound_of_run {config : Config} {bus : Link.Bus} (run : (fresh config bus).run actions = some s) : s.Sound :=
  (fresh_sound config bus).run run

end Run

def Leads (s s' : Session) : Prop := ∃ actions, s.run actions = some s'

section Leads

variable {s s' t : Session}

theorem Leads.refl (s : Session) : s.Leads s := ⟨[], rfl⟩

theorem Leads.head {action : Action} (leads : s'.Leads t) (stepped : s.step action = some s') : s.Leads t := by
  obtain ⟨actions, run⟩ := leads
  exact ⟨action :: actions, by rw [run_cons, stepped, Option.bind_some, run]⟩

theorem Leads.trans (first : s.Leads s') (second : s'.Leads t) : s.Leads t := by
  obtain ⟨actions, run⟩ := first
  induction actions generalizing s with
  | nil =>
    cases run
    exact second
  | cons action actions ih =>
    rw [run_cons, Option.bind_eq_some_iff] at run
    obtain ⟨after, stepped, run⟩ := run
    exact (ih run).head stepped

end Leads

end TagConsole.Session
