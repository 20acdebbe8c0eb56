import TagConsole.Proofs.Session.Progress
import TagConsole.Proofs.Session.Runs

/-!
Calls that connect and disconnect get on, one after the other, whatever else goes on.
-/

namespace TagConsole.Session

def Call.remaining : Call → Nat
  | connect _ .waiting => 5
  | connect _ (.releasing _) => 4
  | connect _ .opening => 3
  | connect _ (.opened _) | disconnect .waiting => 2
  | connect _ (.discarding _) | disconnect (.releasing _) => 1
  | _ => 0

/-- One call that connects or disconnects has gone on or has come to its end. The others are where they were. -/
structure GoesOn (s s' : Session) (id : Nat) (old : Call) : Prop where
  others : ∀ other, other ≠ id → s'.attempt? other = s.attempt? other
  own : (∃ new, s'.attempt? id = some new ∧ new.remaining < old.remaining ∧ s'.lifecycle = s.lifecycle) ∨
    ∃ outcome, s'.call? id = some (.ended outcome) ∧ s'.lifecycle = s.lifecycle.erase id

section Steps

variable {s s' : Session} {action : Action} {id : Nat} {old new : Call}

theorem goesOn_of_next (attempts : ∀ other, s'.attempt? other =
      if other = id then (some new).filter (·.isLifecycle) else s.attempt? other)
    (connects : new.isLifecycle = true) (nearer : new.remaining < old.remaining)
    (lifecycle : s'.lifecycle = s.lifecycle) : GoesOn s s' id old := by
  refine ⟨fun other apart => by rw [attempts, if_neg apart], .inl ⟨new, ?_, nearer, lifecycle⟩⟩
  rw [attempts, if_pos rfl, Option.filter_some_pos connects]

theorem goesOn_of_end (attempts : ∀ other, s'.attempt? other =
      if other = id then (some new).filter (·.isLifecycle) else s.attempt? other)
    {outcome : Outcome} (ended : s'.call? id = some (.ended outcome))
    (lifecycle : s'.lifecycle = s.lifecycle.erase id) : GoesOn s s' id old :=
  ⟨fun other apart => by rw [attempts, if_neg apart], .inr ⟨outcome, ended, lifecycle⟩⟩

theorem Move.goesOn (move : Move s action s') (present : s.attempt? id = some old) (own : action.call? = some id) :
    GoesOn s s' id old := by
  obtain ⟨present, connects⟩ := Option.filter_eq_some_iff.mp present
  cases move with
  | @advances _ id' call _ _ _ known advance =>
    obtain rfl : id' = id := Option.some.inj (advance.call?_eq.symm.trans own)
    obtain rfl := Option.some.inj (known.symm.trans present)
    simp [advance.sends.1] at connects
  | takes known turn stage =>
    cases own
    obtain rfl := Option.some.inj (known.symm.trans present)
    rcases stage with ⟨transport, rfl, rfl⟩ | ⟨rfl, rfl⟩
    · exact goesOn_of_next (attempt?_replace present rfl) rfl (by simp [Call.remaining]) rfl
    · exact goesOn_of_next (attempt?_replace present rfl) rfl (by simp [Call.remaining]) rfl
  | reopens known =>
    cases own
    obtain rfl := Option.some.inj (known.symm.trans present)
    exact goesOn_of_next (attempt?_handMail_replace present rfl) rfl (by simp [Call.remaining]) rfl
  | disconnected known =>
    cases own
    exact goesOn_of_end (attempt?_handMail_replace present rfl) (call?_of_replace (call?_handMail present) rfl) rfl
  | opens known =>
    cases own
    obtain rfl := Option.some.inj (known.symm.trans present)
    exact goesOn_of_next (attempt?_replace present rfl) rfl (by simp [Call.remaining]) rfl
  | opensNot known =>
    cases own
    obtain rfl := Option.some.inj (known.symm.trans present)
    exact goesOn_of_next (attempt?_replace present rfl) rfl (by simp [Call.remaining]) rfl
  | attachesNot known =>
    cases own
    obtain rfl := Option.some.inj (known.symm.trans present)
    exact goesOn_of_next (attempt?_replace present rfl) rfl (by simp [Call.remaining]) rfl
  | installs known =>
    cases own
    exact goesOn_of_end (attempt?_replace present rfl) (call?_of_replace present rfl) rfl
  | discards known =>
    cases own
    exact goesOn_of_end (attempt?_replace present rfl) (call?_of_replace present rfl) rfl
  | _ => cases own

theorem Move.keeps_attempt (move : Move s action s') (tidy : s.Tidy) (present : s.attempt? id = some old)
    (other : action.call? ≠ some id) : s'.attempt? id = some old := by
  have same {s' : Session} (attempts : s'.attempt? = s.attempt?) : s'.attempt? id = some old := by
    rw [attempts, present]
  have begins {s' : Session} {call : Call} (calls : s'.calls = s.calls ++ [(s.nextCall, call)]) :
      s'.attempt? id = some old := by
    have earlier := tidy.lt_nextCall (call?_of_attempt? present)
    rw [attempt?_add tidy calls, if_neg (Nat.ne_of_lt earlier), present]
  have apart {s' : Session} {id' : Nat} {call : Call} (acts : id' ≠ id)
      (attempts : ∀ k, s'.attempt? k = if k = id' then (some call).filter (·.isLifecycle) else s.attempt? k) :
      s'.attempt? id = some old := by
    rw [attempts, if_neg acts.symm, present]
  have acts {id' : Nat} (different : some id' ≠ some id) : id' ≠ id := fun own => different (congrArg some own)
  cases move with
  | refusesSend => exact begins rfl
  | refusesRequest => exact begins rfl
  | sends => exact begins rfl
  | requests => exact begins rfl
  | connects => exact begins rfl
  | disconnects => exact begins rfl
  | advances known advance => exact same (attempt?_update known advance.sends rfl)
  | takes known => exact apart (acts other) (attempt?_replace known rfl)
  | reopens known => exact apart (acts other) (attempt?_handMail_replace known rfl)
  | disconnected known => exact apart (acts other) (attempt?_handMail_replace known rfl)
  | opens known => exact apart (acts other) (attempt?_replace known rfl)
  | opensNot known => exact apart (acts other) (attempt?_replace known rfl)
  | attachesNot known => exact apart (acts other) (attempt?_replace known rfl)
  | installs known => exact apart (acts other) (attempt?_replace known rfl)
  | discards known => exact apart (acts other) (attempt?_replace known rfl)
  | delivers => exact same (attempt?_handMail rfl)
  | loses => exact same (attempt?_handMail rfl)
  | _ => exact same rfl

end Steps

section Passes

variable {s : Session} {id : Nat} {call : Call}

theorem Sound.proceeds {s' : Session} (sound : s.Sound) (steps : Relation.ReflTransGen Proceeds s s') : s'.Sound := by
  induction steps with
  | refl => exact sound
  | tail _ last ih =>
    obtain ⟨id, stepped | stepped⟩ := last
    · exact ih.step stepped
    · exact ih.step stepped

theorem lifecycle_proceeds (linked : s.Linked) (turn : s.lifecycle.head? = some id)
    (present : s.attempt? id = some call) :
    ∃ action s', action.call? = some id ∧ s.step action = some s' ∧ Proceeds s s' := by
  have resumes {s' : Session} (stepped : s.step (.resume id) = some s') :
      ∃ action s', action.call? = some id ∧ s.step action = some s' ∧ Proceeds s s' :=
    ⟨_, s', rfl, stepped, id, .inl stepped⟩
  have exists_transport {transport : Nat} (opening : call.opening? = some transport) :
      ∃ t, s.transports[transport]? = some t :=
    ⟨_, List.getElem?_eq_getElem (linked.opening_lt id call transport present opening)⟩
  obtain ⟨known, connects⟩ := Option.filter_eq_some_iff.mp present
  cases call with
  | connect transport stage =>
    obtain ⟨t, found⟩ := exists_transport rfl
    have resume : s.step (.resume id) = s.resumeConnect id transport stage := by simp [step, Session.resume, known]
    cases stage with
    | waiting =>
      rw [resumeConnect, if_pos turn] at resume
      exact resumes resume
    | releasing previous => exact resumes resume
    | opening =>
      have work : s.step (.work id) = some (setCall { s with bus := (t.openLink s.config s.bus).2 } id
          (.connect transport (.opened (t.openLink s.config s.bus).1))) := by
        simp [step, Session.work, known, found]
      exact ⟨_, _, rfl, work, id, .inr work⟩
    | opened result =>
      cases result with
      | error cause => exact resumes resume
      | ok device =>
        obtain ⟨result, taken⟩ := exists_takeInUse found device
        have goes : (s.step (.resume id)).isSome = true := by
          rw [resume]
          simp only [resumeConnect, taken, Option.bind_eq_bind, Option.bind_some]
          split <;> rfl
        obtain ⟨s', stepped⟩ := Option.isSome_iff_exists.mp goes
        exact resumes stepped
    | discarding cause => exact resumes resume
  | disconnect stage =>
    have resume : s.step (.resume id) = s.resumeDisconnect id stage := by simp [step, Session.resume, known]
    cases stage with
    | waiting =>
      rw [resumeDisconnect, if_pos turn] at resume
      exact resumes resume
    | releasing previous => exact resumes resume
  | _ => cases connects

theorem lifecycle_passes (sound : s.Sound) (turn : s.lifecycle.head? = some id) (present : s.attempt? id = some call) :
    ∃ s', Relation.ReflTransGen Proceeds s s' ∧ (∃ outcome, s'.call? id = some (.ended outcome)) ∧
      s'.lifecycle = s.lifecycle.erase id ∧ ∀ other, other ≠ id → s'.attempt? other = s.attempt? other := by
  -- by induction on the steps that are left to it
  induction remaining : call.remaining using Nat.strong_induction_on generalizing s call with
  | h n ih =>
    obtain ⟨action, s₁, own, stepped, proceeds⟩ := lifecycle_proceeds sound.linked turn present
    have goesOn := (step_move sound.tidy stepped).goesOn present own
    rcases goesOn.own with ⟨new, present', nearer, lifecycle⟩ | ⟨outcome, ended, lifecycle⟩
    · obtain ⟨s', steps, ended, lifecycle', others⟩ :=
        ih new.remaining (remaining ▸ nearer) (sound.step stepped) (lifecycle ▸ turn) present' rfl
      refine ⟨s', .head proceeds steps, ended, by rw [lifecycle', lifecycle], fun other apart => ?_⟩
      rw [others other apart, goesOn.others other apart]
    · exact ⟨s₁, .single proceeds, ⟨outcome, ended⟩, lifecycle, goesOn.others⟩

/-- Every call that connects or disconnects can come to its turn, and to its end. -/
theorem lifecycle_ends (sound : s.Sound) (present : s.attempt? id = some call) :
    ∃ s' outcome, Relation.ReflTransGen Proceeds s s' ∧ s'.call? id = some (.ended outcome) := by
  -- by induction on the calls that stand before it
  generalize queue : s.lifecycle = waiting
  induction waiting generalizing s with
  | nil =>
    obtain ⟨known, connects⟩ := Option.filter_eq_some_iff.mp present
    have member : id ∈ s.lifecycle := (sound.tidy.lifecycle.mem_iff id).mpr (by
      rw [show s.calls.lookup id = some call from known]
      exact connects)
    rw [queue] at member
    cases member
  | cons first later ih =>
    have turn : s.lifecycle.head? = some first := by rw [queue]; rfl
    obtain ⟨known, wants⟩ := (Option.any_eq_true _ _).mp
      ((sound.tidy.lifecycle.mem_iff first).mp (List.mem_of_head? turn))
    obtain ⟨s₁, steps, ⟨outcome, ended⟩, lifecycle, others⟩ :=
      lifecycle_passes sound turn (attempt?_of_call? wants.1 wants.2)
    by_cases own : id = first
    · subst own
      exact ⟨s₁, outcome, steps, ended⟩
    · have queue' : s₁.lifecycle = later := by rw [lifecycle, queue, List.erase_cons_head]
      obtain ⟨s', outcome', steps', ended'⟩ :=
        ih (sound.proceeds steps) ((others id own).trans present) queue'
      exact ⟨s', outcome', steps.trans steps', ended'⟩

theorem run_of_proceeds {s' : Session} (steps : Relation.ReflTransGen Proceeds s s') :
    ∃ actions, s.run actions = some s' := by
  induction steps using Relation.ReflTransGen.head_induction_on with
  | refl => exact ⟨[], rfl⟩
  | head first _ ih =>
    obtain ⟨actions, run⟩ := ih
    obtain ⟨id, stepped | stepped⟩ := first
    · exact ⟨.resume id :: actions, by rw [run_cons, stepped, Option.bind_some, run]⟩
    · exact ⟨.work id :: actions, by rw [run_cons, stepped, Option.bind_some, run]⟩

end Passes

end TagConsole.Session
