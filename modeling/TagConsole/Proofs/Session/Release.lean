import TagConsole.Proofs.Session.Runs
import TagConsole.Proofs.Transport.Opening

/-!
Transports that were released. Only the call that a transport was made for opens it, and it does so once, so that
what was released afterwards stays released.
-/

namespace TagConsole

namespace Transport

structure IsReleased (t : Transport) : Prop where
  writer : t.writer = none
  isConnected : t.isConnected = false
  refuses : ∀ bus frame, t.send bus frame = (.error .notConnected, bus)

theorem isReleased_of_writer {t : Transport} (released : t.writer = none) : t.IsReleased := by
  have closed := isConnected_of_writer t released
  exact ⟨released, closed, fun bus frame => by simp [send, closed]⟩

structure Keeps (t t' : Transport) : Prop where
  kind : t'.kind = t.kind
  target : t'.target = t.target
  writer : t.writer = none → t'.writer = none

theorem keeps_refl (t : Transport) : t.Keeps t := ⟨rfl, rfl, id⟩

theorem keeps_readers (t : Transport) (readers : List Reader) : t.Keeps { t with readers := readers } := ⟨rfl, rfl, id⟩

theorem keeps_detach (t : Transport) : t.Keeps t.detach := by
  unfold detach
  split <;> exact ⟨rfl, rfl, fun _ => rfl⟩

end Transport

namespace Session

section Modify

variable {transports : List Transport} {i j : Nat} {t : Transport} {change : Transport → Transport}

theorem keeps_of_modify (found : transports[i]? = some t)
    (keeps : ∀ u, transports[j]? = some u → u.Keeps (change u)) :
    ∃ t', (transports.modify j change)[i]? = some t' ∧ t.Keeps t' := by
  by_cases own : j = i
  · subst own
    exact ⟨change t, by simp [found], keeps t found⟩
  · exact ⟨t, by rw [List.getElem?_modify_ne _ _ own, found], t.keeps_refl⟩

end Modify

theorem takeActive_modify (s : Session) : ∃ i change, s.takeActive.2.transports = s.transports.modify i change ∧
    ∀ t : Transport, t.Keeps (change t) := by
  unfold takeActive
  split
  · exact ⟨0, id, (List.modify_id 0 _).symm, Transport.keeps_refl⟩
  · simp only [abort]
    split
    · exact ⟨0, id, (List.modify_id 0 _).symm, Transport.keeps_refl⟩
    · exact ⟨_, _, rfl, fun t => t.keeps_readers _⟩

def Claims (s : Session) (id i : Nat) : Prop := ∃ call, s.attempt? id = some call ∧ call.opening? = some i

def Stays (s s' : Session) (i : Nat) (t : Transport) : Prop :=
  ∃ t', s'.transports[i]? = some t' ∧ t'.kind = t.kind ∧ t'.target = t.target ∧ (t.Keeps t' ∨ ∃ id, s.Claims id i)

section Steps

variable {s s' : Session} {action : Action} {i : Nat} {t : Transport}

theorem stays_of_keeps (keeps : ∃ t', s'.transports[i]? = some t' ∧ t.Keeps t') : s.Stays s' i t := by
  obtain ⟨t', found, keeps⟩ := keeps
  exact ⟨t', found, keeps.kind, keeps.target, .inl keeps⟩

theorem stays_of_attach {id transport device : Nat} {u u' w : Transport} {result : Except Transport.Error Unit}
    {bus : Link.Bus} (found : s.transports[i]? = some t)
    (present : s.call? id = some (.connect transport (.opened (.ok device))))
    (known : s.transports[transport]? = some u) (attached : u.attach s.config s.bus device = (result, u', bus))
    (changed : w.kind = u'.kind ∧ w.target = u'.target)
    (transports : s'.transports = s.transports.modify transport fun _ => w) : s.Stays s' i t := by
  by_cases own : transport = i
  · subst own
    obtain rfl := Option.some.inj (known.symm.trans found)
    have keeps := u.attach_keeps s.config s.bus device
    rw [attached] at keeps
    refine ⟨w, by simp [transports, known], changed.1.trans keeps.1, changed.2.trans keeps.2, .inr ?_⟩
    exact ⟨id, _, attempt?_of_call? present rfl, rfl⟩
  · exact stays_of_keeps ⟨t, by rw [transports, List.getElem?_modify_ne _ _ own, found], t.keeps_refl⟩

theorem Move.keeps_transport (move : Move s action s') (found : s.transports[i]? = some t) : s.Stays s' i t := by
  have detached {previous : Option Nat} : ∃ t', (s.detach previous).transports[i]? = some t' ∧ t.Keeps t' := by
    cases previous with
    | none => exact ⟨t, found, t.keeps_refl⟩
    | some j => exact keeps_of_modify found fun u _ => u.keeps_detach
  cases move with
  | connects =>
    refine stays_of_keeps ⟨t, ?_, t.keeps_refl⟩
    rw [List.getElem?_append_left (List.getElem?_eq_some_iff.mp found).1, found]
  | takes =>
    obtain ⟨j, change, modified, keeps⟩ := s.takeActive_modify
    exact stays_of_keeps (modified ▸ keeps_of_modify found fun u _ => keeps u)
  | reopens => exact stays_of_keeps detached
  | disconnected => exact stays_of_keeps detached
  | attachesNot present known refused =>
    rcases refused with refused | ⟨attached, -, -⟩
    · exact stays_of_attach found present known refused ⟨rfl, rfl⟩ rfl
    · exact stays_of_attach found present known attached ⟨rfl, rfl⟩ rfl
  | installs present known attached =>
    refine stays_of_attach found present known attached ?_ rfl
    exact ⟨rfl, rfl⟩
  | discards => exact stays_of_keeps (keeps_of_modify found fun u _ => u.keeps_detach)
  | reads known turned =>
    obtain ⟨reader, reader', device, link', -, -, -, rfl, -⟩ := Transport.stepReader_some turned
    refine stays_of_keeps (keeps_of_modify found fun u known' => ?_)
    obtain rfl := Option.some.inj (known.symm.trans known')
    exact Transport.keeps_readers _ _
  | delivers => exact stays_of_keeps (keeps_of_modify found fun u _ => u.keeps_readers _)
  | publishes => exact stays_of_keeps (keeps_of_modify found fun u _ => u.keeps_readers _)
  | releases => exact stays_of_keeps (keeps_of_modify found fun u _ => u.keeps_detach)
  | _ => exact stays_of_keeps ⟨t, found, t.keeps_refl⟩

theorem claims_of_replace {id id' : Nat} {old new : Call} (known : s.attempt? id' = some old)
    (attempts : ∀ other, s'.attempt? other = if other = id' then (some new).filter (·.isLifecycle) else s.attempt? other)
    (keeps : ∀ j, new.opening? = some j → old.opening? = some j) (claims : s'.Claims id i) : s.Claims id i := by
  obtain ⟨call, present, opening⟩ := claims
  rw [attempts] at present
  split at present
  · rename_i own
    subst own
    obtain rfl := Option.some.inj (Option.filter_eq_some_iff.mp present).1
    exact ⟨old, known, keeps i opening⟩
  · exact ⟨call, present, opening⟩

theorem Move.claims (move : Move s action s') (tidy : s.Tidy) {id : Nat} (claims : s'.Claims id i) :
    s.Claims id i ∨ s.transports.length ≤ i := by
  have same (attempts : s'.attempt? = s.attempt?) : s.Claims id i ∨ s.transports.length ≤ i := by
    obtain ⟨call, present, opening⟩ := claims
    exact .inl ⟨call, by rwa [← attempts], opening⟩
  have goesOn {id' : Nat} {old new : Call} (known : s.call? id' = some old) (connects : old.isLifecycle = true)
      (attempts : ∀ other, s'.attempt? other =
        if other = id' then (some new).filter (·.isLifecycle) else s.attempt? other)
      (keeps : ∀ j, new.opening? = some j → old.opening? = some j) : s.Claims id i ∨ s.transports.length ≤ i :=
    .inl (claims_of_replace (attempt?_of_call? known connects) attempts keeps claims)
  have begins {new : Call} (calls : s'.calls = s.calls ++ [(s.nextCall, new)])
      (fresh : ∀ j, new.opening? = some j → s.transports.length ≤ j) :
      s.Claims id i ∨ s.transports.length ≤ i := by
    obtain ⟨call, present, opening⟩ := claims
    rw [attempt?_add tidy calls] at present
    split at present
    · obtain rfl := Option.some.inj (Option.filter_eq_some_iff.mp present).1
      exact .inr (fresh i opening)
    · exact .inl ⟨call, present, opening⟩
  cases move with
  | refusesSend => exact begins rfl (by simp [Call.opening?])
  | refusesRequest => exact begins rfl (by simp [Call.opening?])
  | sends => exact begins rfl (by simp [Call.opening?])
  | requests => exact begins rfl (by simp [Call.opening?])
  | connects => exact begins rfl (by simp [Call.opening?])
  | disconnects => exact begins rfl (by simp [Call.opening?])
  | advances known advance => exact same (attempt?_update known advance.sends rfl)
  | takes known turn stage =>
    rcases stage with ⟨transport, rfl, rfl⟩ | ⟨rfl, rfl⟩
    · exact goesOn known rfl (attempt?_replace known rfl) fun _ same => same
    · exact goesOn known rfl (attempt?_replace known rfl) (by simp [Call.opening?])
  | reopens known => exact goesOn known rfl (attempt?_handMail_replace known rfl) fun _ same => same
  | disconnected known => exact goesOn known rfl (attempt?_handMail_replace known rfl) (by simp [Call.opening?])
  | opens known => exact goesOn known rfl (attempt?_replace known rfl) fun _ same => same
  | opensNot known => exact goesOn known rfl (attempt?_replace known rfl) fun _ same => same
  | attachesNot known => exact goesOn known rfl (attempt?_replace known rfl) fun _ same => same
  | installs known => exact goesOn known rfl (attempt?_replace known rfl) (by simp [Call.opening?])
  | discards known => exact goesOn known rfl (attempt?_replace known rfl) (by simp [Call.opening?])
  | delivers => exact same (attempt?_handMail rfl)
  | loses => exact same (attempt?_handMail rfl)
  | _ => exact same rfl

end Steps

/-- No call is to open the transport, now or later. -/
structure Unclaimed (s : Session) (i : Nat) : Prop where
  lt : i < s.transports.length
  unclaimed : ∀ id, ¬ s.Claims id i

structure Shut (s : Session) (i : Nat) : Prop where
  unclaimed : s.Unclaimed i
  writer : ∀ t, s.transports[i]? = some t → t.writer = none

section Shut

variable {s s' : Session} {action : Action} {i : Nat}

theorem Unclaimed.step (free : s.Unclaimed i) (tidy : s.Tidy) (move : Move s action s') : s'.Unclaimed i := by
  constructor
  · obtain ⟨t', found, -⟩ := move.keeps_transport (List.getElem?_eq_getElem free.lt)
    exact (List.getElem?_eq_some_iff.mp found).1
  · intro id claims
    rcases move.claims tidy claims with claims | new
    · exact free.unclaimed id claims
    · exact absurd free.lt (Nat.not_lt.mpr new)

theorem Shut.step (shut : s.Shut i) (tidy : s.Tidy) (move : Move s action s') : s'.Shut i := by
  refine ⟨shut.unclaimed.step tidy move, fun t' found' => ?_⟩
  have found := List.getElem?_eq_getElem shut.unclaimed.lt
  obtain ⟨t'', found'', -, -, keeps | ⟨id, claims⟩⟩ := move.keeps_transport found
  · obtain rfl := Option.some.inj (found''.symm.trans found')
    exact keeps.writer (shut.writer _ found)
  · exact absurd claims (shut.unclaimed.unclaimed id)

theorem Shut.run {later : List Action} (shut : s.Shut i) (sound : s.Sound) (run : s.run later = some s') :
    s'.Shut i := by
  refine sound.run_induction (P := fun s _ => s.Shut i) shut ?_ run
  intro before action after past sound shut stepped
  exact shut.step sound.tidy (step_move sound.tidy stepped)

theorem Shut.released (shut : s.Shut i) : ∃ t, s.transports[i]? = some t ∧ t.IsReleased := by
  have found := List.getElem?_eq_getElem shut.unclaimed.lt
  exact ⟨_, found, Transport.isReleased_of_writer (shut.writer _ found)⟩

end Shut

end Session

end TagConsole
