import TagConsole.Proofs.Session.Threads

/-!
What the status says once all threads have come to rest. A receiver and a connect share no lock, so it can be
wrong for good; it is if and only if something else was true already when it was published.
-/

namespace TagConsole

namespace Session

def streams (s : Session) : Bool := s.active.any fun link => !s.hasEnded link.generation

def IsFaithful (s : Session) : Prop := s.status = .connected ↔ s.streams = true

instance (s : Session) : Decidable s.IsFaithful := inferInstanceAs (Decidable (_ ↔ _))

end Session

namespace Threads

variable {t t' u : Threads}

structure Settled (t : Threads) : Prop where
  session : t.session.Settled
  landing : t.landing = none
  noticing : t.noticing = []
  losing : t.losing = []

instance (t : Threads) : Decidable t.Settled :=
  decidable_of_iff (t.session.Settled ∧ t.landing = none ∧ t.noticing = [] ∧ t.losing = [])
    ⟨fun ⟨session, landing, noticing, losing⟩ => ⟨session, landing, noticing, losing⟩,
      fun ⟨session, landing, noticing, losing⟩ => ⟨session, landing, noticing, losing⟩⟩

/-- The step that publishes the last status, and the threads before it. -/
def lastWord (t : Threads) : List Action → Option (Threads × Action)
  | [] => none
  | action :: later =>
    (t.step action).bind fun t' =>
      (t'.lastWord later).or (if t'.session.published = t.session.published then none else some (t, action))

/-- What a step is about to publish is not true any more. -/
inductive Overtaken (t : Threads) : Action → Prop where
  | connected {call link} (landing : t.landing = some ⟨call, link, true⟩) (gone : ¬ t.Attends link.generation) :
      Overtaken t .publish
  | lost {g link} (active : t.session.active = some link) (attends : t.Attends link.generation) :
      Overtaken t (.lose g)

def Attended (t : Threads) : Prop := ∃ link, t.session.active = some link ∧ t.Attends link.generation

def Idle (t : Threads) : Prop := t.losing = [] ∧ ∀ id, ¬ t.session.Underway id

theorem Settled.idle (settled : t.Settled) : t.Idle :=
  ⟨settled.losing, fun id ⟨call, present, underway⟩ => by simp [settled.session.idle present] at underway⟩

namespace Sound

open Session

theorem streams_iff (sound : t.Sound) (settled : t.Settled) : t.session.streams = true ↔ t.Attended := by
  simp only [Session.streams, Option.any_eq_true, Bool.not_eq_true', Attended]
  refine exists_congr fun link => and_congr_right fun active => ⟨fun more => ?_, fun attends => ?_⟩
  · rcases sound.active link active with attends | ended
    · exact attends
    · rw [more] at ended
      cases ended
  · -- a receiver that sees the end of its link would not be at rest
    by_contra ended
    obtain ⟨r, u, known, found, reader, taps, ended⟩ := (hasEnded_eq _).mp (Bool.not_eq_false _ ▸ ended)
    have listens := attends.1
    rw [Session.listens, known, Option.any_some, decide_eq_true_eq] at listens
    rcases settled.session.links r (receiver?_some known).1 with past | ⟨-, runs⟩
    · rw [listens] at past
      cases past
    · simp only [found, Option.bind_some, taps, Option.all_some] at runs
      simp [Transport.Reader.isEnded, runs] at ended

theorem idle_of_silent {action : Action} (sound : t.Sound) (stepped : t.step action = some t')
    (silent : t'.session.published = t.session.published) (idle : t'.Idle) :
    t.Idle ∧ (t'.Attended ↔ t.Attended) := by
  obtain ⟨nobody, idle⟩ := idle
  cases step_change stepped with
  | @whole action s' alone moved =>
    have move := step_move sound.tidy moved
    refine ⟨⟨nobody, fun id busy => idle id (move.underway sound.tidy silent busy)⟩, ?_⟩
    cases quiet_of_step sound.tidy alone moved with
    | takes turn present waits gone busy => exact absurd busy (idle _)
    | keeps active listens => simp only [Attended, Attends, active, listens]
  | starts free present taken =>
    have busy := attempt?_of_call? present rfl
    cases takeInUse_takes taken
    exact absurd ⟨_, busy, rfl⟩ (idle _)
  | installs landing => exact absurd (sound.landing_underway landing) (idle _)
  | publishes landing => simp [finish, setCall, Session.publish] at silent
  | notices sees => exact ⟨⟨nobody, idle⟩, Iff.rfl⟩
  | takes noticed current => cases nobody
  | @misses g noticed past =>
    refine ⟨⟨nobody, idle⟩, exists_congr fun link => and_congr_right fun active => ?_⟩
    have other : link.generation ≠ g := by
      rw [show t.session.active = some link from active] at past
      simpa using past
    simp [Attends, listens_updateReceiver, other]
  | loses lost => simp [updateReceiver, announceLoss, Session.publish, failWaiters, handMail] at silent

theorem whole_speaks {action : Session.Action} {s' : Session} (sound : t.Sound) (alone : t.isDivided action = false)
    (stepped : t.session.step action = some s') (speaks : s'.published ≠ t.session.published) :
    s'.status ≠ .connected ∧ s'.active = none := by
  have idle {id : Nat} {call : Call} (present : t.session.call? id = some call) (underway : call.isUnderway = true)
      (own : action.call? = some id) : t.session.active = none := by
    have known := attempt?_of_call? present (Call.isLifecycle_of_isUnderway underway)
    rcases sound.underway id ⟨call, known, underway⟩ with idle | ⟨other, link, landing⟩
    · exact idle
    · -- the call that is landing is the only one, and it does not go on in a step like this
      obtain ⟨call', present', underway'⟩ := sound.landing_underway landing
      obtain rfl := sound.tidy.underway_alone known underway present' underway'
      exact absurd own (sound.landing_call landing alone stepped)
  cases step_move sound.tidy stepped with
  | reopens present => exact ⟨by simp [Session.status], idle present rfl rfl⟩
  | disconnected present => exact ⟨by simp [Session.status], idle present rfl rfl⟩
  | discards present => exact ⟨by simp [Session.status], idle present rfl rfl⟩
  | loses => exact ⟨by simp [Session.status, Status.linkLost], rfl⟩
  | installs present =>
    cases quiet_of_step sound.tidy alone stepped with
    | takes turn present waits gone => cases gone
    | keeps active => cases active.trans (idle present rfl rfl)
  | _ => exact absurd rfl speaks

theorem says_iff {action : Action} (sound : t.Sound) (stepped : t.step action = some t')
    (speaks : t'.session.published ≠ t.session.published) :
    (t'.session.status = .connected ↔ t'.Attended) ↔ ¬ t.Overtaken action := by
  cases step_change stepped with
  | whole alone moved =>
    obtain ⟨other, gone⟩ := sound.whole_speaks alone moved speaks
    refine iff_of_true (iff_of_false other fun ⟨link, active, _⟩ => ?_) (fun overtaken => by cases overtaken)
    cases gone.symm.trans active
  | @publishes call link landing =>
    have said : ((t.session.publish .connected).finish call .done).status = .connected := by
      simp [Session.status, finish, setCall, Session.publish]
    rw [iff_true_left said]
    have overtaken : t.Overtaken .publish ↔ ¬ t.Attends link.generation := by
      constructor
      · rintro (⟨landing', gone⟩ | _)
        cases landing.symm.trans landing'
        exact gone
      · exact .connected landing
    rw [overtaken, not_not]
    constructor
    · rintro ⟨other, active, attends⟩
      rcases sound.installed call link landing with same | ⟨idle, -⟩
      · obtain rfl := Option.some.inj (same.symm.trans active)
        exact attends
      · cases idle.symm.trans active
    · intro attends
      rcases sound.installed call link landing with same | ⟨-, gone⟩
      · exact ⟨link, same, attends⟩
      · exact absurd attends gone
  | @loses g lost =>
    have said : (t.session.announceLoss.updateReceiver g .releasing).status ≠ .connected := by
      simp [Session.status, updateReceiver, announceLoss, Session.publish, Status.linkLost]
    rw [iff_false_left said, not_iff_not]
    constructor
    · rintro ⟨link, active, attends⟩
      exact .lost active ((attends_lose lost _).mp attends)
    · rintro (_ | ⟨active, attends⟩)
      exact ⟨_, active, (attends_lose lost _).mpr attends⟩
  | starts free present taken =>
    cases takeInUse_takes taken
    exact absurd rfl speaks
  | _ => exact absurd rfl speaks

end Sound

def fresh (config : Config) (bus : Link.Bus) : Threads := ⟨.fresh config bus, none, [], []⟩

theorem fresh_sound (config : Config) (bus : Link.Bus) : (fresh config bus).Sound := by
  constructor
  · exact (Session.fresh_sound config bus).tidy
  all_goals simp [fresh, Session.fresh, Session.Underway, Session.attempt?, Session.call?]

section Run

variable {actions : List Action}

theorem Sound.run (sound : t.Sound) (run : t.run actions = some u) : u.Sound := by
  induction actions generalizing t with
  | nil =>
    cases run
    exact sound
  | cons action later ih =>
    obtain ⟨t', stepped, run⟩ := Option.bind_eq_some_iff.mp run
    exact ih (sound.step stepped) run

/-- How the threads are at rest is told by the last word of the run, or by how they were at first. -/
structure Decides (t : Threads) (actions : List Action) (u : Threads) : Prop where
  silent : t.lastWord actions = none →
    u.session.published = t.session.published ∧ t.Idle ∧ (u.Attended ↔ t.Attended)
  word : ∀ before action, t.lastWord actions = some (before, action) →
    (u.session.IsFaithful ↔ ¬ before.Overtaken action)

theorem Sound.decides (sound : t.Sound) (run : t.run actions = some u) (settled : u.Settled) :
    t.Decides actions u := by
  have rests := sound.run run
  induction actions generalizing t with
  | nil =>
    cases run
    exact ⟨fun _ => ⟨rfl, settled.idle, Iff.rfl⟩, fun before action said => by cases said⟩
  | cons action later ih =>
    obtain ⟨t', stepped, run⟩ := Option.bind_eq_some_iff.mp run
    have after := ih (sound.step stepped) run
    have last : t.lastWord (action :: later) = (t'.lastWord later).or
        (if t'.session.published = t.session.published then none else some (t, action)) := by
      rw [lastWord, stepped, Option.bind_some]
    cases said : t'.lastWord later with
    | some word =>
      rw [said, Option.some_or] at last
      refine ⟨fun none => (by cases last.symm.trans none), fun before action said' => ?_⟩
      obtain rfl := Option.some.inj (last.symm.trans said')
      exact after.word before action said
    | none =>
      obtain ⟨published, idle, attended⟩ := after.silent said
      rw [said, Option.none_or] at last
      split at last
      · rename_i silent
        obtain ⟨idle, attended'⟩ := sound.idle_of_silent stepped silent idle
        refine ⟨fun _ => ⟨published.trans silent, idle, attended.trans attended'⟩, fun before action said' => ?_⟩
        cases last.symm.trans said'
      · rename_i speaks
        refine ⟨fun none => (by cases last.symm.trans none), fun before action said' => ?_⟩
        cases last.symm.trans said'
        rw [← sound.says_iff stepped speaks, Session.IsFaithful, rests.streams_iff settled, attended]
        simp only [Session.status, published]

/-- Whenever all threads have come to rest, the status tells whether a link is in use from which more may come, if and
    only if what was published last was true when it was published. -/
theorem faithful_iff {config : Config} {bus : Link.Bus} (run : (fresh config bus).run actions = some t)
    (settled : t.Settled) : t.session.IsFaithful ↔
      ∀ before action, (fresh config bus).lastWord actions = some (before, action) → ¬ before.Overtaken action := by
  have decides := (fresh_sound config bus).decides run settled
  cases last : (fresh config bus).lastWord actions with
  | none =>
    obtain ⟨published, -, attended⟩ := decides.silent last
    have idle : ¬ t.Attended := fun attends => by
      obtain ⟨link, active, -⟩ := attended.mp attends
      cases active
    have status : t.session.status ≠ .connected := by
      simp [Session.status, published, fresh, Session.fresh]
    refine iff_of_true (iff_of_false status ?_) fun before action said => by cases said
    rwa [((fresh_sound config bus).run run).streams_iff settled]
  | some word =>
    rw [decides.word word.1 word.2 last]
    constructor
    · rintro told before action said
      cases said
      exact told
    · exact fun told => told word.1 word.2 rfl

end Run

def adapter : Link.Bus := { devices := [.ofInfo ⟨"adapter", .usb, none⟩ .silent []] }

def starts : List Action :=
  [.whole (.begin (.connect .usb none)), .whole (.resume 0), .whole (.resume 0), .whole (.work 0), .start 0]

def ends : List Action :=
  [.whole (.happen (.close 0)), .whole (.read 0 0), .whole (.read 0 0), .notice 1, .take 1]

theorem faithful_iff_adapter : ∃ t, (fresh {} adapter).run (starts ++ [.install, .publish]) = some t ∧ t.Settled ∧
    (t.session.IsFaithful ↔ ∀ before action,
      (fresh {} adapter).lastWord (starts ++ [.install, .publish]) = some (before, action) →
        ¬ before.Overtaken action) :=
  ⟨_, rfl, by decide, faithful_iff rfl (by decide)⟩

/-- A receiver that looks for its link too early lets the status stay connected. So does one that says too early that its
    link is lost, and one that says so too late hides the link that was made since. -/
theorem not_faithful :
    (∃ t, (fresh {} adapter).run (starts ++ ends ++ [.install, .publish]) = some t ∧ t.Settled ∧
      t.session.status = .connected ∧ t.session.active = some ⟨0, 1⟩ ∧ t.session.hasEnded 1 = true) ∧
    (∃ t, (fresh {} adapter).run (starts ++ [.install] ++ ends ++ [.lose 1, .publish, .whole (.receive 1)]) = some t ∧
      t.Settled ∧ t.session.status = .connected ∧ t.session.active = none) ∧
    ∃ t, (fresh {} adapter).run (starts ++ [.install, .publish] ++ ends ++
        [.whole (.happen (.add (.ofInfo ⟨"other", .usb, none⟩ .silent []))),
          .whole (.begin (.connect .usb (some "other"))), .whole (.resume 1), .whole (.resume 1), .whole (.work 1),
          .start 1, .install, .publish, .lose 1, .whole (.receive 1)]) = some t ∧
      t.Settled ∧ t.session.status = .linkLost ∧ t.session.active = some ⟨1, 2⟩ ∧ t.session.hasEnded 2 = false :=
  ⟨⟨_, rfl, by decide, by decide, by decide, by decide⟩,
    ⟨_, rfl, by decide, by decide, by decide⟩,
    ⟨_, rfl, by decide, by decide, by decide, by decide⟩⟩

end Threads

end TagConsole
