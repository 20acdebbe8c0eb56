import TagConsole.Proofs.Session.Runs

/-!
Status, active link, waiters and transports agree whenever a session has come to rest.
-/

namespace TagConsole.Session

/-- No connect or disconnect is underway, and every link that has ended has been dealt with. -/
structure Settled (s : Session) : Prop where
  calls : ∀ entry ∈ s.calls, entry.2.isUnderway = false
  links : ∀ r ∈ s.receivers, r.stage = .over ∨ r.stage = .listening ∧
    (s.transports[r.transport]?.bind (·.readers[r.reader]?)).all (·.isRunning) = true

instance (s : Session) : Decidable s.Settled :=
  decidable_of_iff
    ((∀ entry ∈ s.calls, entry.2.isUnderway = false) ∧ ∀ r ∈ s.receivers, r.stage = .over ∨ r.stage = .listening ∧
      (s.transports[r.transport]?.bind (·.readers[r.reader]?)).all (·.isRunning) = true)
    ⟨fun ⟨calls, links⟩ => ⟨calls, links⟩, fun ⟨calls, links⟩ => ⟨calls, links⟩⟩

/-- What can be seen of a session fits together. -/
structure Consistent (s : Session) : Prop where
  not_connecting : s.status ≠ .connecting
  connected_iff : s.status = .connected ↔ s.active.isSome = true
  active_connected : ∀ link, s.active = some link →
    s.transports[link.transport]?.any (·.isConnected) = true
  idle_kind : s.active = none → s.kind? = none
  idle_waiters : s.active = none → s.waiters = []
  released : ∀ i t, s.transports[i]? = some t → (∀ link, s.active = some link → link.transport ≠ i) →
    t.writer = none ∧ t.isConnected = false

theorem Settled.idle {s : Session} (settled : s.Settled) {id : Nat} {call : Call}
    (present : s.attempt? id = some call) : call.isUnderway = false := by
  obtain ⟨left, right, whole, -⟩ := List.lookup_eq_some_iff.mp (call?_of_attempt? present)
  exact settled.calls (id, call) (by simp [whole])

theorem Settled.inUse_active {s : Session} (settled : s.Settled) {i : Nat} (used : s.InUse i) :
    ∃ generation, s.active = some ⟨i, generation⟩ := by
  rcases used with active | ⟨id, call, present, releases⟩
  · exact active
  · have idle := settled.idle present
    rw [Call.isUnderway_of_releasing? releases] at idle
    cases idle

theorem Sound.consistent {s : Session} (sound : s.Sound) (settled : s.Settled) : s.Consistent := by
  have idle := sound.linked.idle_status fun _ _ => settled.idle
  constructor
  · exact idle.2
  · exact idle.1
  · intro link active
    obtain ⟨t, found, isOpen⟩ := sound.linked.active_open link active
    have ⟨reader, readers, _⟩ := isOpen
    have taps : t.readers[0]? = some reader := by simp [readers]
    rcases settled.links _ (sound.linked.active_receiver link active) with past | ⟨-, runs⟩
    · cases past
    · rw [found, Option.any_some, isOpen.isConnected taps]
      simpa [found, taps] using runs
  · intro idle
    simp [kind?, transport?, idle]
  · intro idle
    by_contra waits
    obtain ⟨i, -, used⟩ := sound.queued.waiters_used waits
    obtain ⟨generation, active⟩ := settled.inUse_active used
    rw [idle] at active
    cases active
  · intro i t found elsewhere
    have released : t.writer = none := by
      by_contra writes
      rcases sound.linked.held i t found (Option.isSome_iff_ne_none.mpr writes) with used | ⟨r, member, rfl, stage⟩
      · obtain ⟨generation, active⟩ := settled.inUse_active used
        exact elsewhere _ active rfl
      · rcases settled.links r member with past | ⟨listens, -⟩
        · rw [past] at stage
          cases stage
        · rw [listens] at stage
          cases stage
    exact ⟨released, t.isConnected_of_writer released⟩

theorem settled_consistent {config : Config} {bus : Link.Bus} {actions : List Action} {s : Session}
    (run : (fresh config bus).run actions = some s) (settled : s.Settled) : s.Consistent :=
  (sound_of_run run).consistent settled

theorem settled_consistent_lost : ∃ bus actions s, (fresh {} bus).run actions = some s ∧ s.Settled ∧
    s.status = .linkLost ∧ s.transports.length = 1 ∧ s.Consistent := by
  let bus : Link.Bus := { devices := [.ofInfo ⟨"adapter", .usb, none⟩ .silent []] }
  let actions : List Action :=
    [.begin (.connect .usb none), .resume 0, .happen (.close 0), .resume 0, .work 0, .resume 0, .read 0 0, .read 0 0,
      .receive 1, .receive 1]
  have run : ∃ s, (fresh {} bus).run actions = some s ∧ s.Settled ∧ s.status = .linkLost ∧ s.transports.length = 1 :=
    ⟨_, rfl, by decide, by decide, rfl⟩
  obtain ⟨s, run, settled, lost, opened⟩ := run
  exact ⟨bus, actions, s, run, settled, lost, opened, settled_consistent run settled⟩

end TagConsole.Session
