import TagConsole.Proofs.Session.Consistency
import TagConsole.Proofs.Session.Lifecycle
import TagConsole.Proofs.Session.Readers
import TagConsole.Session.Threads

/-!
What holds of a session and of the threads in it between any two of their steps. A link in use has a receiver that
has not looked for it yet, or nothing more comes from it.
-/

namespace TagConsole

open Session (Landing Receiver ActiveLink)

namespace Session

variable {s s' : Session} {action : Action} {g : Nat}

theorem receiver?_map {change : Receiver → Receiver} (same : ∀ r, (change r).generation = r.generation) (g : Nat) :
    (s.receivers.map change).find? (·.generation = g) = (s.receiver? g).map change := by
  rw [List.find?_map, receiver?]
  simp only [Function.comp_def, same]

theorem receiver?_updateReceiver (s : Session) (g h : Nat) (stage : Receiver.Stage) :
    (s.updateReceiver h stage).receiver? g = (s.receiver? g).map fun r =>
      if r.generation = h then { r with stage := stage } else r :=
  receiver?_map (fun r => by split <;> rfl) g

theorem receiver?_generation {r : Receiver} (known : s.receiver? g = some r) : r.generation = g := (receiver?_some known).2

theorem listens_updateReceiver {h : Nat} {stage : Receiver.Stage} (other : stage ≠ .listening) :
    (s.updateReceiver h stage).listens g = (s.listens g && g ≠ h) := by
  rw [listens, listens, receiver?_updateReceiver]
  cases known : s.receiver? g with
  | none => rfl
  | some r =>
    rw [← receiver?_generation known]
    by_cases same : r.generation = h <;> simp [same, other]

theorem hasEnded_eq (g : Nat) : s.hasEnded g = true ↔ ∃ r t, s.receiver? g = some r ∧
    s.transports[r.transport]? = some t ∧ t.HasEnded r.reader := by
  simp only [hasEnded, Option.any_eq_true, Option.bind_eq_some_iff, Transport.HasEnded]
  constructor
  · rintro ⟨r, known, reader, ⟨t, found, taps⟩, ended⟩
    exact ⟨r, t, known, found, reader, taps, ended⟩
  · rintro ⟨r, t, known, found, reader, taps, ended⟩
    exact ⟨r, known, reader, ⟨t, found, taps⟩, ended⟩

theorem hasEnded_of_receivers {r r' : Receiver} (ended : s.hasEnded g = true) (known : s.receiver? g = some r)
    (known' : s'.receiver? g = some r') (transport : r'.transport = r.transport) (reader : r'.reader = r.reader)
    (transports : ∀ (i : Nat) t, s.transports[i]? = some t → t.HasEnded r.reader →
      ∃ t', s'.transports[i]? = some t' ∧ t'.HasEnded r.reader) : s'.hasEnded g = true := by
  obtain ⟨old, t, there, found, ended⟩ := (hasEnded_eq g).mp ended
  obtain rfl := Option.some.inj (known.symm.trans there)
  obtain ⟨t', found', ended'⟩ := transports _ t found ended
  exact (hasEnded_eq g).mpr ⟨r', t', known', transport ▸ found', reader ▸ ended'⟩

theorem Move.receiver? (move : Move s action s') {r : Receiver} (known : s.receiver? g = some r) :
    ∃ r', s'.receiver? g = some r' ∧ r'.transport = r.transport ∧ r'.reader = r.reader := by
  have staged {s' : Session} {change : Receiver → Receiver} (receivers : s'.receivers = s.receivers.map change)
      (same : ∀ r, (change r).generation = r.generation ∧ (change r).transport = r.transport ∧
        (change r).reader = r.reader) :
      ∃ r', s'.receiver? g = some r' ∧ r'.transport = r.transport ∧ r'.reader = r.reader := by
    refine ⟨change r, ?_, (same r).2⟩
    rw [Session.receiver?, receivers, receiver?_map fun r => (same r).1, known, Option.map_some]
  cases move with
  | takes => exact staged s.takeActive_receivers fun r => by split <;> exact ⟨rfl, rfl, rfl⟩
  | installs =>
    refine ⟨r, ?_, rfl, rfl⟩
    rw [Session.receiver?, List.find?_append, show s.receivers.find? _ = some r from known, Option.some_or]
  | loses => exact staged rfl fun r => by split <;> exact ⟨rfl, rfl, rfl⟩
  | noticesLate => exact staged rfl fun r => by split <;> exact ⟨rfl, rfl, rfl⟩
  | releases => exact staged rfl fun r => by split <;> exact ⟨rfl, rfl, rfl⟩
  | _ => exact ⟨r, known, rfl, rfl⟩

theorem Move.generations_le (move : Move s action s') (bound : ∀ g ∈ s.receivers.map (·.generation), g ≤ s.generation) :
    ∀ g ∈ s'.receivers.map (·.generation), g ≤ s'.generation := by
  have staged {h : Nat} {stage : Receiver.Stage} :
      ∀ g ∈ (s.updateReceiver h stage).receivers.map (·.generation), g ≤ s.generation := by
    rw [updateReceiver_generations]
    exact bound
  cases move with
  | takes => simpa only [takeActive_generations] using bound
  | installs =>
    intro g member
    rw [List.map_append, List.mem_append, List.map_singleton, List.mem_singleton] at member
    rcases member with member | rfl
    · exact Nat.le_succ_of_le (bound g member)
    · exact Nat.le_refl _
  | loses => exact staged
  | noticesLate => exact staged
  | releases => exact staged
  | _ => exact bound

theorem Move.hasEnded (move : Move s action s') (ended : s.hasEnded g = true) : s'.hasEnded g = true := by
  obtain ⟨r, t, known, found, -⟩ := (hasEnded_eq g).mp ended
  obtain ⟨r', known', transport, reader⟩ := move.receiver? known
  exact hasEnded_of_receivers ended known known' transport reader fun i t found ended =>
    move.transport_hasEnded found ended

theorem hasEnded_updateReceiver {h : Nat} {stage : Receiver.Stage} :
    (s.updateReceiver h stage).hasEnded g = s.hasEnded g := by
  rw [Session.hasEnded, receiver?_updateReceiver, Session.hasEnded]
  cases s.receiver? g with
  | none => rfl
  | some r =>
    simp only [Option.map_some, Option.any_some]
    split <;> rfl

def Underway (s : Session) (id : Nat) : Prop := ∃ call, s.attempt? id = some call ∧ call.isUnderway = true

theorem underway_congr (attempts : s'.attempt? = s.attempt?) (id : Nat) : s'.Underway id ↔ s.Underway id := by
  simp only [Underway, attempts]

theorem underway_add {call : Call} (tidy : s.Tidy) (waits : call.isUnderway = false)
    (calls : s'.calls = s.calls ++ [(s.nextCall, call)]) {id : Nat} (underway : s'.Underway id) : s.Underway id := by
  obtain ⟨other, present, underway⟩ := underway
  rw [attempt?_add tidy calls] at present
  split at present
  · obtain rfl := Option.some.inj (Option.filter_eq_some_iff.mp present).1
    rw [waits] at underway
    cases underway
  · exact ⟨other, present, underway⟩

theorem underway_of_replace {id other : Nat} {old new : Call} (present : s.call? id = some old)
    (was : old.isUnderway = true) (attempts : ∀ other, s'.attempt? other =
      if other = id then (some new).filter (·.isLifecycle) else s.attempt? other)
    (underway : s'.Underway other) : s.Underway other := by
  obtain ⟨call, known, underway⟩ := underway
  rw [attempts] at known
  split at known
  · rename_i own
    subst own
    exact ⟨old, attempt?_of_call? present (Call.isLifecycle_of_isUnderway was), was⟩
  · exact ⟨call, known, underway⟩

theorem Move.underway (move : Move s action s') (tidy : s.Tidy) (silent : s'.published = s.published) {id : Nat}
    (underway : s.Underway id) : s'.Underway id := by
  obtain ⟨call, present, underway⟩ := underway
  by_cases own : action.call? = some id
  · have goesOn {new : Call} (present : s.call? id = some call) (next : new.isUnderway = true)
        (calls : s'.calls = s.calls.replace id new) : s'.Underway id := by
      refine ⟨new, ?_, next⟩
      rw [attempt?_goesOn present (Call.isLifecycle_of_isUnderway next) calls, if_pos rfl]
    have known := call?_of_attempt? present
    cases move with
    | advances known' advance =>
      obtain rfl := Option.some.inj (advance.call?_eq.symm.trans own)
      obtain rfl := Option.some.inj (known'.symm.trans known)
      have connects := Call.isLifecycle_of_isUnderway underway
      rw [advance.sends.1] at connects
      cases connects
    | takes known' turn stage =>
      cases own
      obtain rfl := Option.some.inj (known'.symm.trans known)
      rcases stage with ⟨transport, rfl, rfl⟩ | ⟨rfl, rfl⟩ <;> cases underway
    | opens known' =>
      cases own
      exact goesOn known rfl rfl
    | opensNot known' =>
      cases own
      exact goesOn known rfl rfl
    | attachesNot known' =>
      cases own
      exact goesOn known rfl rfl
    | reopens => simp at silent
    | disconnected => simp at silent
    | installs => simp at silent
    | discards => simp at silent
    | _ => cases own
  · exact ⟨call, move.keeps_attempt tidy present own, underway⟩

/-- A step that nobody can come into takes the link in use for a connect or a disconnect that begins, or leaves the link
    in use with its receiver. -/
inductive Quiet (s s' : Session) : Prop where
  | takes {id call} (turn : s.lifecycle.head? = some id) (present : s.attempt? id = some call)
      (waits : call.isUnderway = false) (gone : s'.active = none) (busy : s'.Underway id)
  | keeps (active : s'.active = s.active) (listens : ∀ g, s'.listens g = s.listens g)
      (underway : ∀ id, s'.Underway id → s.Underway id)

end Session

namespace Threads

variable {t t' : Threads} {s' : Session} {action : Session.Action}

open Session

theorem quiet_of_step (tidy : t.session.Tidy) (whole : t.isDivided action = false)
    (stepped : t.session.step action = some s') : t.session.Quiet s' := by
  have calm {s' : Session} (active : s'.active = t.session.active) (receivers : s'.receivers = t.session.receivers)
      (underway : ∀ id, s'.Underway id → t.session.Underway id) : t.session.Quiet s' :=
    .keeps active (fun g => by simp only [Session.listens, Session.receiver?, receivers]) underway
  have sees {g : Nat} {r : Receiver} {u : Transport} {reader : Transport.Reader}
      (known : t.session.receiver? g = some r) (stage : r.stage = .listening)
      (found : t.session.transports[r.transport]? = some u) (taps : u.readers[r.reader]? = some reader)
      (ended : reader.isEnded = true) : t.session.seesEnd g = true := by
    simp [seesEnd, Session.listens, Session.hasEnded, known, stage, found, taps, ended]
  have move := step_move tidy stepped
  cases move with
  | refusesSend => exact calm rfl rfl fun id => underway_add tidy rfl rfl
  | refusesRequest => exact calm rfl rfl fun id => underway_add tidy rfl rfl
  | sends => exact calm rfl rfl fun id => underway_add tidy rfl rfl
  | requests => exact calm rfl rfl fun id => underway_add tidy rfl rfl
  | connects => exact calm rfl rfl fun id => underway_add tidy rfl rfl
  | disconnects => exact calm rfl rfl fun id => underway_add tidy rfl rfl
  | advances present advance =>
    exact calm rfl rfl fun id => (underway_congr (attempt?_update present advance.sends rfl) id).mp
  | @takes id old new present turn stage =>
    have connects : old.isLifecycle = true ∧ old.isUnderway = false ∧ new.isUnderway = true := by
      rcases stage with ⟨transport, rfl, rfl⟩ | ⟨rfl, rfl⟩ <;> exact ⟨rfl, rfl, rfl⟩
    refine .takes turn (attempt?_of_call? present connects.1) connects.2.1 rfl ⟨new, ?_, connects.2.2⟩
    rw [attempt?_goesOn present (Call.isLifecycle_of_isUnderway connects.2.2) rfl, if_pos rfl]
  | reopens present =>
    exact calm rfl rfl fun id => underway_of_replace present rfl (attempt?_handMail_replace present rfl)
  | disconnected present =>
    exact calm rfl rfl fun id => underway_of_replace present rfl (attempt?_handMail_replace present rfl)
  | opens present => exact calm rfl rfl fun id => underway_of_replace present rfl (attempt?_replace present rfl)
  | opensNot present => exact calm rfl rfl fun id => underway_of_replace present rfl (attempt?_replace present rfl)
  | attachesNot present =>
    exact calm rfl rfl fun id => underway_of_replace present rfl (attempt?_replace present rfl)
  | discards present => exact calm rfl rfl fun id => underway_of_replace present rfl (attempt?_replace present rfl)
  | @installs id transport device u u' bus present found attached handsOut =>
    have opened : t.session.opened? id = some (transport, device) := by simp [opened?, present]
    obtain ⟨result, taken⟩ := exists_takeInUse found device
    have ok : result.1.isOk = true := by
      cases takeInUse_takes taken with
      | refused found' refused =>
        obtain rfl := Option.some.inj (found.symm.trans found')
        cases attached.symm.trans refused
      | withheld found' attached' withholds => cases handsOut.symm.trans withholds
      | taken => rfl
    simp [isDivided, opened, taken, ok] at whole
  | delivers => exact calm rfl rfl fun id => (underway_congr (attempt?_handMail rfl) id).mp
  | loses known stage found taps ended => cases whole.symm.trans (sees known stage found taps ended)
  | noticesLate known stage found taps ended => cases whole.symm.trans (sees known stage found taps ended)
  | @releases generation receiver known stage =>
    refine .keeps rfl (fun g => ?_) fun id => (underway_congr rfl id).mp
    change (t.session.updateReceiver generation .over).listens g = t.session.listens g
    rw [listens_updateReceiver (by simp)]
    by_cases same : g = generation
    · simp [same, Session.listens, known, stage]
    · simp [same]
  | _ => exact calm rfl rfl fun id => (underway_congr rfl id).mp

inductive Change (t : Threads) : Action → Threads → Prop where
  | whole {action : Session.Action} {s' : Session} (alone : t.isDivided action = false) (stepped : t.session.step action = some s') :
      Change t (.whole action) { t with session := s' }
  | starts {call transport device reader s'} (free : t.landing = none)
      (present : t.session.call? call = some (.connect transport (.opened (.ok device))))
      (taken : t.session.takeInUse transport device = some (.ok reader, s')) :
      Change t (.start call) { t with
        session := s'.spawn transport reader
        landing := some ⟨call, ⟨transport, s'.generation + 1⟩, false⟩ }
  | installs {call link} (landing : t.landing = some ⟨call, link, false⟩) :
      Change t .install { t with session := t.session.activate link, landing := some ⟨call, link, true⟩ }
  | publishes {call link} (landing : t.landing = some ⟨call, link, true⟩) :
      Change t .publish { t with session := (t.session.publish .connected).finish call .done, landing := none }
  | notices {g} (sees : t.session.seesEnd g = true) : Change t (.notice g) { t with noticing := g :: t.noticing }
  | takes {g} (noticed : g ∈ t.noticing) (current : t.session.active.any (·.generation = g) = true) :
      Change t (.take g) { t with
        session := { t.session with active := none }
        noticing := t.noticing.erase g
        losing := g :: t.losing }
  | misses {g} (noticed : g ∈ t.noticing) (past : t.session.active.any (·.generation = g) = false) :
      Change t (.take g) { t with session := t.session.updateReceiver g .over, noticing := t.noticing.erase g }
  | loses {g} (lost : g ∈ t.losing) :
      Change t (.lose g) { t with
        session := t.session.announceLoss.updateReceiver g .releasing
        losing := t.losing.erase g }

theorem opened?_some {s : Session} {id transport device : Nat} (opened : s.opened? id = some (transport, device)) :
    s.call? id = some (.connect transport (.opened (.ok device))) := by
  unfold opened? at opened
  split at opened
  · rename_i present
    cases opened
    exact present
  · cases opened

theorem step_change {action : Action} (h : t.step action = some t') : t.Change action t' := by
  cases action with
  | whole action =>
    simp only [step] at h
    split at h
    · cases h
    · rename_i alone
      obtain ⟨s', stepped, rfl⟩ := Option.map_eq_some_iff.mp h
      exact .whole (Bool.eq_false_iff.mpr alone) stepped
  | start call =>
    simp only [step, Option.bind_eq_bind, Option.bind_eq_some_iff] at h
    obtain ⟨⟨transport, device⟩, opened, result, taken, h⟩ := h
    split at h
    · rename_i reader s' free
      cases h
      exact .starts free (opened?_some opened) taken
    · cases h
  | install =>
    simp only [step] at h
    split at h
    · rename_i call link landing
      cases h
      exact .installs landing
    · cases h
  | publish =>
    simp only [step] at h
    split at h
    · rename_i call link landing
      cases h
      exact .publishes landing
    · cases h
  | notice g =>
    simp only [step] at h
    split at h
    · rename_i sees
      cases h
      exact .notices sees.1
    · cases h
  | take g =>
    simp only [step, takeLost] at h
    split at h
    · rename_i noticed
      by_cases current : t.session.active.any (·.generation = g) = true
      · rw [if_pos current] at h
        cases h
        exact .takes noticed current
      · rw [if_neg current] at h
        cases h
        exact .misses noticed (Bool.eq_false_iff.mpr current)
    · cases h
  | lose g =>
    simp only [step] at h
    split at h
    · rename_i lost
      cases h
      exact .loses lost
    · cases h

/-- A link has a receiver that has not looked for it yet. -/
def Attends (t : Threads) (g : Nat) : Prop := t.session.listens g = true ∧ g ∉ t.losing

/-- What holds of the threads whenever none of them is inside a step of its own. -/
structure Sound (t : Threads) : Prop where
  tidy : t.session.Tidy
  landed : ∀ l, t.landing = some l → ∃ transport device,
    t.session.call? l.call = some (.connect transport (.opened (.ok device)))
  generations : ∀ g ∈ t.session.receivers.map (·.generation), g ≤ t.session.generation
  noticed : ∀ g ∈ t.noticing, t.session.hasEnded g = true
  lost : ∀ g ∈ t.losing, t.session.hasEnded g = true
  starting : ∀ call link, t.landing = some ⟨call, link, false⟩ →
    t.Attends link.generation ∨ t.session.hasEnded link.generation = true
  active : ∀ link, t.session.active = some link →
    t.Attends link.generation ∨ t.session.hasEnded link.generation = true
  installed : ∀ call link, t.landing = some ⟨call, link, true⟩ →
    t.session.active = some link ∨ t.session.active = none ∧ ¬ t.Attends link.generation
  underway : ∀ id, t.session.Underway id →
    t.session.active = none ∨ ∃ call link, t.landing = some ⟨call, link, true⟩

namespace Sound

theorem landing_underway (sound : t.Sound) {l : Landing} (landing : t.landing = some l) :
    t.session.Underway l.call := by
  obtain ⟨transport, device, present⟩ := sound.landed l landing
  exact ⟨_, attempt?_of_call? present rfl, rfl⟩

theorem landing_call (sound : t.Sound) {l : Landing} (landing : t.landing = some l)
    (alone : t.isDivided action = false) (stepped : t.session.step action = some s') :
    action.call? ≠ some l.call := by
  intro own
  obtain ⟨transport, device, present⟩ := sound.landed l landing
  cases action with
  | resume id =>
    cases own
    simp [isDivided, landing] at alone
  | work id =>
    cases own
    simp [Session.step, Session.work, present] at stepped
  | expire id =>
    cases own
    simp [Session.step, Session.expire, present] at stepped
  | cancel id =>
    cases own
    simp [Session.step, Session.cancel, present] at stepped
  | _ => cases own

theorem nobody_lands (sound : t.Sound) {id : Nat} {call : Call} (turn : t.session.lifecycle.head? = some id)
    (present : t.session.attempt? id = some call) (waits : call.isUnderway = false) : t.landing = none := by
  by_contra lands
  obtain ⟨l, landing⟩ := Option.ne_none_iff_exists'.mp lands
  obtain ⟨call', present', underway⟩ := sound.landing_underway landing
  have first := sound.tidy.lifecycle_first present' underway
  obtain rfl := Option.some.inj (turn.symm.trans first)
  obtain rfl := Option.some.inj (present.symm.trans present')
  rw [waits] at underway
  cases underway

theorem generation_le (sound : t.Sound) {g : Nat} (ended : t.session.hasEnded g = true) : g ≤ t.session.generation := by
  obtain ⟨r, -, known, -⟩ := (hasEnded_eq g).mp ended
  obtain ⟨member, rfl⟩ := receiver?_some known
  exact sound.generations _ (List.mem_map_of_mem member)

theorem whole (sound : t.Sound) (alone : t.isDivided action = false) (stepped : t.session.step action = some s') :
    Sound { t with session := s' } := by
  have move := step_move sound.tidy stepped
  have landed : ∀ l, t.landing = some l → ∃ transport device,
      s'.call? l.call = some (.connect transport (.opened (.ok device))) := by
    intro l landing
    obtain ⟨transport, device, present⟩ := sound.landed l landing
    have kept := move.keeps_attempt sound.tidy (attempt?_of_call? present rfl)
      (sound.landing_call landing alone stepped)
    exact ⟨transport, device, call?_of_attempt? kept⟩
  have generations := move.generations_le sound.generations
  have quiet := quiet_of_step sound.tidy alone stepped
  cases quiet with
  | takes turn present waits gone busy =>
    have free := sound.nobody_lands turn present waits
    exact {
      tidy := move.tidy sound.tidy
      landed := landed
      generations := generations
      noticed := fun g member => move.hasEnded (sound.noticed g member)
      lost := fun g member => move.hasEnded (sound.lost g member)
      starting := fun call link landing => by simp [free] at landing
      active := fun link active => by simp [gone] at active
      installed := fun call link landing => by simp [free] at landing
      underway := fun id underway => .inl gone }
  | keeps active listens underway =>
    have attends (g : Nat) : Attends { t with session := s' } g ↔ t.Attends g := by
      simp only [Attends, listens]
    have follows {g : Nat} (old : t.Attends g ∨ t.session.hasEnded g = true) :
        Attends { t with session := s' } g ∨ s'.hasEnded g = true :=
      old.imp (attends g).mpr move.hasEnded
    exact {
      tidy := move.tidy sound.tidy
      landed := landed
      generations := generations
      noticed := fun g member => move.hasEnded (sound.noticed g member)
      lost := fun g member => move.hasEnded (sound.lost g member)
      starting := fun call link landing => follows (sound.starting call link landing)
      active := fun link current => follows (sound.active link (active ▸ current))
      installed := fun call link landing => by
        rw [attends, active]
        exact sound.installed call link landing
      underway := fun id busy => by
        rw [active]
        exact sound.underway id (underway id busy) }

theorem start (sound : t.Sound) {call transport device reader : Nat} (free : t.landing = none)
    (present : t.session.call? call = some (.connect transport (.opened (.ok device))))
    (taken : t.session.takeInUse transport device = some (.ok reader, s')) :
    Sound { t with
      session := s'.spawn transport reader, landing := some ⟨call, ⟨transport, s'.generation + 1⟩, false⟩ } := by
  cases takeInUse_takes taken with
  | @taken u u' bus found attached handsOut =>
    have move := Move.installs present found attached handsOut
    have ended {g : Nat} (ended : t.session.hasEnded g = true) := move.hasEnded ended
    have idle : t.session.active = none := by
      rcases sound.underway call ⟨_, attempt?_of_call? present rfl, rfl⟩ with idle | ⟨call, link, landing⟩
      · exact idle
      · simp [free] at landing
    have new : t.session.receiver? (t.session.generation + 1) = none := by
      refine List.find?_eq_none.mpr fun r member same => ?_
      have := sound.generations _ (List.mem_map_of_mem member)
      simp only [decide_eq_true_eq] at same
      omega
    exact {
      tidy := ⟨sound.tidy.ids_nodup, sound.tidy.ids_lt, sound.tidy.lifecycle, sound.tidy.turns⟩
      landed := fun l landing => by
        obtain rfl := Option.some.inj landing
        exact ⟨transport, device, present⟩
      generations := move.generations_le sound.generations
      noticed := fun g member => ended (sound.noticed g member)
      lost := fun g member => ended (sound.lost g member)
      starting := fun call link landing => by
        obtain ⟨rfl, rfl⟩ : _ ∧ _ := by simpa using landing
        refine .inl ⟨?_, fun lost => ?_⟩
        · simp only [Session.listens, Session.spawn, Session.receiver?, List.find?_append]
          rw [show t.session.receivers.find? _ = none from new]
          simp
        · exact Nat.not_succ_le_self _ (sound.generation_le (sound.lost _ lost))
      active := fun link active => by
        rw [show t.session.active = some link from active] at idle
        cases idle
      installed := fun call link landing => by simp at landing
      underway := fun id underway => .inl idle }

theorem install (sound : t.Sound) {call : Nat} {link : ActiveLink} (landing : t.landing = some ⟨call, link, false⟩) :
    Sound { t with session := t.session.activate link, landing := some ⟨call, link, true⟩ } where
  tidy := ⟨sound.tidy.ids_nodup, sound.tidy.ids_lt, sound.tidy.lifecycle, sound.tidy.turns⟩
  landed l same := by
    obtain rfl := Option.some.inj same
    exact sound.landed ⟨call, link, false⟩ landing
  generations := sound.generations
  noticed := sound.noticed
  lost := sound.lost
  starting _ _ same := by simp at same
  active link' same := by
    obtain rfl := Option.some.inj same
    exact sound.starting call _ landing
  installed _ _ same := by
    obtain ⟨rfl, rfl⟩ : _ ∧ _ := by simpa using same
    exact .inl rfl
  underway _ _ := .inr ⟨call, link, rfl⟩

theorem publish (sound : t.Sound) {call : Nat} {link : ActiveLink} (landing : t.landing = some ⟨call, link, true⟩) :
    Sound { t with session := (t.session.publish .connected).finish call .done, landing := none } := by
  obtain ⟨transport, device, present⟩ := sound.landed _ landing
  have turn := sound.tidy.lifecycle_first (attempt?_of_call? present rfl) rfl
  exact {
    tidy := sound.tidy.update_lifecycle present rfl turn rfl rfl rfl rfl (sound.tidy.erase_turns present rfl)
    landed := fun l landing => by cases landing
    generations := sound.generations
    noticed := sound.noticed
    lost := sound.lost
    starting := fun call link landing => by cases landing
    active := sound.active
    installed := fun call link landing => by cases landing
    underway := fun id busy => by
      obtain ⟨other, known, underway⟩ := busy
      rw [attempt?_ends present rfl rfl] at known
      split at known
      · cases known
      · rename_i apart
        exact absurd (sound.tidy.underway_alone known underway (attempt?_of_call? present rfl) rfl) apart }

theorem notice (sound : t.Sound) {g : Nat} (sees : t.session.seesEnd g = true) :
    Sound { t with noticing := g :: t.noticing } := by
  have ended : t.session.hasEnded g = true := by
    simp only [seesEnd, Bool.and_eq_true] at sees
    exact sees.2
  exact { sound with
    noticed := fun h member => by
      rcases List.mem_cons.mp member with rfl | member
      · exact ended
      · exact sound.noticed h member }

theorem take (sound : t.Sound) {g : Nat} (noticed : g ∈ t.noticing)
    (current : t.session.active.any (·.generation = g) = true) :
    Sound { t with
      session := { t.session with active := none }, noticing := t.noticing.erase g, losing := g :: t.losing } := by
  have ended := sound.noticed g noticed
  obtain ⟨link, active, same⟩ := (Option.any_eq_true _ _).mp current
  have generation : link.generation = g := by simpa using same
  exact {
    tidy := ⟨sound.tidy.ids_nodup, sound.tidy.ids_lt, sound.tidy.lifecycle, sound.tidy.turns⟩
    landed := sound.landed
    generations := sound.generations
    noticed := fun h member => sound.noticed h (List.mem_of_mem_erase member)
    lost := fun h member => by
      rcases List.mem_cons.mp member with rfl | member
      · exact ended
      · exact sound.lost h member
    starting := fun call link' landing => by
      rcases sound.underway call (sound.landing_underway landing) with idle | ⟨call, link, landing'⟩
      · rw [active] at idle
        cases idle
      · cases landing.symm.trans landing'
    active := fun link' same => by cases same
    installed := fun call link' landing => by
      refine .inr ⟨rfl, fun attends => ?_⟩
      rcases sound.installed call link' landing with same | ⟨idle, -⟩
      · obtain rfl := Option.some.inj (active.symm.trans same)
        exact attends.2 (List.mem_cons.mpr (.inl generation))
      · rw [active] at idle
        cases idle
    underway := fun id underway => .inl rfl }

theorem miss (sound : t.Sound) {g : Nat} (noticed : g ∈ t.noticing) :
    Sound { t with session := t.session.updateReceiver g .over, noticing := t.noticing.erase g } := by
  have attends (h : Nat) :
      Attends { t with session := t.session.updateReceiver g .over, noticing := t.noticing.erase g } h ↔
        t.Attends h ∧ h ≠ g := by
    simp only [Attends, listens_updateReceiver (show Receiver.Stage.over ≠ .listening by simp)]
    simp [and_right_comm]
  have follows {h : Nat} (old : t.Attends h ∨ t.session.hasEnded h = true) :
      (t.Attends h ∧ h ≠ g) ∨ t.session.hasEnded h = true := by
    rcases old with old | ended
    · by_cases same : h = g
      · exact .inr (same ▸ sound.noticed g noticed)
      · exact .inl ⟨old, same⟩
    · exact .inr ended
  exact {
    tidy := ⟨sound.tidy.ids_nodup, sound.tidy.ids_lt, sound.tidy.lifecycle, sound.tidy.turns⟩
    landed := sound.landed
    generations := by
      rw [updateReceiver_generations]
      exact sound.generations
    noticed := fun h member => by
      rw [hasEnded_updateReceiver]
      exact sound.noticed h (List.mem_of_mem_erase member)
    lost := fun h member => by
      rw [hasEnded_updateReceiver]
      exact sound.lost h member
    starting := fun call link landing => by
      rw [attends, hasEnded_updateReceiver]
      exact follows (sound.starting call link landing)
    active := fun link active => by
      rw [attends, hasEnded_updateReceiver]
      exact follows (sound.active link active)
    installed := fun call link landing => by
      rw [attends]
      exact (sound.installed call link landing).imp_right fun ⟨idle, not⟩ => ⟨idle, fun attends => not attends.1⟩
    underway := sound.underway }

theorem attends_lose {g : Nat} (lost : g ∈ t.losing) (h : Nat) :
    Attends { t with session := t.session.announceLoss.updateReceiver g .releasing, losing := t.losing.erase g } h ↔
      t.Attends h := by
  simp only [Attends, listens_updateReceiver (show Receiver.Stage.releasing ≠ .listening by simp)]
  by_cases same : h = g
  · simp [same, lost]
  · simp only [same, ne_eq, not_false_eq_true, decide_true, Bool.and_true, List.mem_erase_of_ne]
    rfl

theorem lose (sound : t.Sound) {g : Nat} (lost : g ∈ t.losing) :
    Sound { t with
      session := t.session.announceLoss.updateReceiver g .releasing, losing := t.losing.erase g } := by
  have ended (h : Nat) : (t.session.announceLoss.updateReceiver g .releasing).hasEnded h = t.session.hasEnded h :=
    hasEnded_updateReceiver
  exact {
    tidy := sound.tidy.handMail rfl rfl rfl rfl
    landed := fun l landing => by
      obtain ⟨transport, device, present⟩ := sound.landed l landing
      exact ⟨transport, device, call?_handMail present⟩
    generations := by
      rw [updateReceiver_generations]
      exact sound.generations
    noticed := fun h member => by
      rw [ended]
      exact sound.noticed h member
    lost := fun h member => by
      rw [ended]
      exact sound.lost h (List.mem_of_mem_erase member)
    starting := fun call link landing => by
      rw [attends_lose lost, ended]
      exact sound.starting call link landing
    active := fun link active => by
      rw [attends_lose lost, ended]
      exact sound.active link active
    installed := fun call link landing => by
      rw [attends_lose lost]
      exact sound.installed call link landing
    underway := fun id underway =>
      sound.underway id ((underway_congr (attempt?_handMail rfl) id).mp underway) }

theorem step {action : Action} (sound : t.Sound) (stepped : t.step action = some t') : t'.Sound := by
  cases step_change stepped with
  | whole alone moved => exact sound.whole alone moved
  | starts free present taken => exact sound.start free present taken
  | installs landing => exact sound.install landing
  | publishes landing => exact sound.publish landing
  | notices sees => exact sound.notice sees
  | takes noticed current => exact sound.take noticed current
  | misses noticed past => exact sound.miss noticed
  | loses lost => exact sound.lose lost

end Sound

section Alone

variable {s : Session}

theorem run_append {first later : List Action} {u : Threads} (run : t.run first = some t')
    (run' : t'.run later = some u) : t.run (first ++ later) = some u := by
  rw [Threads.run, List.foldlM_append, show first.foldlM Threads.step t = some t' from run]
  exact run'

/-- What a session does in one step, threads do as well if nobody comes in between. -/
theorem exists_run_of_step (stepped : s.step action = some s') :
    ∃ actions, Threads.run ⟨s, none, [], []⟩ actions = some ⟨s', none, [], []⟩ := by
  cases divided : isDivided ⟨s, none, [], []⟩ action with
  | false => exact ⟨[.whole action], by simp [Threads.run, Threads.step, divided, stepped]⟩
  | true =>
    cases action with
    | resume id =>
      simp only [isDivided, Option.any_none, Bool.false_or, Option.any_eq_true] at divided
      obtain ⟨⟨transport, device⟩, opened, ⟨result, s₁⟩, taken, ok⟩ := divided
      cases result with
      | error cause => cases ok
      | ok reader =>
        simp only [Session.step, Session.resume, opened?_some opened, resumeConnect, taken, Option.bind_eq_bind,
          Option.bind_some, Option.some.injEq] at stepped
        subst stepped
        refine ⟨[.start id, .install, .publish], ?_⟩
        simp [Threads.run, Threads.step, opened, taken, Session.install]
    | receive g =>
      have sees : s.seesEnd g = true := divided
      obtain ⟨listens, ended⟩ := Bool.and_eq_true_iff.mp sees
      obtain ⟨r, u, known, found, reader, taps, ended⟩ := (hasEnded_eq g).mp ended
      have stage : r.stage = .listening := by simpa [Session.listens, known] using listens
      have nothing : reader.receive = none := by
        simp only [Transport.Reader.isEnded, Bool.and_eq_true, List.isEmpty_iff] at ended
        simp [Transport.Reader.receive, ended.2]
      simp only [Session.step, Session.receive, known, stage, found, taps, nothing, ended, if_true, linkEnded,
        Option.bind_eq_bind, Option.bind_some, Option.pure_def, Option.some.injEq] at stepped
      by_cases current : s.active.any (·.generation = g) = true
      · simp only [takeLost, current, if_true] at stepped
        subst stepped
        refine ⟨[.notice g, .take g, .lose g], ?_⟩
        simp [Threads.run, Threads.step, sees, takeLost, current]
      · simp only [takeLost, current] at stepped
        subst stepped
        refine ⟨[.notice g, .take g], ?_⟩
        simp [Threads.run, Threads.step, sees, takeLost, current]
    | _ => cases divided

theorem exists_run_of_run {actions : List Session.Action} (run : s.run actions = some s') :
    ∃ actions, Threads.run ⟨s, none, [], []⟩ actions = some ⟨s', none, [], []⟩ := by
  induction actions generalizing s with
  | nil =>
    cases run
    exact ⟨[], rfl⟩
  | cons action later ih =>
    obtain ⟨s₁, stepped, run⟩ := Option.bind_eq_some_iff.mp run
    obtain ⟨first, run₁⟩ := exists_run_of_step stepped
    obtain ⟨rest, run₂⟩ := ih run
    exact ⟨first ++ rest, run_append run₁ run₂⟩

end Alone

end Threads

end TagConsole
