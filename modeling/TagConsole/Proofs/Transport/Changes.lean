import TagConsole.Proofs.Transport.Attachment

/-!
Everything that can happen to a transport, and what holds of its readers whatever happens: only the latest of
them can be alive, and it is only while the transport has something to write to.
-/

namespace TagConsole.Transport

open Link (Bus)

/-- A reader goes on: by a turn of its own, by what its receiver does, or because its link is released. -/
inductive Reader.Grows (reader : Reader) : Reader → Prop where
  | turns {link reader' link'} (stepped : reader.step link = some (reader', link')) : Grows reader reader'
  | receives {chunk reader'} (received : reader.receive = some (chunk, reader')) : Grows reader reader'
  | abandons : Grows reader reader.abandon
  | releases : Grows reader reader.release

structure Reader.Fit (config : Config) (reader : Reader) : Prop where
  size : reader.size = max config.link.readBuffer 1
  room : 0 < reader.capacity
  stopped : reader.isRunning = false → reader.isReading = false ∧ reader.held = none

section Reader

variable {config : Config} {reader reader' : Reader}

theorem Reader.start_fit (config : Config) (device : Nat) :
    (start device config.link.readBuffer config.link.inboundCapacity).Fit config :=
  ⟨rfl, Nat.lt_of_lt_of_le Nat.zero_lt_one (Nat.le_max_right _ _), by simp [start]⟩

theorem Reader.Grows.fit (grows : reader.Grows reader') (fit : reader.Fit config) : reader'.Fit config := by
  obtain ⟨size, room, stopped⟩ := fit
  cases grows with
  | turns stepped => cases step_does stepped <;> constructor <;> simp_all [stop]
  | receives received =>
    obtain ⟨-, same⟩ := Reader.receive_eq received
    rw [same]
    exact ⟨size, room, stopped⟩
  | abandons => exact ⟨size, room, stopped⟩
  | releases => exact ⟨size, room, stopped⟩

theorem Reader.Grows.device (grows : reader.Grows reader') : reader'.device = reader.device := by
  cases grows with
  | turns stepped => exact (step_turn stepped).device
  | receives received => exact (receive_turn received).device
  | _ => rfl

theorem Reader.Grows.isAlive (grows : reader.Grows reader') (alive : reader'.isAlive = true) : reader.isAlive = true := by
  cases grows with
  | turns stepped => exact (step_turn stepped).isAlive alive
  | receives received => exact (receive_turn received).isAlive alive
  | abandons => exact alive
  | releases => cases alive

theorem Reader.Grows.isReading (grows : reader.Grows reader') (dead : reader.isAlive = false)
    (idle : reader.isReading = false) : reader'.isReading = false := by
  cases grows with
  | turns stepped => cases step_does stepped <;> simp_all [stop]
  | receives received =>
    obtain ⟨-, same⟩ := Reader.receive_eq received
    rw [same]
    exact idle
  | abandons => exact idle
  | releases => exact idle

theorem Reader.Grows.isEnded (grows : reader.Grows reader') (ended : reader.isEnded = true) : reader'.isEnded = true := by
  obtain ⟨stopped, empty⟩ := Bool.and_eq_true_iff.mp ended
  cases grows with
  | turns stepped => cases step_does stepped <;> simp_all
  | receives received => simp [receive, List.isEmpty_iff.mp empty] at received
  | abandons => exact Bool.and_eq_true_iff.mpr ⟨stopped, rfl⟩
  | releases => exact ended

end Reader

/-- What can happen to a transport other than being taken in use. -/
inductive Change (t : Transport) : Transport → Prop where
  | stays : Change t t
  | detaches : Change t t.detach
  | handsOut : Change t { t with hasReceiver := false }
  | grows {index reader reader'} (taps : t.readers[index]? = some reader) (grows : reader.Grows reader') :
      Change t { t with readers := t.readers.set index reader' }

/-- What holds of a transport whatever has happened to it. -/
structure Kept (config : Config) (t : Transport) : Prop where
  fit : ∀ reader ∈ t.readers, reader.Fit config
  earlier : ∀ i reader, t.readers[i]? = some reader → i + 1 < t.readers.length → reader.isAlive = false
  released : t.writer = none → ∀ reader ∈ t.readers, reader.isAlive = false

theorem modify_eq_self {readers : List Reader} {index : Nat} {change : Reader → Reader}
    (same : ∀ reader, readers[index]? = some reader → change reader = reader) : readers.modify index change = readers := by
  apply List.ext_getElem?
  intro i
  rw [List.getElem?_modify]
  cases found : readers[i]? with
  | none => rfl
  | some reader =>
    split
    · rename_i here
      subst here
      simp [same reader found]
    · rfl

section Kept

variable {config : Config} {t t' : Transport}

theorem kept_of_unopened (unopened : t.readers = []) : t.Kept config := by
  constructor <;> simp [unopened]

theorem Kept.grows (kept : t.Kept config) (length : t'.readers.length = t.readers.length)
    (grown : ∀ (i : Nat) (reader' : Reader), t'.readers[i]? = some reader' → ∃ reader, t.readers[i]? = some reader ∧
      (reader.Fit config → reader'.Fit config) ∧ (reader'.isAlive = true → reader.isAlive = true))
    (writer : t'.writer = none → t.writer = none ∨ ∀ reader ∈ t'.readers, reader.isAlive = false) :
    t'.Kept config := by
  constructor
  · intro reader' member
    obtain ⟨i, found⟩ := List.getElem?_of_mem member
    obtain ⟨reader, was, fit, -⟩ := grown i reader' found
    exact fit (kept.fit reader (List.mem_of_getElem? was))
  · intro i reader' found before
    obtain ⟨reader, was, -, alive⟩ := grown i reader' found
    have dead := kept.earlier i reader was (length ▸ before)
    exact Bool.eq_false_iff.mpr fun lives => by simp [alive lives] at dead
  · intro released reader' member
    rcases writer released with idle | dead
    · obtain ⟨i, found⟩ := List.getElem?_of_mem member
      obtain ⟨reader, was, -, alive⟩ := grown i reader' found
      have dead := kept.released idle reader (List.mem_of_getElem? was)
      exact Bool.eq_false_iff.mpr fun lives => by simp [alive lives] at dead
    · exact dead reader' member

theorem detach_grown {i : Nat} {reader' : Reader} (found : t.detach.readers[i]? = some reader') :
    ∃ reader, t.readers[i]? = some reader ∧
      (if i + 1 = t.readers.length then
        reader' = reader.release ∨ reader' = reader.release.abandon else reader' = reader) := by
  unfold detach updateLast at found
  split at found
  all_goals
    simp only [List.getElem?_modify, List.length_modify, Option.map_eq_map, Option.map_eq_some_iff] at found
  · obtain ⟨_, ⟨reader, was, rfl⟩, rfl⟩ := found
    refine ⟨reader, was, ?_⟩
    have lt := (List.getElem?_eq_some_iff.mp was).1
    by_cases last : i + 1 = t.readers.length
    · have here : t.readers.length - 1 = i := by omega
      rw [if_pos last, if_pos here, if_pos here]
      exact .inr rfl
    · have there : t.readers.length - 1 ≠ i := by omega
      rw [if_neg last, if_neg there, if_neg there]
  · obtain ⟨reader, was, rfl⟩ := found
    refine ⟨reader, was, ?_⟩
    have lt := (List.getElem?_eq_some_iff.mp was).1
    by_cases last : i + 1 = t.readers.length
    · rw [if_pos last, if_pos (by omega)]
      exact .inl rfl
    · rw [if_neg last, if_neg (by omega)]

theorem detach_length : t.detach.readers.length = t.readers.length := by
  unfold detach updateLast
  split <;> simp

theorem Kept.detach (kept : t.Kept config) : t.detach.Kept config := by
  have dead : ∀ reader ∈ t.detach.readers, reader.isAlive = false := by
    intro reader' member
    obtain ⟨i, found⟩ := List.getElem?_of_mem member
    obtain ⟨reader, was, now⟩ := detach_grown found
    split at now
    · rcases now with rfl | rfl <;> rfl
    · subst now
      have lt := (List.getElem?_eq_some_iff.mp was).1
      exact kept.earlier i reader' was (by omega)
  refine kept.grows detach_length (fun i reader' found => ?_) fun _ => .inr dead
  obtain ⟨reader, was, now⟩ := detach_grown found
  refine ⟨reader, was, ?_⟩
  split at now
  · have released : reader.Grows reader.release := .releases
    rcases now with rfl | rfl
    · exact ⟨released.fit, released.isAlive⟩
    · exact ⟨fun fit => Reader.Grows.abandons.fit (released.fit fit), released.isAlive⟩
  · subst now
    exact ⟨id, id⟩

def HasEnded (t : Transport) (index : Nat) : Prop := ∃ reader, t.readers[index]? = some reader ∧ reader.isEnded = true

theorem HasEnded.detach {index : Nat} (ended : t.HasEnded index) : t.detach.HasEnded index := by
  obtain ⟨reader, taps, ended⟩ := ended
  have lt : index < t.detach.readers.length := by
    rw [detach_length]
    exact (List.getElem?_eq_some_iff.mp taps).1
  have here := List.getElem?_eq_getElem lt
  refine ⟨_, here, ?_⟩
  obtain ⟨reader', was, now⟩ := detach_grown here
  obtain rfl := Option.some.inj (taps.symm.trans was)
  have released : reader.release.isEnded = true := Reader.Grows.releases.isEnded ended
  split at now
  · rcases now with now | now
    · rw [now]
      exact released
    · rw [now]
      exact Reader.Grows.abandons.isEnded released
  · rw [now]
    exact ended

theorem Change.hasEnded {index : Nat} (change : t.Change t') (ended : t.HasEnded index) : t'.HasEnded index := by
  cases change with
  | stays => exact ended
  | detaches => exact ended.detach
  | handsOut => exact ended
  | @grows other reader reader' taps grows =>
    obtain ⟨old, was, ended⟩ := ended
    have lt := (List.getElem?_eq_some_iff.mp was).1
    by_cases same : other = index
    · subst same
      obtain rfl := Option.some.inj (taps.symm.trans was)
      exact ⟨reader', List.getElem?_set_self lt, grows.isEnded ended⟩
    · exact ⟨old, by rw [List.getElem?_set_ne same, was], ended⟩

theorem Change.kept (change : t.Change t') (kept : t.Kept config) : t'.Kept config := by
  cases change with
  | stays => exact kept
  | detaches => exact kept.detach
  | handsOut => exact ⟨kept.fit, kept.earlier, kept.released⟩
  | @grows index reader reader' taps grows =>
    refine kept.grows (by simp) (fun i other found => ?_) fun released => .inl released
    rw [List.getElem?_set] at found
    split at found
    · rename_i here
      subst here
      split at found
      · rw [Option.some.injEq] at found
        subst found
        exact ⟨reader, taps, grows.fit, grows.isAlive⟩
      · cases found
    · exact ⟨other, found, id, id⟩

theorem attach_error {bus bus' : Bus} {device : Nat} {e : Error} (h : t.attach config bus device = (.error e, t', bus')) :
    t' = t.detach := by
  unfold attach at h
  split at h
  · cases h
    rfl
  · dsimp only at h
    split at h
    · cases h
      rfl
    · cases h

theorem HasEnded.attach {bus bus' : Bus} {device index : Nat} {result : Except Error Unit} (ended : t.HasEnded index)
    (attached : t.attach config bus device = (result, t', bus')) : t'.HasEnded index := by
  obtain ⟨reader, taps, ended⟩ := ended.detach
  cases result with
  | error e =>
    rw [attach_error attached]
    exact ⟨reader, taps, ended⟩
  | ok done =>
    obtain ⟨rfl, -⟩ := attach_ok attached
    exact ⟨reader, List.getElem?_append_left (List.getElem?_eq_some_iff.mp taps).1 ▸ taps, ended⟩

theorem Kept.attach {bus bus' : Bus} {device : Nat} {result : Except Error Unit} (kept : t.Kept config)
    (attached : t.attach config bus device = (result, t', bus')) : t'.Kept config := by
  cases result with
  | error e => exact attach_error attached ▸ kept.detach
  | ok done =>
    obtain ⟨rfl, -⟩ := attach_ok attached
    have dead : ∀ reader ∈ t.detach.readers, reader.isAlive = false := kept.detach.released rfl
    constructor
    · intro reader member
      rcases List.mem_append.mp member with old | new
      · exact kept.detach.fit reader old
      · rw [List.mem_singleton.mp new]
        exact Reader.start_fit config device
    · intro i reader found before
      simp only [List.length_append, List.length_singleton] at before
      rw [List.getElem?_append_left (by omega)] at found
      exact dead reader (List.mem_of_getElem? found)
    · simp

end Kept

end TagConsole.Transport
