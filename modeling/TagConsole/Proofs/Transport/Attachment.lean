import TagConsole.Transport.Basic

/-!
What taking a link in use, releasing it and reading from it do to a transport.
-/

namespace TagConsole.Transport

open Link (Bus)

section Detach

variable (t : Transport)

theorem detach_readers_of_nil (unopened : t.readers = []) : t.detach.readers = [] := by
  simp [detach, updateLast, unopened]

theorem isConnected_of_writer (released : t.writer = none) : t.isConnected = false := by
  simp [isConnected, released]

@[simp] theorem detach_isConnected : t.detach.isConnected = false :=
  isConnected_of_writer _ rfl

end Detach

variable {t t' : Transport} {config : Config} {bus bus' : Bus} {device : Nat}

theorem attach_ok (h : t.attach config bus device = (.ok (), t', bus')) :
    t' = { t.detach with
        writer := some device
        readers := t.detach.readers ++
          [Reader.start device config.link.readBuffer config.link.inboundCapacity]
        hasReceiver := true } ∧
      bus' = bus.updateLink device fun link => { link with readTimeout := .ofMillis config.link.readTimeout } := by
  unfold attach at h
  split at h
  · cases h
  · dsimp only at h
    split at h
    · cases h
    · cases h
      exact ⟨rfl, rfl⟩

inductive Reader.Does (reader : Reader) (link : Link.Simulated) : Reader → Link.Simulated → Prop where
  | abandons {chunk} (running : reader.isRunning = true) (held : reader.held = some chunk)
      (unheard : reader.isHeard = false) : Does reader link reader.stop link
  | passes {chunk} (running : reader.isRunning = true) (held : reader.held = some chunk)
      (heard : reader.isHeard = true) (room : reader.channel.length < reader.capacity) :
      Does reader link { reader with held := none, channel := reader.channel ++ [chunk] } link
  | begins (running : reader.isRunning = true) (free : reader.held = none) (idle : reader.isReading = false)
      (alive : reader.isAlive = true) : Does reader link { reader with isReading := true } link
  | notices (running : reader.isRunning = true) (free : reader.held = none) (idle : reader.isReading = false)
      (released : reader.isAlive = false) : Does reader link reader.stop link
  | reads {chunk link'} (running : reader.isRunning = true) (free : reader.held = none)
      (reading : reader.isReading = true) (read : link.read reader.size = (.ok chunk, link')) :
      Does reader link { reader with isReading := false, held := if chunk.isEmpty then none else some chunk } link'
  | fails {e link'} (running : reader.isRunning = true) (free : reader.held = none) (reading : reader.isReading = true)
      (read : link.read reader.size = (.error e, link')) (broken : e.isIdle = false) :
      Does reader link { reader.stop with isAlive := false } link
  | returns {e link'} (running : reader.isRunning = true) (free : reader.held = none)
      (reading : reader.isReading = true) (read : link.read reader.size = (.error e, link')) (idle : e.isIdle = true)
      (released : reader.isAlive = false) : Does reader link reader.stop link

theorem Reader.step_does {reader reader' : Reader} {link link' : Link.Simulated}
    (h : reader.step link = some (reader', link')) : Does reader link reader' link' := by
  unfold step at h
  split at h
  · cases h
  · rename_i runs
    have running : reader.isRunning = true := by simpa using runs
    split at h
    · rename_i chunk held
      split at h
      · rename_i unheard
        cases h
        exact .abandons running held (by simpa using unheard)
      · rename_i heard
        split at h
        · rename_i room
          cases h
          exact .passes running held (by simpa using heard) room
        · cases h
    · rename_i free
      split at h
      · rename_i idle
        have idle : reader.isReading = false := by simpa using idle
        cases h
        split
        · rename_i alive
          exact .begins running free idle alive
        · rename_i released
          exact .notices running free idle (Bool.eq_false_iff.mpr released)
      · rename_i reads
        have reading : reader.isReading = true := by simpa using reads
        split at h
        · rename_i read
          cases h
          exact .reads running free reading read
        · rename_i read
          split at h
          · rename_i broken
            cases h
            exact .fails running free reading read (by simpa using broken)
          · rename_i idle
            split at h
            · cases h
            · rename_i released
              cases h
              exact .returns running free reading read (by simpa using idle) (Bool.eq_false_iff.mpr released)

structure Reader.Turn (reader reader' : Reader) : Prop where
  device : reader'.device = reader.device
  size : reader'.size = reader.size
  isHeard : reader'.isHeard = reader.isHeard
  isAlive : reader'.isAlive = true → reader.isAlive = true
  stops : reader.isHeard = true → reader.isRunning = reader.isAlive → reader'.isRunning = reader'.isAlive

theorem Reader.step_turn {reader reader' : Reader} {link link' : Link.Simulated}
    (h : reader.step link = some (reader', link')) : Reader.Turn reader reader' := by
  cases step_does h <;> constructor <;> simp_all [stop]

theorem Reader.receive_eq {reader reader' : Reader} {frame : Wire.Frame} (h : reader.receive = some (frame, reader')) :
    reader.channel = frame :: reader'.channel ∧ reader' = { reader with channel := reader'.channel } := by
  unfold receive at h
  split at h
  · cases h
  · rename_i channel
    cases h
    exact ⟨channel, rfl⟩

theorem Reader.receive_turn {reader reader' : Reader} {frame : Wire.Frame}
    (h : reader.receive = some (frame, reader')) : Reader.Turn reader reader' := by
  rw [(receive_eq h).2]
  constructor <;> simp

theorem stepReader_some {index : Nat} (h : t.stepReader bus index = some (t', bus')) :
    ∃ reader reader' device link', t.readers[index]? = some reader ∧
      bus.devices[reader.device]? = some device ∧ reader.step device.link = some (reader', link') ∧
      t' = { t with readers := t.readers.set index reader' } ∧
      bus' = bus.updateLink reader.device fun _ => link' := by
  simp only [stepReader, Option.bind_eq_bind, Option.bind_eq_some_iff, Option.pure_def,
    Option.some.injEq, Prod.mk.injEq] at h
  obtain ⟨reader, found, device, known, ⟨reader', link'⟩, stepped, rfl, rfl⟩ := h
  exact ⟨reader, reader', device, link', found, known, stepped, rfl, rfl⟩

end TagConsole.Transport
