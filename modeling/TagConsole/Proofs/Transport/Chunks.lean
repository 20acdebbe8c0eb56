import Mathlib.Algebra.GroupWithZero.Nat
import TagConsole.Proofs.Transport.Attachment

/-!
What a reader makes of the frames that a device has queued: each is cut into chunks, and the chunks come out
in order, none missing and none twice.
-/

namespace TagConsole.Transport

open Link (Simulated)
open Wire (Frame)

/-- Consecutive chunks of `size` bytes, the last of which may be shorter. An empty frame has none. -/
def cut (size : Nat) (frame : Frame) : List Frame :=
  if 0 < size ∧ size < frame.length then frame.take size :: cut size (frame.drop size)
  else if frame.isEmpty then [] else [frame]
termination_by frame.length
decreasing_by
  rw [List.length_drop]
  omega

structure IsCut (size : Nat) (frame : Frame) (chunks : List Frame) : Prop where
  flatten : chunks.flatten = frame
  nonempty : ∀ chunk ∈ chunks, chunk ≠ []
  full : ∀ chunk ∈ chunks.dropLast, chunk.length = size
  bounded : ∀ chunk ∈ chunks, chunk.length ≤ size

theorem isCut_cut {size : Nat} (positive : 0 < size) (frame : Frame) : IsCut size frame (cut size frame) := by
  fun_induction cut size frame with
  | case1 frame longer ih =>
    have taken : (frame.take size).length = size := by
      rw [List.length_take]
      omega
    have more : cut size (frame.drop size) ≠ [] := by
      intro none
      have rest := congrArg List.length ih.flatten
      rw [none, List.flatten_nil, List.length_nil, List.length_drop] at rest
      omega
    constructor
    · rw [List.flatten_cons, ih.flatten, List.take_append_drop]
    · rintro chunk (_ | ⟨_, later⟩)
      · rw [← List.length_pos_iff, taken]
        exact positive
      · exact ih.nonempty chunk later
    · rw [List.dropLast_cons_of_ne_nil more]
      rintro chunk (_ | ⟨_, later⟩)
      · exact taken
      · exact ih.full chunk later
    · rintro chunk (_ | ⟨_, later⟩)
      · exact Nat.le_of_eq taken
      · exact ih.bounded chunk later
  | case2 frame short empty =>
    obtain rfl := List.isEmpty_iff.mp empty
    constructor <;> simp
  | case3 frame short filled =>
    have bounded : frame.length ≤ size := by omega
    constructor <;> simp_all

def Divides (size : Nat) (chunks : Frame → List Frame) (frame : Frame) : Prop :=
  chunks frame =
    if size < frame.length then frame.take size :: chunks (frame.drop size)
    else if frame.isEmpty then [] else [frame]

theorem cut_divides {size : Nat} (positive : 0 < size) (frame : Frame) : Divides size (cut size) frame := by
  rw [Divides, cut]
  simp [positive]

theorem divides_of_fits {size : Nat} {frame : Frame} (filled : frame ≠ []) (fits : frame.length ≤ size) :
    Divides size (fun frame => [frame]) frame := by
  simp [Divides, filled, Nat.not_lt.mpr fits]

def Reader.flow (chunks : Frame → List Frame) (reader : Reader) (queue : List Frame) : List Frame :=
  reader.channel ++ reader.held.toList ++ queue.flatMap chunks

theorem read_flow {chunks : Frame → List Frame} {link link' : Simulated} {size : Nat} {chunk : Frame}
    (read : link.read size = (.ok chunk, link')) (divides : ∀ frame ∈ link.queue, Divides size chunks frame) :
    (if chunk.isEmpty then none else some chunk).toList ++ link'.queue.flatMap chunks = link.queue.flatMap chunks := by
  unfold Simulated.read at read
  split at read
  · rename_i frame later queue
    have first := divides frame (by simp [queue])
    rw [Divides] at first
    rw [queue, List.flatMap_cons, first]
    split at read
    · rename_i longer
      cases read
      rw [if_pos longer]
      have positive : size ≠ 0 := by
        rintro rfl
        rw [if_pos longer, List.drop_zero] at first
        simpa using congrArg List.length first
      have filled : frame ≠ [] := by
        rintro rfl
        simp at longer
      simp [positive, filled]
    · rename_i short
      cases read
      rw [if_neg short]
      split <;> simp_all
  · cases read

theorem read_error {link link' : Simulated} {size : Nat} {e : Link.Error} (read : link.read size = (.error e, link')) :
    link.queue = [] ∧ (e.isIdle = false ↔ link.closed = true) := by
  unfold Simulated.read at read
  split at read
  · split at read <;> cases read
  · rename_i empty
    cases read
    refine ⟨empty, ?_⟩
    split <;> simp_all [Link.Error.isIdle]

theorem read_closed {link link' : Simulated} {size : Nat} {chunk : Frame}
    (read : link.read size = (.ok chunk, link')) : link'.closed = link.closed := by
  unfold Simulated.read at read
  split at read
  · split at read <;> cases read <;> rfl
  · cases read

/-- A turn of the reader moves chunks on. None gets lost. -/
theorem Reader.step_flow {chunks : Frame → List Frame} {reader reader' : Reader} {link link' : Simulated}
    (stepped : reader.step link = some (reader', link')) (heard : reader.isHeard = true)
    (divides : ∀ frame ∈ link.queue, Divides reader.size chunks frame) :
    reader'.flow chunks link'.queue = reader.flow chunks link.queue := by
  cases step_does stepped with
  | abandons running held unheard => simp [heard] at unheard
  | passes running held => simp [flow, held]
  | begins => rfl
  | notices running free => simp [flow, stop, free]
  | reads running free reading read =>
    have same := read_flow read divides
    simp only [flow, free, Option.toList_none, List.append_nil, List.append_assoc, same]
  | fails running free => simp [flow, stop, free]
  | returns running free => simp [flow, stop, free]

theorem Reader.step_queue {reader reader' : Reader} {link link' : Simulated}
    (stepped : reader.step link = some (reader', link')) : link'.queue.length ≤ link.queue.length := by
  cases step_does stepped with
  | reads running free reading read =>
    unfold Simulated.read at read
    split at read
    · rename_i queue
      split at read <;> cases read <;> simp [queue]
    · cases read
  | _ => exact Nat.le_refl _

/-- A reader that is heard stops only when nothing is left to read and nothing will come. -/
theorem Reader.step_stops {reader reader' : Reader} {link link' : Simulated}
    (stepped : reader.step link = some (reader', link')) (heard : reader.isHeard = true)
    (alive : reader.isRunning = reader.isAlive) : reader.isRunning = true ∧
      (reader'.isRunning = false → link'.queue = [] ∧ link'.closed = true ∧ reader'.held = none) := by
  cases step_does stepped with
  | abandons running held unheard => simp [heard] at unheard
  | notices running free idle released => simp [running, released] at alive
  | returns running free reading read idle released => simp [running, released] at alive
  | fails running free reading read broken =>
    obtain ⟨empty, gone⟩ := read_error read
    exact ⟨running, fun _ => ⟨empty, gone.mp broken, rfl⟩⟩
  | passes running => exact ⟨running, fun stopped => absurd running (Bool.eq_false_iff.mp stopped)⟩
  | begins running => exact ⟨running, fun stopped => absurd running (Bool.eq_false_iff.mp stopped)⟩
  | reads running => exact ⟨running, fun stopped => absurd running (Bool.eq_false_iff.mp stopped)⟩

theorem Reader.step_closed {reader reader' : Reader} {link link' : Simulated}
    (stepped : reader.step link = some (reader', link')) : link'.closed = link.closed := by
  cases step_does stepped with
  | reads running free reading read => exact read_closed read
  | _ => rfl

/-- A bound on the turns of a reader and its receiver that are left when nothing more can be read. -/
def Reader.load (reader : Reader) : Nat :=
  (if reader.held.isSome then 2 else 0) + reader.channel.length + (if reader.isReading then 0 else 1) +
    if reader.isRunning then 2 else 0

section Load

variable {reader reader' : Reader} {link link' : Simulated}

theorem read_load {size : Nat} {chunk : Frame} (positive : 0 < size) (read : link.read size = (.ok chunk, link')) :
    (link'.queue.map (·.length + 1)).sum < (link.queue.map (·.length + 1)).sum := by
  unfold Simulated.read at read
  split at read
  · rename_i frame later queue
    split at read
    · cases read
      simp only [queue, List.map_cons, List.sum_cons, List.length_drop]
      omega
    · cases read
      simp [queue]
  · cases read

theorem Reader.stop_load (running : reader.isRunning = true) : reader.stop.load < reader.load := by
  simp only [load, stop, running, Option.isSome_none, Bool.false_eq_true, if_true, if_false]
  omega

theorem Reader.step_load (positive : 0 < reader.size) (stepped : reader.step link = some (reader', link')) :
    4 * (link'.queue.map (·.length + 1)).sum + reader'.load < 4 * (link.queue.map (·.length + 1)).sum + reader.load := by
  have stops (running : reader.isRunning = true) := Nat.add_lt_add_left (Reader.stop_load running)
    (4 * (link.queue.map (·.length + 1)).sum)
  cases step_does stepped with
  | abandons running => exact stops running
  | passes running held => simp [load, held]; omega
  | begins running free idle => simp [load, idle]
  | notices running => exact stops running
  | reads running free reading read =>
    have fewer := read_load positive read
    simp only [load, free, reading, running, Option.isSome_none, Bool.false_eq_true, if_true, if_false]
    split
    · simp only [Option.isSome_none, Bool.false_eq_true, if_false]
      omega
    · simp only [Option.isSome_some, if_true]
      omega
  | fails running => exact stops running
  | returns running => exact stops running

theorem Reader.receive_load {chunk : Frame} (received : reader.receive = some (chunk, reader')) :
    reader'.load < reader.load := by
  obtain ⟨channel, same⟩ := receive_eq received
  rw [same]
  simp [load, channel]

end Load

structure Feed where
  reader : Reader
  link : Simulated
  taken : List Frame := []

namespace Feed

inductive Turn where
  | read
  | take

def step (feed : Feed) : Turn → Option Feed
  | .read => (feed.reader.step feed.link).map fun (reader, link) => { feed with reader, link }
  | .take => feed.reader.receive.map fun (chunk, reader) => { feed with reader, taken := feed.taken ++ [chunk] }

def run (feed : Feed) (turns : List Turn) : Option Feed := turns.foldlM step feed

def start (device readBuffer capacity : Nat) (link : Simulated) : Feed :=
  { reader := .start device readBuffer capacity, link := link }

def AtRest (feed : Feed) : Prop := ∀ turn, feed.step turn = none

/-- A bound on the turns that are left. A frame of n bytes takes at most n + 1 reads, and each read is followed by at
    most three other turns. -/
def load (feed : Feed) : Nat := 4 * (feed.link.queue.map (·.length + 1)).sum + feed.reader.load

structure Sound (feed : Feed) (bytes : Nat) (ends : Bool) (whole : List Frame) : Prop where
  size : feed.reader.size = bytes
  room : 0 < feed.reader.capacity
  heard : feed.reader.isHeard = true
  alive : feed.reader.isRunning = feed.reader.isAlive
  closed : feed.link.closed = ends
  carried : feed.taken ++ feed.reader.flow (cut bytes) feed.link.queue = whole
  stopped : feed.reader.isRunning = false → ends = true ∧ feed.reader.held = none ∧ feed.link.queue = []

section Turns

variable {feed feed' : Feed} {turn : Turn} {bytes : Nat} {ends : Bool} {whole : List Frame}

theorem step_cases (stepped : feed.step turn = some feed') :
    (turn = .read ∧ ∃ reader link, feed.reader.step feed.link = some (reader, link) ∧
      feed' = { feed with reader := reader, link := link }) ∨
    (turn = .take ∧ ∃ chunk reader, feed.reader.receive = some (chunk, reader) ∧
      feed' = { feed with reader := reader, taken := feed.taken ++ [chunk] }) := by
  cases turn with
  | read =>
    obtain ⟨⟨reader, link⟩, turned, rfl⟩ := Option.map_eq_some_iff.mp stepped
    exact .inl ⟨rfl, reader, link, turned, rfl⟩
  | take =>
    obtain ⟨⟨chunk, reader⟩, received, rfl⟩ := Option.map_eq_some_iff.mp stepped
    exact .inr ⟨rfl, chunk, reader, received, rfl⟩

theorem Sound.load_step (sound : feed.Sound bytes ends whole) (positive : 0 < bytes)
    (stepped : feed.step turn = some feed') : feed'.load < feed.load := by
  obtain ⟨-, reader, link, turned, rfl⟩ | ⟨-, chunk, reader, received, rfl⟩ := step_cases stepped
  · exact Reader.step_load (sound.size.symm ▸ positive) turned
  · exact Nat.add_lt_add_left (Reader.receive_load received) _

theorem Sound.step (sound : feed.Sound bytes ends whole) (positive : 0 < bytes)
    (stepped : feed.step turn = some feed') : feed'.Sound bytes ends whole := by
  obtain ⟨-, reader, link, turned, rfl⟩ | ⟨-, chunk, reader, received, rfl⟩ := step_cases stepped
  · have kept := Reader.step_turn turned
    have divides : ∀ frame ∈ feed.link.queue, Divides feed.reader.size (cut bytes) frame :=
      fun frame _ => sound.size ▸ cut_divides positive frame
    have flow := Reader.step_flow turned sound.heard divides
    constructor
    case size => exact kept.size.trans sound.size
    case heard => exact kept.isHeard.trans sound.heard
    case alive => exact kept.stops sound.heard sound.alive
    case carried => exact (congrArg (feed.taken ++ ·) flow).trans sound.carried
    case room =>
      have room := sound.room
      cases Reader.step_does turned <;> exact room
    case closed => exact (Reader.step_closed turned).trans sound.closed
    case stopped =>
      intro stopped
      obtain ⟨-, ends⟩ := Reader.step_stops turned sound.heard sound.alive
      obtain ⟨empty, gone, free⟩ := ends stopped
      exact ⟨by rw [← sound.closed, ← Reader.step_closed turned, gone], free, empty⟩
  · obtain ⟨channel, same⟩ := Reader.receive_eq received
    have carried := sound.carried
    rw [same]
    refine ⟨sound.size, sound.room, sound.heard, sound.alive, sound.closed, ?_, sound.stopped⟩
    rw [Reader.flow, channel] at carried
    simpa [Reader.flow] using carried

theorem Sound.run (sound : feed.Sound bytes ends whole) (positive : 0 < bytes) {turns : List Turn}
    (run : feed.run turns = some feed') : feed'.Sound bytes ends whole ∧ turns.length + feed'.load ≤ feed.load := by
  -- by induction on the turns, with what is known of a feed as what each of them keeps
  induction turns generalizing feed with
  | nil =>
    cases run
    exact ⟨sound, by simp⟩
  | cons turn turns ih =>
    obtain ⟨next, stepped, run⟩ := Option.bind_eq_some_iff.mp run
    have lighter := sound.load_step positive stepped
    obtain ⟨sound', load⟩ := ih (sound.step positive stepped) run
    refine ⟨sound', ?_⟩
    rw [List.length_cons]
    omega

theorem Sound.rest (sound : feed.Sound bytes ends whole) (rest : feed.AtRest) :
    feed.taken = whole ∧ feed.link.queue = [] ∧ feed.reader.isRunning = !ends ∧ feed.reader.isEnded = ends := by
  have drained : feed.reader.channel = [] := by
    have waits := rest .take
    simp only [Feed.step, Option.map_eq_none_iff, Reader.receive] at waits
    split at waits
    · assumption
    · cases waits
  have waits : feed.reader.step feed.link = none := Option.map_eq_none_iff.mp (rest .read)
  have idle : feed.reader.held = none ∧ feed.link.queue = [] ∧ feed.reader.isRunning = !ends := by
    by_cases running : feed.reader.isRunning = true
    · have alive := sound.alive.symm.trans running
      have room := sound.room
      simp only [Reader.step, running, sound.heard, alive, drained, Bool.not_true, Bool.false_eq_true, if_false,
        List.length_nil, room, if_true] at waits
      split at waits
      · cases waits
      · rename_i free
        split at waits
        · cases waits
        · split at waits
          · cases waits
          · rename_i read
            obtain ⟨empty, gone⟩ := read_error read
            split at waits
            · cases waits
            · rename_i idle
              have isOpen : feed.link.closed = false := by
                rw [← Bool.not_eq_true, ← gone]
                simpa using idle
              exact ⟨free, empty, by rw [running, ← sound.closed, isOpen]; rfl⟩
    · have stopped := Bool.eq_false_iff.mpr running
      obtain ⟨ended, free, empty⟩ := sound.stopped stopped
      exact ⟨free, empty, by rw [stopped, ended]; rfl⟩
  obtain ⟨free, empty, runs⟩ := idle
  refine ⟨?_, empty, runs, by simp [Reader.isEnded, runs, drained]⟩
  have carried := sound.carried
  simpa [Reader.flow, drained, free, empty] using carried

theorem Sound.settles (sound : feed.Sound bytes ends whole) (positive : 0 < bytes) :
    ∃ turns final, feed.run turns = some final ∧ final.AtRest := by
  -- by induction on the turns that are left
  induction left : feed.load using Nat.strongRecOn generalizing feed with
  | ind n ih =>
    by_cases rest : feed.AtRest
    · exact ⟨[], feed, rfl, rest⟩
    · simp only [AtRest, Classical.not_forall] at rest
      obtain ⟨turn, goes⟩ := rest
      obtain ⟨next, stepped⟩ := Option.ne_none_iff_exists'.mp goes
      obtain ⟨turns, final, run, rest⟩ :=
        ih next.load (left ▸ sound.load_step positive stepped) (sound.step positive stepped) rfl
      exact ⟨turn :: turns, final, by rw [Feed.run, List.foldlM_cons, stepped]; exact run, rest⟩

end Turns

theorem start_sound (device readBuffer capacity : Nat) (link : Simulated) :
    (start device readBuffer capacity link).Sound (max readBuffer 1) link.closed
      (link.queue.flatMap (cut (max readBuffer 1))) := by
  constructor
  case room =>
    simp only [start, Reader.start]
    omega
  all_goals simp [start, Reader.start, Reader.flow]

/-- What any turns of a reader on a link have done. -/
structure Drains (feed : Feed) (size : Nat) (link : Simulated) (turns : Nat) : Prop where
  bounded : turns ≤ 4 * (link.queue.map (·.length + 1)).sum + 3
  settles : ∃ more final, feed.run more = some final ∧ final.AtRest
  /-- What has been handed up is where the chunks of the frames begin. -/
  handed : feed.taken <+: link.queue.flatMap (cut size)
  /-- In the end it is all of them. The reader has stopped if the far end is gone, otherwise it waits for more. -/
  rest : feed.AtRest → feed.taken = link.queue.flatMap (cut size) ∧ feed.link.queue = [] ∧
    feed.reader.isRunning = !link.closed ∧ feed.reader.isEnded = link.closed

theorem drains_of_run {device readBuffer capacity : Nat} {link : Simulated} {turns : List Turn} {feed : Feed}
    (run : (start device readBuffer capacity link).run turns = some feed) :
    feed.Drains (max readBuffer 1) link turns.length := by
  have positive : 0 < max readBuffer 1 := by omega
  obtain ⟨sound, load⟩ := (start_sound device readBuffer capacity link).run positive run
  refine ⟨?_, sound.settles positive, ?_, sound.rest⟩
  · have all : (start device readBuffer capacity link).load = 4 * (link.queue.map (·.length + 1)).sum + 3 := by
      simp [Feed.load, Reader.load, start, Reader.start]
    omega
  · rw [← sound.carried]
    exact List.prefix_append _ _

end Feed

end TagConsole.Transport
