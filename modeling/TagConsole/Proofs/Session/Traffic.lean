import Mathlib.Data.List.Infix
import TagConsole.Proofs.Session.Deliveries
import TagConsole.Proofs.Transport.Chunks

/-!
What is on its way on a link: the frames that a device has sent and that nobody has taken from the reader
of the link yet.
-/

namespace TagConsole

open Wire (Frame)

namespace Link

section Write

variable {link link' : Simulated} {frame : Frame} {result : Except Error Nat}

theorem Simulated.write_queue (write : link.write frame = (result, link')) : link.queue <+: link'.queue := by
  unfold Simulated.write at write
  split at write
  · cases write
    exact List.prefix_refl _
  · split at write
    · cases write
      exact List.prefix_refl _
    · cases write
      exact List.prefix_append _ _

end Write

namespace Bus

def queue (bus : Bus) (device : Nat) : List Frame := bus.devices[device]?.elim [] (·.link.queue)

def log (bus : Bus) (device : Nat) : List Frame := bus.devices[device]?.elim [] (·.link.written)

variable (bus : Bus) (device d : Nat)

theorem queue_of_known {bus : Bus} {d : Nat} {known : Device} (found : bus.devices[d]? = some known) :
    bus.queue d = known.link.queue := by
  rw [queue, found, Option.elim_some]

theorem queue_updateLink_ne (change : Simulated → Simulated) (apart : device ≠ d) :
    (bus.updateLink device change).queue d = bus.queue d := by
  rw [queue, updateLink, List.getElem?_modify_ne _ _ apart, queue]

theorem queue_updateLink {bus : Bus} {d : Nat} {known : Device} (found : bus.devices[d]? = some known)
    (change : Simulated → Simulated) : (bus.updateLink d change).queue d = (change known.link).queue := by
  simp [queue, updateLink, found]

theorem queue_prefix_updateLink {change : Simulated → Simulated}
    (keeps : ∀ known, bus.devices[device]? = some known → known.link.queue <+: (change known.link).queue) :
    bus.queue d <+: (bus.updateLink device change).queue d := by
  by_cases same : device = d
  · subst same
    cases found : bus.devices[device]? with
    | none => simp [queue, found]
    | some known =>
      rw [queue_of_known found, queue_updateLink found]
      exact keeps known found
  · rw [queue_updateLink_ne bus device d change same]

theorem queue_prefix_write (frame : Frame) : bus.queue d <+: (bus.write device frame).2.queue d := by
  unfold write
  split
  · exact List.prefix_refl _
  · rename_i known found
    apply queue_prefix_updateLink
    intro known' found'
    rw [found, Option.some.injEq] at found'
    subst found'
    exact Simulated.write_queue rfl

theorem queue_prefix_apply (event : Event) : bus.queue d <+: (bus.apply event).queue d := by
  cases event with
  | push device frame => exact queue_prefix_updateLink bus device d fun known found => List.prefix_append _ _
  | close device => exact queue_prefix_updateLink bus device d fun known found => List.prefix_refl _
  | failWrites device fails => exact queue_prefix_updateLink bus device d fun known found => List.prefix_refl _
  | respond device responder => exact queue_prefix_updateLink bus device d fun known found => List.prefix_refl _
  | refuse device faults =>
    simp only [queue, Bus.apply, List.getElem?_modify]
    cases bus.devices[d]? with
    | none => exact List.prefix_refl _
    | some known =>
      simp only [Option.map_eq_map, Option.map_some]
      split <;> exact List.prefix_refl _
  | failOpen fails => exact List.prefix_refl _
  | failList failure => exact List.prefix_refl _
  | addGhost info => exact List.prefix_refl _
  | add device =>
    cases found : bus.devices[d]? with
    | none => simp [queue, found]
    | some known =>
      have found' : (bus.apply (.add device)).devices[d]? = some known := by
        rw [apply, List.getElem?_append_left (List.getElem?_eq_some_iff.mp found).1, found]
      rw [queue_of_known found, queue_of_known found']

end Bus

end Link

def Transport.Reader.pipe (reader : Reader) (queue : List Frame) : List Frame :=
  reader.channel ++ reader.held.toList ++ queue

theorem Transport.Reader.pipe_eq_flow (reader : Reader) (queue : List Frame) :
    reader.pipe queue = reader.flow (fun frame => [frame]) queue := by
  simp [pipe, flow]

namespace Session

def reader? (s : Session) (transport : Nat) : Option Transport.Reader :=
  s.transports[transport]?.bind (·.readers.getLast?)

namespace Moment

def sent (m : Moment) (device : Nat) : List Frame :=
  (m.after.bus.queue device).drop (m.before.bus.queue device).length

def received (m : Moment) (device : Nat) : List Frame :=
  (m.after.bus.log device).drop (m.before.bus.log device).length

def readsOther (m : Moment) (transport : Nat) : Bool :=
  match m.action with
  | .read other _ => other != transport
  | _ => false

end Moment

def sent (device : Nat) (past : List Moment) : List Frame := past.flatMap (·.sent device)

@[simp] theorem sent_append (device : Nat) (past : List Moment) (m : Moment) :
    sent device (past ++ [m]) = sent device past ++ m.sent device := by
  simp [sent]

theorem write_queue {s : Session} {transport : Nat} {frame : Frame} {result : Except Transport.Error Unit}
    {bus : Link.Bus} (write : s.write transport frame = (result, { s with bus := bus })) (d : Nat) :
    s.bus.queue d <+: bus.queue d := by
  have same : bus = (s.write transport frame).2.bus := by rw [write]
  rw [same, Session.write]
  cases s.transports[transport]? with
  | none => exact List.prefix_refl _
  | some t =>
    change s.bus.queue d <+: (t.write s.bus frame).2.queue d
    unfold Transport.write
    cases t.writer with
    | none => exact List.prefix_refl _
    | some device => exact s.bus.queue_prefix_write device d frame

/-- What a step makes of the chunks on their way on a link: the device may add to them, and the receiver
    may take the first. -/
structure Conveys (chunks : Frame → List Frame) (m : Moment) (transport : Nat)
    (reader reader' : Transport.Reader) : Prop where
  taps : m.after.reader? transport = some reader'
  device : reader'.device = reader.device
  size : reader'.size = reader.size
  chunks : reader.flow chunks (m.before.bus.queue reader.device) ++ (m.sent reader.device).flatMap chunks =
    (m.arrival?.map (·.2)).toList ++ reader'.flow chunks (m.after.bus.queue reader.device)
  running : reader'.isRunning = true → reader.isRunning = true
  stopped : reader.isRunning = true → reader'.isRunning = false → m.after.bus.queue reader.device = []

structure Carries (m : Moment) (transport : Nat) (reader reader' : Transport.Reader) : Prop where
  taps : m.after.reader? transport = some reader'
  device : reader'.device = reader.device
  size : reader'.size = reader.size
  frames : reader.pipe (m.before.bus.queue reader.device) ++ m.sent reader.device =
    (m.arrival?.map (·.2)).toList ++ reader'.pipe (m.after.bus.queue reader.device)

section Carries

variable {s s' : Session} {action : Action} {link : ActiveLink} {reader : Transport.Reader}
  {chunks : Frame → List Frame}

theorem conveys_of_same {transport : Nat} (taps : s.reader? transport = some reader)
    (same : s'.transports[transport]? = s.transports[transport]?)
    (more : s.bus.queue reader.device <+: s'.bus.queue reader.device)
    (quiet : Moment.arrival? ⟨s, action, s'⟩ = none) :
    ∃ reader', Conveys chunks ⟨s, action, s'⟩ transport reader reader' := by
  refine ⟨reader, by rwa [reader?, same], rfl, rfl, ?_, id, fun running stopped => by simp [running] at stopped⟩
  have whole := List.prefix_iff_eq_append.mp more
  simp only [quiet, Moment.sent, Transport.Reader.flow, List.append_assoc, ← List.flatMap_append, whole]
  rfl

theorem Linked.reader?_eq (linked : s.Linked) (active : s.active = some link)
    (taps : s.reader? link.transport = some reader) : ∃ t, s.transports[link.transport]? = some t ∧
      t.readers = [reader] ∧ reader.isHeard = true ∧ reader.isRunning = reader.isAlive := by
  obtain ⟨t, found, reader', single, -, heard, stops⟩ := linked.active_open link active
  rw [reader?, found, Option.bind_some, single, List.getLast?_singleton, Option.some.injEq] at taps
  subst taps
  exact ⟨t, found, single, heard, stops⟩

theorem Linked.tapped (linked : s.Linked) {generation : Nat} {receiver : Receiver} {t : Transport}
    (known : s.receiver? generation = some receiver) (stage : receiver.stage = .listening)
    (found : s.transports[receiver.transport]? = some t) (taps : t.readers[receiver.reader]? = some reader) :
    s.active = some ⟨receiver.transport, generation⟩ ∧ t.readers = [reader] ∧ receiver.reader = 0 := by
  obtain ⟨member, rfl⟩ := receiver?_some known
  have active := linked.listening_active receiver member stage
  obtain ⟨t', found', single, only, -⟩ := linked.active_open _ active
  rw [found, Option.some.injEq] at found'
  subst found'
  rw [only, List.getElem?_singleton] at taps
  split at taps
  · rename_i first
    rw [Option.some.injEq] at taps
    exact ⟨active, by rw [only, taps], first⟩
  · cases taps

theorem Linked.arrives {m : Moment} (linked : m.before.Linked) {generation : Nat} {frame : Frame}
    (arrival : m.arrival? = some (generation, frame)) : ∃ link reader later, m.before.active = some link ∧
      m.before.reader? link.transport = some reader ∧ reader.channel = frame :: later := by
  obtain ⟨-, receiver, t, reader, reader', known, stage, found, taps, takes⟩ := arrival?_eq_some.mp arrival
  obtain ⟨active, only, -⟩ := linked.tapped known stage found taps
  unfold Transport.Reader.receive at takes
  split at takes
  · cases takes
  · rename_i chunk later channel
    cases takes
    exact ⟨_, reader, later, active, by simp [reader?, found, only], channel⟩

theorem conveys_of_taken (linked : s.Linked) (active : s.active = some link) {generation : Nat} {receiver : Receiver}
    {t : Transport} {single reader' : Transport.Reader} {frame : Frame} (known : s.receiver? generation = some receiver)
    (stage : receiver.stage = .listening) (found : s.transports[receiver.transport]? = some t)
    (tapped : t.readers[receiver.reader]? = some single) (takes : single.receive = some (frame, reader'))
    (taps : s.reader? link.transport = some reader)
    (transports : s'.transports = s.transports.modify receiver.transport fun t =>
      { t with readers := t.readers.set receiver.reader reader' }) (bus : s'.bus = s.bus) :
    ∃ reader', Conveys chunks ⟨s, .receive generation, s'⟩ link.transport reader reader' := by
  have arrival : Moment.arrival? ⟨s, .receive generation, s'⟩ = some (generation, frame) :=
    arrival?_eq_some.mpr ⟨rfl, receiver, t, single, reader', known, stage, found, tapped, takes⟩
  obtain ⟨own, only, first⟩ := linked.tapped known stage found tapped
  rw [active, Option.some.injEq] at own
  subst own
  rw [reader?, found, Option.bind_some, only, List.getLast?_singleton, Option.some.injEq] at taps
  subst taps
  have turn := Transport.Reader.receive_turn takes
  obtain ⟨channel, same⟩ := Transport.Reader.receive_eq takes
  refine ⟨reader', ?_, turn.device, turn.size, ?_, ?_, ?_⟩
  · simp [reader?, transports, found, only, first]
  · rw [same]
    simp [arrival, Moment.sent, Transport.Reader.flow, bus, channel]
  · rw [same]
    exact id
  · rw [same]
    exact fun running stopped => absurd running (Bool.eq_false_iff.mp stopped)

theorem conveys_of_read (linked : s.Linked) (active : s.active = some link) {index : Nat} {t t' : Transport}
    {bus : Link.Bus} (found : s.transports[link.transport]? = some t)
    (turned : t.stepReader s.bus index = some (t', bus)) (taps : s.reader? link.transport = some reader)
    (divides : reader.isRunning = true →
      ∀ frame ∈ s.bus.queue reader.device, Transport.Divides reader.size chunks frame)
    (transports : s'.transports = s.transports.modify link.transport fun _ => t') (same : s'.bus = bus) :
    ∃ reader', Conveys chunks ⟨s, .read link.transport index, s'⟩ link.transport reader reader' := by
  obtain ⟨t', found', only, heard, stops⟩ := linked.reader?_eq active taps
  rw [found, Option.some.injEq] at found'
  subst found'
  obtain ⟨single, reader', device, link', tapped, known, stepped, rfl, rfl⟩ := Transport.stepReader_some turned
  rw [only, List.getElem?_singleton] at tapped
  split at tapped
  · rename_i first
    rw [Option.some.injEq] at tapped
    subst tapped
    have turn := Transport.Reader.step_turn stepped
    have before := Link.Bus.queue_of_known known
    have after : s'.bus.queue reader.device = link'.queue := by rw [same, Link.Bus.queue_updateLink known]
    obtain ⟨running, stopped⟩ := Transport.Reader.step_stops stepped heard stops
    have moved := Transport.Reader.step_flow stepped heard (before ▸ divides running)
    have shorter := Transport.Reader.step_queue stepped
    refine ⟨reader', ?_, turn.device, turn.size, ?_, fun _ => running, fun _ ended => after.trans (stopped ended).1⟩
    · simp [reader?, transports, found, only, first]
    · simp [Moment.sent, Moment.arrival?, before, after, moved, List.drop_eq_nil_of_le shorter]
  · cases tapped

/-- Nothing gets lost on the active link. -/
theorem Move.conveys (move : Move s action s') (linked : s.Linked) (active : s.active = some link)
    (active' : s'.active = some link) (taps : s.reader? link.transport = some reader)
    (divides : reader.isRunning = true →
      ∀ frame ∈ s.bus.queue reader.device, Transport.Divides reader.size chunks frame)
    (alone : Moment.readsOther ⟨s, action, s'⟩ link.transport = true →
      s'.bus.queue reader.device = s.bus.queue reader.device) :
    ∃ reader', Conveys chunks ⟨s, action, s'⟩ link.transport reader reader' := by
  have idle {id : Nat} {call : Call} (present : s.call? id = some call) (underway : call.isUnderway = true) :
      False := by
    have idle := linked.underway_idle id call
      (attempt?_of_call? present (Call.isLifecycle_of_isUnderway underway)) underway
    rw [active] at idle
    cases idle
  have same {action : Action} {s' : Session} (transports : s'.transports = s.transports) (bus : s'.bus = s.bus)
      (quiet : Moment.arrival? ⟨s, action, s'⟩ = none) :
      ∃ reader', Conveys chunks ⟨s, action, s'⟩ link.transport reader reader' :=
    conveys_of_same taps (by rw [transports]) (by rw [bus]) quiet
  cases move with
  | refusesSend isClosed => exact same rfl rfl rfl
  | refusesRequest isClosed => exact same rfl rfl rfl
  | sends => exact same rfl rfl rfl
  | requests => exact same rfl rfl rfl
  | connects =>
    obtain ⟨t, found, -⟩ := linked.active_open link active
    refine conveys_of_same taps ?_ (List.prefix_refl _) rfl
    exact List.getElem?_append_left (List.getElem?_eq_some_iff.mp found).1
  | disconnects => exact same rfl rfl rfl
  | advances present advance =>
    cases advance with
    | writes write => exact conveys_of_same taps rfl (write_queue write _) rfl
    | writesAlone write => exact conveys_of_same taps rfl (write_queue write _) rfl
    | writesOrphan write => exact conveys_of_same taps rfl (write_queue write _) rfl
    | _ => exact same rfl rfl rfl
  | takes => cases active'
  | reopens present => exact (idle present rfl).elim
  | disconnected present => exact (idle present rfl).elim
  | opens present => exact (idle present rfl).elim
  | opensNot present => exact (idle present rfl).elim
  | attachesNot present => exact (idle present rfl).elim
  | installs present => exact (idle present rfl).elim
  | discards present => exact (idle present rfl).elim
  | @reads i index t t' bus found turned =>
    by_cases own : i = link.transport
    · subst own
      exact conveys_of_read linked active found turned taps divides rfl rfl
    · refine conveys_of_same taps (List.getElem?_modify_ne _ _ own) ?_ rfl
      rw [alone (by simpa [Moment.readsOther] using own)]
  | delivers known stage found tapped takes =>
    exact conveys_of_taken linked active known stage found tapped takes taps rfl rfl
  | publishes known stage found tapped takes =>
    exact conveys_of_taken linked active known stage found tapped takes taps rfl rfl
  | loses => cases active'
  | noticesLate known stage found tapped ended past =>
    exact absurd (linked.current_of_listening known stage) (by simp [past])
  | @releases generation receiver known stage =>
    have apart : receiver.transport ≠ link.transport := by
      intro shared
      have listens := linked.active_receiver link active
      have own := List.inj_on_of_nodup_map linked.routes_nodup (receiver?_some known).1 listens shared
      rw [own] at stage
      cases stage
    refine conveys_of_same taps (List.getElem?_modify_ne _ _ apart) (List.prefix_refl _) ?_
    simp [Moment.arrival?, known, stage]
  | ticks => exact same rfl rfl rfl
  | happens => exact conveys_of_same taps rfl (s.bus.queue_prefix_apply _ _) rfl
  | withholds => exact same rfl rfl rfl

theorem Move.carries (move : Move s action s') (linked : s.Linked) (active : s.active = some link)
    (active' : s'.active = some link) (taps : s.reader? link.transport = some reader)
    (fits : ∀ frame ∈ s.bus.queue reader.device, frame ≠ [] ∧ frame.length ≤ reader.size)
    (alone : Moment.readsOther ⟨s, action, s'⟩ link.transport = true →
      s'.bus.queue reader.device = s.bus.queue reader.device) :
    ∃ reader', Carries ⟨s, action, s'⟩ link.transport reader reader' := by
  have divides : ∀ frame ∈ s.bus.queue reader.device, Transport.Divides reader.size (fun frame => [frame]) frame :=
    fun frame queued => Transport.divides_of_fits (fits frame queued).1 (fits frame queued).2
  obtain ⟨reader', conveys⟩ := move.conveys linked active active' taps (fun _ => divides) alone
  refine ⟨reader', conveys.taps, conveys.device, conveys.size, ?_⟩
  have chunks := conveys.chunks
  rwa [List.flatMap_singleton', ← Transport.Reader.pipe_eq_flow, ← Transport.Reader.pipe_eq_flow] at chunks

end Carries

end Session

end TagConsole
