import TagConsole.Session.Call
import TagConsole.Transport.Basic

/-!
A session: the one place where the active link is made, replaced and released, and where inbound frames
are matched to the requests that wait for them.
-/

namespace TagConsole

open Wire (Frame)

namespace Session

/-- The link in use. Generations tell one link from the next. -/
structure ActiveLink where
  transport : Nat
  generation : Nat
  deriving DecidableEq, Repr

inductive Receiver.Stage where
  | listening
  | releasing
  | over
  deriving DecidableEq, Repr

structure Receiver where
  generation : Nat
  transport : Nat
  reader : Nat
  stage : Receiver.Stage := .listening
  deriving DecidableEq, Repr

end Session

structure Session where
  config : Config
  bus : Link.Bus := {}
  /-- Every transport that was made; transports are known by their positions here. -/
  transports : List Transport := []
  published : List Session.Status := []
  active : Option Session.ActiveLink := none
  /-- The numbers of the requests that wait for a reply, in the order of their frames on the link. -/
  waiters : List Nat := []
  nextSeq : Nat := 1
  generation : Nat := 0
  /-- The calls that connect or disconnect. The first may go on, the others wait. -/
  lifecycle : List Nat := []
  /-- The requests that want to send. The first may go on, the others wait. -/
  turns : List Nat := []
  receivers : List Session.Receiver := []
  calls : Session.Calls := []
  nextCall : Nat := 0
  clock : Nat := 0
  inbound : List Frame := []
  unsolicited : List Frame := []
  /-- Links are opened without handing out a receiver. -/
  withholdsReceivers : Bool := false

namespace Session

def status (s : Session) : Status := s.published.getLast?.getD .disconnected

def transport? (s : Session) : Option Transport := s.active.bind (s.transports[·.transport]?)

def isConnected (s : Session) : Bool := s.transport?.any (·.isConnected)

def kind? (s : Session) : Option Transport.Kind := s.transport?.map (·.kind)

def call? (s : Session) (id : Nat) : Option Call := s.calls.lookup id

def publish (s : Session) (status : Status) : Session :=
  { s with published := s.published ++ [status] }

def updateTransport (s : Session) (index : Nat) (change : Transport → Transport) : Session :=
  { s with transports := s.transports.modify index change }

def setCall (s : Session) (id : Nat) (call : Call) : Session :=
  { s with calls := s.calls.replace id call }

def dropCall (s : Session) (id : Nat) : Session := { s with calls := s.calls.remove id }

def finish (s : Session) (id : Nat) (outcome : Outcome) : Session :=
  { s.setCall id (.ended outcome) with
    lifecycle := s.lifecycle.erase id, turns := s.turns.erase id }

def isLive (s : Session) (seq : Nat) : Bool := s.calls.any (·.2.isWaiting seq)

def handMail (s : Session) (mail : Mail) (chosen : Nat → Bool) : Session :=
  { s with calls := s.calls.handMail mail chosen }

def register (s : Session) (seq : Nat) : Session := { s with waiters := s.waiters ++ [seq] }

def forget (s : Session) (seq : Nat) : Session := { s with waiters := s.waiters.filter (· ≠ seq) }

def failWaiters (s : Session) : Session :=
  { s.handMail .dropped (· ∈ s.waiters) with waiters := [] }

/-- Hands a frame to the first waiter that still takes one. Those before it are discarded; if there is
    none the frame is unsolicited. -/
def dispatch (s : Session) (frame : Frame) : Session :=
  let s := { s with inbound := s.inbound ++ [frame] }
  match s.waiters.dropWhile fun seq => !s.isLive seq with
  | [] => { s with waiters := [], unsolicited := s.unsolicited ++ [frame] }
  | seq :: later => { s.handMail (.reply frame) (· = seq) with waiters := later }

def updateReceiver (s : Session) (generation : Nat) (stage : Receiver.Stage) : Session :=
  { s with
    receivers := s.receivers.map fun receiver =>
      if receiver.generation = generation then { receiver with stage := stage } else receiver }

def receiver? (s : Session) (generation : Nat) : Option Receiver :=
  s.receivers.find? (·.generation = generation)

def abort (s : Session) (generation : Nat) : Session :=
  match s.receiver? generation with
  | none => s
  | some receiver =>
    (s.updateReceiver generation .over).updateTransport receiver.transport fun transport =>
      { transport with readers := transport.readers.modify receiver.reader (·.abandon) }

def takeActive (s : Session) : Option Nat × Session :=
  match s.active with
  | none => (none, s)
  | some link => (some link.transport, { s.abort link.generation with active := none })

def detach (s : Session) : Option Nat → Session
  | none => s
  | some transport => s.updateTransport transport (·.detach)

def takeLost (s : Session) (generation : Nat) : Bool × Session :=
  if s.active.any (·.generation = generation) then (true, { s with active := none }) else (false, s)

def announceLoss (s : Session) : Session := s.failWaiters.publish .linkLost

/-- The receiver of a generation has seen the end of its link. Nothing changes if that link is no
    longer the active one. -/
def linkEnded (s : Session) (generation : Nat) : Bool × Session :=
  let (lost, s) := s.takeLost generation
  (lost, if lost then s.announceLoss else s)

def takeInUse (s : Session) (transport device : Nat) : Option (Except Transport.Error Nat × Session) := do
  let t ← s.transports[transport]?
  match t.attach s.config s.bus device with
  | (.error cause, t, bus) => some (.error cause, { s with bus := bus }.updateTransport transport fun _ => t)
  | (.ok (), t, bus) =>
    let s := { s with bus := bus }
    match if s.withholdsReceivers then (none, t) else t.takeReceiver with
    | (none, t) => some (.error .notConnected, s.updateTransport transport fun _ => t)
    | (some reader, t) => some (.ok reader, s.updateTransport transport fun _ => t)

def spawn (s : Session) (transport reader : Nat) : Session :=
  let generation := s.generation + 1
  { s with
    generation := generation
    receivers := s.receivers ++ [{ generation := generation, transport := transport, reader := reader }] }

def activate (s : Session) (link : ActiveLink) : Session := { s with active := some link }

def install (s : Session) (transport reader : Nat) : Session :=
  let s := s.spawn transport reader
  s.activate ⟨transport, s.generation⟩

def begin (s : Session) (operation : Operation) : Session :=
  let id := s.nextCall
  let s := { s with nextCall := id + 1 }
  let add (call : Call) (s : Session) : Session := { s with calls := s.calls ++ [(id, call)] }
  match operation with
  | .connect kind target =>
    add (.connect s.transports.length .waiting)
      { s with
        transports := s.transports ++ [{ kind := kind, target := target }], lifecycle := s.lifecycle ++ [id] }
  | .disconnect => add (.disconnect .waiting) { s with lifecycle := s.lifecycle ++ [id] }
  | .send frame =>
    match s.active with
    | none => add (.ended (.failed .notConnected)) s
    | some link =>
      if s.isConnected then add (.send frame (.writing link.transport)) s
      else add (.ended (.failed (.send .notConnected))) s
  | .request frame timeout =>
    match s.active with
    | none => add (.ended (.failed .notConnected)) s
    | some link =>
      if s.isConnected then
        add (.request frame timeout (.queueing link.transport s.nextSeq))
          { s with nextSeq := s.nextSeq + 1, turns := s.turns ++ [id] }
      else add (.ended (.failed .notConnected)) s

def resumeConnect (s : Session) (id transport : Nat) : Connecting → Option Session
  | .waiting =>
    if s.lifecycle.head? = some id then
      let (old, s) := s.takeActive
      some (s.setCall id (.connect transport (.releasing old)))
    else none
  | .releasing old =>
    some ((((s.detach old).failWaiters).publish .connecting).setCall id (.connect transport .opening))
  | .opening => none
  | .opened (.error cause) => some (s.setCall id (.connect transport (.discarding cause)))
  | .opened (.ok device) => do
    match ← s.takeInUse transport device with
    | (.error cause, s) => some (s.setCall id (.connect transport (.discarding cause)))
    | (.ok reader, s) => some (((s.install transport reader).publish .connected).finish id .done)
  | .discarding cause =>
    some (((s.detach (some transport)).publish (.failed cause.message)).finish id
      (.failed (.connect cause)))

def resumeDisconnect (s : Session) (id : Nat) : Disconnecting → Option Session
  | .waiting =>
    if s.lifecycle.head? = some id then
      let (old, s) := s.takeActive
      some (s.setCall id (.disconnect (.releasing old)))
    else none
  | .releasing old => some ((((s.detach old).failWaiters).publish .disconnected).finish id .done)

def resumeSend (s : Session) (id : Nat) : Sending → Option Session
  | .writing _ => none
  | .written (.ok ()) => some (s.finish id .done)
  | .written (.error cause) => some (s.finish id (.failed (.send cause)))

def giveUp (s : Session) (id seq : Nat) (error : Error) : Session :=
  (s.forget seq).finish id (.failed error)

def timedOut (s : Session) (id seq timeout : Nat) : Session :=
  s.giveUp id seq (.timeout (.ofMillis timeout))

def resumeRequest (s : Session) (id : Nat) (frame : Frame) (timeout : Nat) :
    Requesting → Option Session
  | .queueing transport seq =>
    if s.turns.head? = some id then
      let s := s.register seq
      if s.transports[transport]?.any (·.isConnected) then
        some (s.setCall id (.request frame timeout (.registered transport seq .empty .writing)))
      else some (s.giveUp id seq (.send .notConnected))
    else none
  | .registered _ _ _ .writing => none
  | .registered _ seq _ (.written (.error cause)) => some (s.giveUp id seq (.send cause))
  | .registered _ _ (.reply reply) _ => some (s.finish id (.reply reply))
  | .registered _ _ .dropped _ => some (s.finish id (.failed .linkClosed))
  | .registered transport seq .empty (.written (.ok ())) =>
    if timeout = 0 then some (s.timedOut id seq timeout)
    else
      some ({ s with turns := s.turns.erase id }.setCall id
        (.request frame timeout (.registered transport seq .empty (.awaiting (s.clock + timeout)))))
  | .registered _ _ .empty (.awaiting _) => none

def resume (s : Session) (id : Nat) : Option Session := do
  match ← s.call? id with
  | .connect transport stage => s.resumeConnect id transport stage
  | .disconnect stage => s.resumeDisconnect id stage
  | .send _ stage => s.resumeSend id stage
  | .request frame timeout stage => s.resumeRequest id frame timeout stage
  | .orphan _ _ | .ended _ => none

def write (s : Session) (transport : Nat) (frame : Frame) :
    Except Transport.Error Unit × Session :=
  match s.transports[transport]? with
  | none => (.error .notConnected, s)
  | some t =>
    let (result, bus) := t.write s.bus frame
    (result, { s with bus := bus })

/-- Does the slow part of a call, which goes on beside everything else: opening a link or writing. -/
def work (s : Session) (id : Nat) : Option Session := do
  match ← s.call? id with
  | .connect transport .opening =>
    let (result, bus) := (← s.transports[transport]?).openLink s.config s.bus
    some ({ s with bus := bus }.setCall id (.connect transport (.opened result)))
  | .send frame (.writing transport) =>
    let (result, s) := s.write transport frame
    some (s.setCall id (.send frame (.written result)))
  | .request frame timeout (.registered transport seq mail .writing) =>
    let (result, s) := s.write transport frame
    some (s.setCall id (.request frame timeout (.registered transport seq mail (.written result))))
  | .orphan transport frame => some ((s.write transport frame).2.dropCall id)
  | _ => none

def expire (s : Session) (id : Nat) : Option Session := do
  match ← s.call? id with
  | .request _ timeout (.registered _ seq .empty (.awaiting deadline)) =>
    if deadline ≤ s.clock then some (s.timedOut id seq timeout) else none
  | _ => none

/-- Drops a call that sends. Its waiter stays in the queue, and a write that has begun goes on. -/
def cancel (s : Session) (id : Nat) : Option Session := do
  let released := { s with turns := s.turns.erase id }
  match ← s.call? id with
  | .connect _ _ | .disconnect _ | .orphan _ _ => none
  | .send frame (.writing transport) => some (released.setCall id (.orphan transport frame))
  | .request frame _ (.registered transport _ _ .writing) =>
    some (released.setCall id (.orphan transport frame))
  | .send _ _ | .request _ _ _ | .ended _ => some (released.dropCall id)

def read (s : Session) (transport reader : Nat) : Option Session := do
  let (t, bus) ← (← s.transports[transport]?).stepReader s.bus reader
  return { s.updateTransport transport fun _ => t with bus := bus }

def receive (s : Session) (generation : Nat) : Option Session := do
  let receiver ← s.receiver? generation
  match receiver.stage with
  | .over => none
  | .releasing =>
    return (s.detach (some receiver.transport)).updateReceiver generation .over
  | .listening =>
    let transport ← s.transports[receiver.transport]?
    let reader ← transport.readers[receiver.reader]?
    match reader.receive with
    | some (frame, reader) =>
      return (s.updateTransport receiver.transport fun transport =>
        { transport with readers := transport.readers.set receiver.reader reader }).dispatch frame
    | none =>
      if reader.isEnded then
        let (lost, s) := s.linkEnded generation
        return s.updateReceiver generation (if lost then .releasing else .over)
      else none

def withhold (s : Session) (on : Bool) : Session := { s with withholdsReceivers := on }

inductive Action where
  | begin (operation : Operation)
  | resume (call : Nat)
  | work (call : Nat)
  | expire (call : Nat)
  | cancel (call : Nat)
  | read (transport reader : Nat)
  | receive (generation : Nat)
  | tick (ms : Nat)
  | happen (event : Link.Event)
  | withhold (on : Bool)

def step (s : Session) : Action → Option Session
  | .begin operation => some (s.begin operation)
  | .resume call => s.resume call
  | .work call => s.work call
  | .expire call => s.expire call
  | .cancel call => s.cancel call
  | .read transport reader => s.read transport reader
  | .receive generation => s.receive generation
  | .tick ms => some { s with clock := s.clock + ms }
  | .happen event => some { s with bus := s.bus.apply event }
  | .withhold on => some (s.withhold on)

def run (s : Session) (actions : List Action) : Option Session := actions.foldlM step s

end Session

end TagConsole
