import TagConsole.Proofs.Session.Calls

/-!
Everything that one step of a session can do. A step is a move, and a move names the parts of the state
that change; whatever it does not name stays as it was.
-/

namespace TagConsole.Session

open Wire (Frame)

def Action.call? : Action → Option Nat
  | resume id | work id | expire id | cancel id => some id
  | _ => none

/-- How one call that sends goes on: the action, the call before and after it, and the waiters and the
    bus after it. -/
inductive Advance (s : Session) (id : Nat) : Action → Call → Option Call → List Nat → Link.Bus → Prop where
  | registers {frame timeout transport seq} (turn : s.turns.head? = some id)
      (isOpen : s.transports[transport]?.any (·.isConnected) = true) :
      Advance s id (.resume id) (.request frame timeout (.queueing transport seq))
        (some (.request frame timeout (.registered transport seq .empty .writing)))
        (s.waiters ++ [seq]) s.bus
  | refuses {frame timeout transport seq} (turn : s.turns.head? = some id)
      (isClosed : s.transports[transport]?.any (·.isConnected) = false) :
      Advance s id (.resume id) (.request frame timeout (.queueing transport seq))
        (some (.ended (.failed (.send .notConnected)))) ((s.waiters ++ [seq]).filter (· ≠ seq)) s.bus
  | writes {frame timeout transport seq mail result bus}
      (write : s.write transport frame = (result, { s with bus := bus })) :
      Advance s id (.work id) (.request frame timeout (.registered transport seq mail .writing))
        (some (.request frame timeout (.registered transport seq mail (.written result)))) s.waiters bus
  | fails {frame timeout transport seq mail cause} :
      Advance s id (.resume id)
        (.request frame timeout (.registered transport seq mail (.written (.error cause))))
        (some (.ended (.failed (.send cause)))) (s.waiters.filter (· ≠ seq)) s.bus
  | replies {frame timeout transport seq reply progress} (sent : progress.isSent = true) :
      Advance s id (.resume id)
        (.request frame timeout (.registered transport seq (.reply reply) progress))
        (some (.ended (.reply reply))) s.waiters s.bus
  | closes {frame timeout transport seq progress} (sent : progress.isSent = true) :
      Advance s id (.resume id) (.request frame timeout (.registered transport seq .dropped progress))
        (some (.ended (.failed .linkClosed))) s.waiters s.bus
  | awaits {frame timeout transport seq} (positive : timeout ≠ 0) :
      Advance s id (.resume id)
        (.request frame timeout (.registered transport seq .empty (.written (.ok ()))))
        (some (.request frame timeout (.registered transport seq .empty (.awaiting (s.clock + timeout)))))
        s.waiters s.bus
  | expiresAtOnce {frame transport seq} :
      Advance s id (.resume id) (.request frame 0 (.registered transport seq .empty (.written (.ok ()))))
        (some (.ended (.failed (.timeout (.ofMillis 0))))) (s.waiters.filter (· ≠ seq)) s.bus
  | expires {frame timeout transport seq deadline} (late : deadline ≤ s.clock) :
      Advance s id (.expire id)
        (.request frame timeout (.registered transport seq .empty (.awaiting deadline)))
        (some (.ended (.failed (.timeout (.ofMillis timeout))))) (s.waiters.filter (· ≠ seq)) s.bus
  | orphansRequest {frame timeout transport seq mail} :
      Advance s id (.cancel id) (.request frame timeout (.registered transport seq mail .writing))
        (some (.orphan transport frame)) s.waiters s.bus
  | writesAlone {frame transport result bus}
      (write : s.write transport frame = (result, { s with bus := bus })) :
      Advance s id (.work id) (.send frame (.writing transport))
        (some (.send frame (.written result))) s.waiters bus
  | endsAlone {frame result} :
      Advance s id (.resume id) (.send frame (.written result))
        (some (.ended (match result with | .ok () => .done | .error cause => .failed (.send cause))))
        s.waiters s.bus
  | orphansAlone {frame transport} :
      Advance s id (.cancel id) (.send frame (.writing transport))
        (some (.orphan transport frame)) s.waiters s.bus
  | writesOrphan {frame transport result bus}
      (write : s.write transport frame = (result, { s with bus := bus })) :
      Advance s id (.work id) (.orphan transport frame) none s.waiters bus
  | leaves {call} (begun : call.isLifecycle = false) :
      Advance s id (.cancel id) call none s.waiters s.bus

theorem Advance.call?_eq {s : Session} {id : Nat} {action : Action} {old : Call} {new : Option Call}
    {waiters : List Nat} {bus : Link.Bus} (advance : Advance s id action old new waiters bus) :
    action.call? = some id := by
  cases advance <;> rfl

/-- What one step does. -/
inductive Move (s : Session) : Action → Session → Prop where
  | refusesSend {frame error} (isClosed : s.isConnected = false) :
      Move s (.begin (.send frame))
        { s with
          nextCall := s.nextCall + 1
          calls := s.calls ++ [(s.nextCall, .ended (.failed error))] }
  | refusesRequest {frame timeout} (isClosed : s.isConnected = false) :
      Move s (.begin (.request frame timeout))
        { s with
          nextCall := s.nextCall + 1
          calls := s.calls ++ [(s.nextCall, .ended (.failed .notConnected))] }
  | sends {frame link} (active : s.active = some link) (isOpen : s.isConnected = true) :
      Move s (.begin (.send frame))
        { s with
          nextCall := s.nextCall + 1
          calls := s.calls ++ [(s.nextCall, .send frame (.writing link.transport))] }
  | requests {frame timeout link} (active : s.active = some link) (isOpen : s.isConnected = true) :
      Move s (.begin (.request frame timeout))
        { s with
          nextCall := s.nextCall + 1
          nextSeq := s.nextSeq + 1
          turns := s.turns ++ [s.nextCall]
          calls := s.calls ++
            [(s.nextCall, .request frame timeout (.queueing link.transport s.nextSeq))] }
  | connects {kind target} :
      Move s (.begin (.connect kind target))
        { s with
          nextCall := s.nextCall + 1
          transports := s.transports ++ [{ kind := kind, target := target }]
          lifecycle := s.lifecycle ++ [s.nextCall]
          calls := s.calls ++ [(s.nextCall, .connect s.transports.length .waiting)] }
  | disconnects :
      Move s (.begin .disconnect)
        { s with
          nextCall := s.nextCall + 1
          lifecycle := s.lifecycle ++ [s.nextCall]
          calls := s.calls ++ [(s.nextCall, .disconnect .waiting)] }
  | advances {action id old new waiters bus} (present : s.call? id = some old)
      (advance : Advance s id action old new waiters bus) :
      Move s action
        { s with
          calls := s.calls.update id new
          turns := if new.any (·.wantsTurn) then s.turns else s.turns.erase id
          waiters := waiters
          bus := bus }
  | takes {id old new} (present : s.call? id = some old) (turn : s.lifecycle.head? = some id)
      (stage : (∃ transport, old = .connect transport .waiting ∧
          new = .connect transport (.releasing (s.active.map (·.transport)))) ∨
        (old = .disconnect .waiting ∧ new = .disconnect (.releasing (s.active.map (·.transport))))) :
      Move s (.resume id)
        { s with
          active := none
          receivers := s.takeActive.2.receivers
          transports := s.takeActive.2.transports
          calls := s.calls.replace id new }
  | reopens {id transport previous}
      (present : s.call? id = some (.connect transport (.releasing previous))) :
      Move s (.resume id)
        { s with
          transports := (s.detach previous).transports
          waiters := []
          published := s.published ++ [.connecting]
          calls := (s.calls.handMail .dropped (· ∈ s.waiters)).replace id (.connect transport .opening) }
  | disconnected {id previous} (present : s.call? id = some (.disconnect (.releasing previous))) :
      Move s (.resume id)
        { s with
          transports := (s.detach previous).transports
          waiters := []
          published := s.published ++ [.disconnected]
          calls := (s.calls.handMail .dropped (· ∈ s.waiters)).replace id (.ended .done)
          lifecycle := s.lifecycle.erase id }
  | opens {id transport t result bus} (present : s.call? id = some (.connect transport .opening))
      (found : s.transports[transport]? = some t)
      (opened : t.openLink s.config s.bus = (result, bus)) :
      Move s (.work id)
        { s with bus := bus, calls := s.calls.replace id (.connect transport (.opened result)) }
  | opensNot {id transport cause} (present : s.call? id = some (.connect transport (.opened (.error cause)))) :
      Move s (.resume id)
        { s with calls := s.calls.replace id (.connect transport (.discarding cause)) }
  | attachesNot {id transport device t t' bus cause}
      (present : s.call? id = some (.connect transport (.opened (.ok device))))
      (found : s.transports[transport]? = some t)
      (refused : t.attach s.config s.bus device = (.error cause, t', bus) ∨
        (t.attach s.config s.bus device = (.ok (), t', bus) ∧ s.withholdsReceivers = true ∧
          cause = .notConnected)) :
      Move s (.resume id)
        { s with
          bus := bus
          transports := s.transports.modify transport fun _ => t'
          calls := s.calls.replace id (.connect transport (.discarding cause)) }
  | installs {id transport device t t' bus}
      (present : s.call? id = some (.connect transport (.opened (.ok device))))
      (found : s.transports[transport]? = some t)
      (attached : t.attach s.config s.bus device = (.ok (), t', bus))
      (handsOut : s.withholdsReceivers = false) :
      Move s (.resume id)
        { s with
          bus := bus
          transports := s.transports.modify transport fun _ => { t' with hasReceiver := false }
          generation := s.generation + 1
          receivers := s.receivers ++
            [{ generation := s.generation + 1, transport := transport, reader := t'.readers.length - 1 }]
          active := some ⟨transport, s.generation + 1⟩
          published := s.published ++ [.connected]
          calls := s.calls.replace id (.ended .done)
          lifecycle := s.lifecycle.erase id }
  | discards {id transport cause} (present : s.call? id = some (.connect transport (.discarding cause))) :
      Move s (.resume id)
        { s with
          transports := s.transports.modify transport (·.detach)
          published := s.published ++ [.failed cause.message]
          calls := s.calls.replace id (.ended (.failed (.connect cause)))
          lifecycle := s.lifecycle.erase id }
  | reads {transport reader t t' bus} (found : s.transports[transport]? = some t)
      (turned : t.stepReader s.bus reader = some (t', bus)) :
      Move s (.read transport reader)
        { s with transports := s.transports.modify transport fun _ => t', bus := bus }
  | delivers {generation receiver t reader frame reader' seq later}
      (known : s.receiver? generation = some receiver) (stage : receiver.stage = .listening)
      (found : s.transports[receiver.transport]? = some t)
      (taps : t.readers[receiver.reader]? = some reader)
      (takes : reader.receive = some (frame, reader'))
      (queue : s.waiters.dropWhile (fun seq => !s.isLive seq) = seq :: later) :
      Move s (.receive generation)
        { s with
          transports := s.transports.modify receiver.transport fun t =>
            { t with readers := t.readers.set receiver.reader reader' }
          inbound := s.inbound ++ [frame]
          waiters := later
          calls := s.calls.handMail (.reply frame) (· = seq) }
  | publishes {generation receiver t reader frame reader'}
      (known : s.receiver? generation = some receiver) (stage : receiver.stage = .listening)
      (found : s.transports[receiver.transport]? = some t)
      (taps : t.readers[receiver.reader]? = some reader)
      (takes : reader.receive = some (frame, reader'))
      (queue : s.waiters.dropWhile (fun seq => !s.isLive seq) = []) :
      Move s (.receive generation)
        { s with
          transports := s.transports.modify receiver.transport fun t =>
            { t with readers := t.readers.set receiver.reader reader' }
          inbound := s.inbound ++ [frame]
          waiters := []
          unsolicited := s.unsolicited ++ [frame] }
  | loses {generation receiver t reader}
      (known : s.receiver? generation = some receiver) (stage : receiver.stage = .listening)
      (found : s.transports[receiver.transport]? = some t)
      (taps : t.readers[receiver.reader]? = some reader) (ended : reader.isEnded = true)
      (current : s.active.any (·.generation = generation) = true) :
      Move s (.receive generation)
        { s with
          active := none
          waiters := []
          calls := s.calls.handMail .dropped (· ∈ s.waiters)
          published := s.published ++ [.linkLost]
          receivers := (s.updateReceiver generation .releasing).receivers }
  | noticesLate {generation receiver t reader}
      (known : s.receiver? generation = some receiver) (stage : receiver.stage = .listening)
      (found : s.transports[receiver.transport]? = some t)
      (taps : t.readers[receiver.reader]? = some reader) (ended : reader.isEnded = true)
      (past : s.active.any (·.generation = generation) = false) :
      Move s (.receive generation) (s.updateReceiver generation .over)
  | releases {generation receiver} (known : s.receiver? generation = some receiver)
      (stage : receiver.stage = .releasing) :
      Move s (.receive generation)
        { s with
          transports := s.transports.modify receiver.transport (·.detach)
          receivers := (s.updateReceiver generation .over).receivers }
  | ticks {ms} : Move s (.tick ms) { s with clock := s.clock + ms }
  | happens {event} : Move s (.happen event) { s with bus := s.bus.apply event }
  | withholds {on} : Move s (.withhold on) (s.withhold on)

end TagConsole.Session
