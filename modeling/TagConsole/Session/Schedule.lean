import TagConsole.Session.Basic

/-!
Running a session until nothing is left to do but wait. Time passes only when it is told to, and a call
that is waited for moves the clock no further than it has to.
-/

namespace TagConsole.Session

def ownActions (s : Session) : List Action :=
  (s.calls.flatMap fun (id, _) => [.resume id, .work id])
    ++ (s.transports.zipIdx.flatMap fun (transport, t) =>
        (List.range transport.readers.length).map fun r => .read t r)
    ++ s.receivers.map fun receiver => .receive receiver.generation

def answerSize : Link.Responder → Nat
  | .silent => 0
  | .always reply => reply.length
  | .script replies => (replies.map fun reply => (reply.getD []).length).foldl max 0
  | .table replies otherwise =>
    (replies.map fun (_, reply) => reply.length).foldl max (otherwise.getD []).length
  | .echo start => start.length

/-- A bound on the actions that the session can take by itself. A byte is read, passed on and received
    at most once. -/
def effort (s : Session) : Nat :=
  let answer := (s.bus.devices.map (answerSize ·.link.responder)).foldl max 0
  let written := (s.calls.map fun (_, call) => call.frameSize + answer + 1).foldl (· + ·) 0
  let held := (s.transports.flatMap fun transport =>
    transport.readers.map fun reader => reader.channel.length + 4).foldl (· + ·) 0
  4 * (s.bus.pendingReads + written + held) + 8 * (s.calls.length + s.receivers.length + 1)

def settleWithin : Nat → Session → Session
  | 0, s => s
  | fuel + 1, s =>
    match s.ownActions.findSome? s.step with
    | some s => settleWithin fuel s
    | none => s

def settle (s : Session) : Session := settleWithin s.effort s

def expireAll (s : Session) : Session :=
  s.calls.foldl (fun s (id, _) => (s.expire id).getD s) s

def elapse (s : Session) (ms : Nat) : Session :=
  (expireAll { s with clock := s.clock + ms }).settle

def outcome? (s : Session) (id : Nat) : Option Outcome := (s.call? id).bind (·.outcome?)

/-- Waits for a call. If nothing but time can end it, its deadline comes. -/
def await (s : Session) (id : Nat) : Session :=
  let s := s.settle
  match s.outcome? id, (s.call? id).bind (·.deadline?) with
  | none, some deadline => s.elapse (deadline - s.clock)
  | _, _ => s

def happen (s : Session) (event : Link.Event) : Session :=
  settle { s with bus := s.bus.apply event }

def start (s : Session) (operation : Operation) : Nat × Session :=
  (s.nextCall, (s.begin operation).settle)

def perform (s : Session) (operation : Operation) : Outcome × Session :=
  let id := s.nextCall
  let s := (s.begin operation).await id
  ((s.outcome? id).getD .done, s.dropCall id)

end TagConsole.Session
