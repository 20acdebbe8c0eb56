import TagConsole.Session.Basic

/-!
A session on several threads. A connect that has opened its link starts the receiver, puts the link in use and
says so; a receiver that sees the end of its link looks whether the link is in use and says that it is lost. A
session takes each of these in one step, but another thread can come in between.
-/

namespace TagConsole

namespace Session

def hasEnded (s : Session) (generation : Nat) : Bool :=
  (s.receiver? generation).any fun receiver =>
    (s.transports[receiver.transport]?.bind (·.readers[receiver.reader]?)).any (·.isEnded)

def listens (s : Session) (generation : Nat) : Bool := (s.receiver? generation).any (·.stage = .listening)

def seesEnd (s : Session) (generation : Nat) : Bool := s.listens generation && s.hasEnded generation

def opened? (s : Session) (id : Nat) : Option (Nat × Nat) :=
  match s.call? id with
  | some (.connect transport (.opened (.ok device))) => some (transport, device)
  | _ => none

/-- A connect that has started the receiver of its link. -/
structure Landing where
  call : Nat
  link : ActiveLink
  isInstalled : Bool := false
  deriving DecidableEq, Repr

end Session

/-- A session, and how far the threads have come that are inside one of its steps. -/
structure Threads where
  session : Session
  landing : Option Session.Landing := none
  /-- Generations whose receivers have seen the end and are about to look for their links. -/
  noticing : List Nat := []
  /-- Generations whose receivers have taken their links out of use and are about to say so. -/
  losing : List Nat := []

namespace Threads

open Session (Landing)

inductive Action where
  | whole (action : Session.Action)
  | start (call : Nat)
  | install
  | publish
  | notice (generation : Nat)
  | take (generation : Nat)
  | lose (generation : Nat)

/-- Others can come into the step that the action would be. -/
def isDivided (t : Threads) : Session.Action → Bool
  | .resume id =>
    t.landing.any (·.call = id) || (t.session.opened? id).any fun (transport, device) =>
      (t.session.takeInUse transport device).any (·.1.isOk)
  | .receive generation => t.session.seesEnd generation
  | _ => false

def step (t : Threads) : Action → Option Threads
  | .whole action =>
    if t.isDivided action then none else (t.session.step action).map fun s => { t with session := s }
  | .start call => do
    let (transport, device) ← t.session.opened? call
    match t.landing, ← t.session.takeInUse transport device with
    | none, (.ok reader, s) =>
      let s := s.spawn transport reader
      some { t with session := s, landing := some ⟨call, ⟨transport, s.generation⟩, false⟩ }
    | _, _ => none
  | .install =>
    match t.landing with
    | some ⟨call, link, false⟩ =>
      some { t with session := t.session.activate link, landing := some ⟨call, link, true⟩ }
    | _ => none
  | .publish =>
    match t.landing with
    | some ⟨call, _, true⟩ =>
      some { t with session := (t.session.publish .connected).finish call .done, landing := none }
    | _ => none
  | .notice generation =>
    if t.session.seesEnd generation ∧ generation ∉ t.noticing ++ t.losing then
      some { t with noticing := generation :: t.noticing }
    else none
  | .take generation =>
    if generation ∈ t.noticing then
      let t := { t with noticing := t.noticing.erase generation }
      match t.session.takeLost generation with
      | (true, s) => some { t with session := s, losing := generation :: t.losing }
      | (false, s) => some { t with session := s.updateReceiver generation .over }
    else none
  | .lose generation =>
    if generation ∈ t.losing then
      some { t with
        session := t.session.announceLoss.updateReceiver generation .releasing
        losing := t.losing.erase generation }
    else none

def run (t : Threads) (actions : List Action) : Option Threads := actions.foldlM step t

end Threads

end TagConsole
