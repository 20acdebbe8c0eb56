import TagConsole.Session.Status
import TagConsole.Wire.Command

/-!
Calls on a session. Each call goes through stages; between two stages anything else may happen.
-/

namespace TagConsole.Session

open Wire (Frame)

inductive Operation where
  | connect (kind : Transport.Kind) (target : Option String)
  | disconnect
  | send (frame : Frame)
  | request (frame : Frame) (timeout : Nat)
  deriving DecidableEq, Repr

inductive Outcome where
  | done
  | reply (frame : Frame)
  | failed (error : Error)
  deriving DecidableEq, Repr

inductive Connecting where
  | waiting
  | releasing (old : Option Nat)
  | opening
  | opened (result : Except Transport.Error Nat)
  | discarding (cause : Transport.Error)
  deriving Repr

inductive Disconnecting where
  | waiting
  | releasing (old : Option Nat)
  deriving Repr

inductive Sending where
  | writing (transport : Nat)
  | written (result : Except Transport.Error Unit)
  deriving Repr

inductive Mail where
  | empty
  | reply (frame : Frame)
  | dropped
  deriving DecidableEq, Repr

inductive Progress where
  | writing
  | written (result : Except Transport.Error Unit)
  | awaiting (deadline : Nat)
  deriving Repr

/-- A request keeps the transport that it found in use when it began. -/
inductive Requesting where
  | queueing (transport seq : Nat)
  /-- Has been among the waiters since its turn came. -/
  | registered (transport seq : Nat) (mail : Mail) (progress : Progress)
  deriving Repr

inductive Call where
  | connect (transport : Nat) (stage : Connecting)
  | disconnect (stage : Disconnecting)
  | send (frame : Frame) (stage : Sending)
  | request (frame : Frame) (timeout : Nat) (stage : Requesting)
  /-- A write that goes on although its call was dropped. -/
  | orphan (transport : Nat) (frame : Frame)
  | ended (outcome : Outcome)
  deriving Repr

namespace Call

def isWaiting (seq : Nat) : Call → Bool
  | request _ _ (.registered _ s .empty _) => s == seq
  | _ => false

def handMail (mail : Mail) (chosen : Nat → Bool) : Call → Call
  | request frame timeout (.registered transport seq .empty progress) =>
    request frame timeout (.registered transport seq (if chosen seq then mail else .empty) progress)
  | call => call

def outcome? : Call → Option Outcome
  | ended outcome => some outcome
  | _ => none

def deadline? : Call → Option Nat
  | request _ _ (.registered _ _ _ (.awaiting deadline)) => some deadline
  | _ => none

def frameSize : Call → Nat
  | send frame _ | request frame _ _ | orphan _ frame => frame.length
  | _ => 0

end Call

abbrev Calls := List (Nat × Call)

namespace Calls

def replace (calls : Calls) (id : Nat) (call : Call) : Calls :=
  calls.map fun entry => if entry.1 = id then (id, call) else entry

def remove (calls : Calls) (id : Nat) : Calls := calls.filter (·.1 ≠ id)

def handMail (calls : Calls) (mail : Mail) (chosen : Nat → Bool) : Calls :=
  calls.map fun entry => (entry.1, entry.2.handMail mail chosen)

end Calls

end TagConsole.Session
