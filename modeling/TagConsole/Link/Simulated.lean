import TagConsole.Link.Error
import TagConsole.Wire.Command

/-!
A link with a simulated device at its far end: frames that wait to be read, a log of what was
written, and a rule that answers each write.
-/

namespace TagConsole.Link

open Wire (Frame)

inductive Responder where
  | silent
  | always (reply : Frame)
  | script (replies : List (Option Frame))
  | table (replies : List (Frame × Frame)) (otherwise : Option Frame)
  | echo (start : Frame)
  deriving DecidableEq, Repr

/-- The answer to one frame and the rule for the next. A table is looked up by the first four bytes. -/
def Responder.answer (responder : Responder) (frame : Frame) : Option Frame × Responder :=
  match responder with
  | silent => (none, responder)
  | always reply => (some reply, responder)
  | script [] => (none, responder)
  | script (reply :: later) => (reply, script later)
  | table replies otherwise =>
    (((replies.find? (·.1 == frame.take 4)).map (·.2)) <|> otherwise, responder)
  | echo start => (some (start ++ frame), responder)

structure Simulated where
  name : String
  queue : List Frame := []
  written : List Frame := []
  responder : Responder := .silent
  failsWrites : Bool := false
  closed : Bool := false
  cleared : Bool := false
  readTimeout : Duration := .ofMillis 50
  deriving DecidableEq, Repr

namespace Simulated

def push (link : Simulated) (frame : Frame) : Simulated :=
  { link with queue := link.queue ++ [frame] }

/-- A write that succeeds is logged and answered; one that fails leaves no trace. -/
def write (link : Simulated) (frame : Frame) : Except Error Nat × Simulated :=
  if link.closed then (.error .closed, link)
  else if link.failsWrites then (.error (.io .brokenPipe "mock write failure"), link)
  else
    let (answer, responder) := link.responder.answer frame
    (.ok frame.length,
      { link with
        written := link.written ++ [frame]
        responder := responder
        queue := link.queue ++ answer.toList })

/-- One read takes at most `size` bytes of the oldest frame and leaves the rest of it in front. -/
def read (link : Simulated) (size : Nat) : Except Error Frame × Simulated :=
  match link.queue with
  | frame :: later =>
    if size < frame.length then
      (.ok (frame.take size), { link with queue := frame.drop size :: later })
    else (.ok frame, { link with queue := later })
  | [] => (.error (if link.closed then .closed else .timeout link.readTimeout), link)

def clear (link : Simulated) : Simulated := { link with queue := [], cleared := true }

end Simulated

end TagConsole.Link
