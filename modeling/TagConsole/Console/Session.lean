import TagConsole.Console.Basic
import TagConsole.Device.Session

/-!
Typed lines run on a session.
-/

namespace TagConsole.Console

def replyOf : Except Device.Error Device.Result → Except Device.Error Wire.Reply
  | .ok (.reply reply) => .ok reply
  | .ok _ => .error .emptyReply
  | .error e => .error e

def errand (console : Console) (s : Session) (input : String) : Session.Errand (Execution × Console) :=
  match console.enter s.isConnected input with
  | (.done execution, console) => .done (execution, console)
  | (.request command lines, console) =>
    let deadline := s.config.device.deadline command.opcode
    ((Device.Operation.execute command deadline).errand s.config.device).map fun result =>
      console.answer lines (replyOf result)

def execute (console : Console) (s : Session) (input : String) : Execution × Console × Session :=
  let ((execution, console), s) := s.complete (console.errand s input)
  (execution, console, s)

end TagConsole.Console
