import TagConsole.Device.Operation
import TagConsole.Session.Errand

/-!
Device operations run on a session.
-/

namespace TagConsole.Device

def Operation.conclude (operation : Operation) : Session.Outcome → Except Error Result
  | .reply frame => operation.interpret frame
  | .failed error => .error (.session error)
  | .done => .error .emptyReply

def Operation.errand (deadlines : Config.DeviceSection) (operation : Operation) :
    Session.Errand (Except Error Result) :=
  match operation.request deadlines with
  | .error e => .done (.error e)
  | .ok request =>
    .call (.request request.frame request.timeout) fun outcome _ => operation.conclude outcome

def run (operation : Operation) (s : Session) : Except Error Result × Session :=
  s.complete (operation.errand s.config.device)

end TagConsole.Device
