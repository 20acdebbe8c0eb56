import TagConsole.Session.Schedule

/-!
Work that makes at most one call on a session. The call can be made by whoever holds the session, so the
same work runs on a simulated link and on a real one.
-/

namespace TagConsole.Session

inductive Errand (α : Type) where
  | done (result : α)
  | call (operation : Operation) (conclude : Outcome → Session → α)

def Errand.map {α β : Type} (f : α → β) : Errand α → Errand β
  | done result => .done (f result)
  | call operation conclude => .call operation fun outcome s => f (conclude outcome s)

def complete {α : Type} (s : Session) : Errand α → α × Session
  | .done result => (result, s)
  | .call operation conclude =>
    let (outcome, s) := s.perform operation
    (conclude outcome s, s)

end TagConsole.Session
