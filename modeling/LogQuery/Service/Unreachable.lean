import LogQuery.Service.Api
import LogQuery.Service.Call

namespace LogQuery.Unreachable

def failure (operation : Operation) (site : Site) : CallFailure :=
  [operation.failureText site.region]

/-- The answer to a call, where `enter` gives access to a site and `pause` waits. -/
def answer {m : Type → Type} [Monad m] (enter : Site → m (Except QueryError Unit))
    (pause : (millis : Nat) → m Unit) : (c : Call) → m c.Answer
  | .connect site => enter site
  | .catalogPage site token? => return .error (failure (.listLogGroups token?) site)
  | .startQuery site request => return .error (failure (.startQuery request) site)
  | .results queries =>
    return fun i => .error (failure (.results (queries.get i).id) (queries.get i).site)
  | .stopQuery query => return .error (failure (.stopQuery query.id) query.site)
  | .logRecord site pointer => return .error (failure (.logRecord pointer) site)
  | .history site => return .error (failure .history site)
  | .keptCatalog _ => return none
  | .keepCatalog _ _ => return ()
  | .report _ => return ()
  | .cancelled => return false
  | .pause millis => pause millis

end LogQuery.Unreachable
