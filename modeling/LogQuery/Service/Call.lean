import LogQuery.QueryError
import LogQuery.Results.Aggregate
import LogQuery.Service.Exchange

namespace LogQuery

structure RegionLogGroups where
  region : String
  logGroups : List String
deriving DecidableEq, Repr

/-- What a running query tells about itself. -/
inductive Progress where
  | logGroups (resolved : List RegionLogGroups)
  | started (queries : List StartedQuery)
  /-- There are rows, and whether their fields differ from those told before. -/
  | results (result : Aggregate) (fieldsChanged : Bool)

/-- What can be asked of the surroundings. -/
inductive Call where
  | connect (site : Site)
  /-- Asks for a page of the names of all log groups, the first one without a token. -/
  | catalogPage (site : Site) (token? : Option String)
  | startQuery (site : Site) (request : StartRequest)
  /-- Asks for the results of several queries at once, and waits for all the answers. -/
  | results (queries : List StartedQuery)
  | stopQuery (query : StartedQuery)
  /-- Asks for the record that a pointer of a result row stands for. -/
  | logRecord (site : Site) (pointer : String)
  | history (site : Site)
  /-- Looks up the catalog that is kept for a site. -/
  | keptCatalog (site : Site)
  | keepCatalog (site : Site) (names : List String)
  | report (progress : Progress)
  /-- Asks whether to stop. -/
  | cancelled
  /-- Waits for some milliseconds, or until told to stop. -/
  | pause (millis : Nat)

@[reducible] def Call.Answer : Call → Type
  | connect _ => Except QueryError Unit
  | catalogPage .. => Except CallFailure CatalogPage
  | startQuery .. => Except CallFailure String
  | results queries => Fin queries.length → Except CallFailure ResultsPage
  | stopQuery _ => Except CallFailure Bool
  | logRecord .. => Except CallFailure LogRecord
  | history _ => Except CallFailure (List HistoryEntry)
  | keptCatalog _ => Option (List String)
  | keepCatalog .. => Unit
  | report _ => Unit
  | cancelled => Bool
  | pause _ => Unit

end LogQuery
