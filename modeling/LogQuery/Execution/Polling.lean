import LogQuery.Columns
import LogQuery.QueryError
import LogQuery.Results.Aggregate
import LogQuery.Results.FieldSet
import LogQuery.Service.Exchange

/-!
The state of a query that has been started in its regions and is asked for results in rounds. A
region that has settled is not asked again. Each answer holds all rows of its region so far, and
takes the place of the answer before it.
-/

namespace LogQuery

/-- How far the query has come in a region. -/
inductive RegionState where
  | scheduled | running | complete
  /-- The service has given up on the query. -/
  | failed
deriving DecidableEq, Repr

namespace RegionState

/-- What a state that the service reports means for the region. -/
def ofStatus (status : QueryStatus) : RegionState :=
  if status = .complete then complete
  else if status = .scheduled then scheduled
  else if status.isTerminal then failed
  else running

/-- Whether there is nothing more to ask for. -/
def settled : RegionState → Bool
  | complete | failed => true
  | scheduled | running => false

end RegionState

/-- What is known of the query in one region. -/
structure RegionPoll where
  query : StartedQuery
  state : RegionState
  rows : List Row
  statistics? : Option Statistics

namespace RegionPoll

def start (query : StartedQuery) : RegionPoll where
  query := query
  state := .scheduled
  rows := []
  statistics? := none

def region (poll : RegionPoll) : String :=
  poll.query.site.region

def settled (poll : RegionPoll) : Bool :=
  poll.state.settled

/-- The region after a page of results. Rows that are bare values are named by the columns. -/
def receive (columns : Columns) (poll : RegionPoll) (page : ResultsPage) : RegionPoll where
  query := poll.query
  state := .ofStatus page.status
  rows := page.rows ++ columns.nameRows page.valueRows
  statistics? := page.statistics? <|> poll.statistics?

def pollError (poll : RegionPoll) (failure : CallFailure) : QueryError :=
  .queryPoll poll.region poll.query.id failure.message

def snapshot (poll : RegionPoll) : Snapshot where
  region := poll.region
  rows := poll.rows

/-- The regions after a round, where those that have not settled get the answers in turn. The
first answer that is a failure ends the round. -/
def receiveAll (columns : Columns) : (polls : List RegionPoll) →
    (answers : List (Except CallFailure ResultsPage)) → Except QueryError (List RegionPoll)
  | [], _ => .ok []
  | poll :: polls, answers =>
    if poll.settled then do
      return poll :: (← receiveAll columns polls answers)
    else match answers with
      | [] => .ok (poll :: polls)
      | .error failure :: _ => .error (poll.pollError failure)
      | .ok page :: answers => do
        return poll.receive columns page :: (← receiveAll columns polls answers)

end RegionPoll

/-- A query that is asked for results in rounds. -/
structure Polling where
  /-- The regions in the order of the query. -/
  regions : List RegionPoll
  columns : Columns
  /-- The field names that were shown last. -/
  shown? : Option (List String)
  rounds : Nat

namespace Polling

/-- A query of which nothing is known but that it has been started. -/
def start (columns : Columns) (shown? : Option (List String)) (queries : List StartedQuery) :
    Polling where
  regions := queries.map RegionPoll.start
  columns := columns
  shown? := shown?
  rounds := 0

/-- The queries to be asked in the next round. -/
def unsettled (polling : Polling) : List StartedQuery :=
  (polling.regions.filter fun poll => !poll.settled).map RegionPoll.query

def settled (polling : Polling) : Bool :=
  polling.regions.all RegionPoll.settled

def receive (polling : Polling) (answers : List (Except CallFailure ResultsPage)) :
    Except QueryError Polling := do
  let regions ← RegionPoll.receiveAll polling.columns polling.regions answers
  return { polling with regions, rounds := polling.rounds + 1 }

def aggregate (polling : Polling) : Aggregate :=
  .ofSnapshots (polling.regions.map RegionPoll.snapshot)

def hasRows (polling : Polling) : Bool :=
  polling.regions.any fun poll => !poll.rows.isEmpty

/-- Whether the fields differ from those that were shown last. -/
def fieldsChanged (polling : Polling) : Bool :=
  FieldSet.changed polling.shown? polling.aggregate.fieldNames

/-- The query once its rows have been shown. -/
def afterShowing (polling : Polling) : Polling :=
  if polling.fieldsChanged then { polling with shown? := some polling.aggregate.fieldNames }
  else polling

/-- The regions in which the service has given up on the query. -/
def failedRegions (polling : Polling) : List String :=
  (polling.regions.filter fun poll => decide (poll.state = .failed)).map RegionPoll.region

/-- The last known statistics of all regions together. -/
def statistics (polling : Polling) : Statistics :=
  .sum (polling.regions.filterMap RegionPoll.statistics?)

end Polling

end LogQuery
