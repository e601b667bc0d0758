import LogQuery.Execution.Polling
import LogQuery.LogGroups.Catalog
import LogQuery.Query.Definition

/-!
Executing a query. First access to all regions is asked for, then the log groups are found in
every region, then the query is started in every region, and at last it is asked for results in
rounds until all regions have settled or it is told to stop. An execution takes turns: it stops
between two pages of a catalog and between two rounds of results, and `Stage` says where it has
stopped.
-/

namespace LogQuery

open LogGroups

inductive Ending where
  | completed
  | canceled
deriving DecidableEq, Repr

structure Report where
  ending : Ending
  result : Aggregate
  logGroups : List RegionLogGroups
  failedRegions : List String
  /-- The field names that were shown last. -/
  fieldNames? : Option (List String)
  statistics : Statistics

/-- A query to be executed, and the milliseconds between two rounds. -/
structure Execution where
  query : Query
  interval : Nat
deriving DecidableEq, Repr

/-- Where an execution has stopped. -/
inductive Stage where
  /-- The log groups of some regions are found, the catalog of the next one is being fetched, and
  the other regions come after it. -/
  | draining (found : List RegionLogGroups) (drain : Drain) (rest : List String)
  | polling (logGroups : List RegionLogGroups) (polling : Polling)
  | ended (outcome : Except QueryError Report)

namespace Execution

def site (execution : Execution) (region : String) : Site where
  environment := execution.query.environment
  region := region

/-- Asks for access to the regions in turn, up to the first that refuses it. -/
def connectAll (execution : Execution) : List String → Task (Except QueryError Unit)
  | [] => return .ok ()
  | region :: rest => do
    match ← Task.ask (.connect (execution.site region)) with
    | .error e => return .error e
    | .ok () => execution.connectAll rest

/-- What a region is asked to start, given its log groups. -/
def startRequest (query : Query) (logGroups : List String) : StartRequest where
  body := query.body
  logGroups := logGroups
  startSeconds := query.timeRange.startSeconds
  stopSeconds := query.timeRange.stopSeconds
  limit? := query.limit?

def logGroupsOf (found : List RegionLogGroups) (region : String) : List String :=
  ((found.find? fun entry => entry.region == region).map RegionLogGroups.logGroups).getD []

/-- Stops queries, whether or not the service agrees. -/
def stopAll : List StartedQuery → Task Unit
  | [] => return ()
  | query :: rest => do
    let _ ← Task.ask (.stopQuery query)
    stopAll rest

/-- Starts the query in the regions in turn. If one refuses, the queries started before it are
stopped and no further region is asked. -/
def startAll (execution : Execution) (found : List RegionLogGroups) :
    (regions : List String) → (started : List StartedQuery) →
      Task (Except QueryError (List StartedQuery))
  | [], started => return .ok started
  | region :: rest, started => do
    let site := execution.site region
    let request := startRequest execution.query (logGroupsOf found region)
    match ← Task.ask (.startQuery site request) with
    | .ok id => execution.startAll found rest (started ++ [⟨site, id⟩])
    | .error failure =>
      stopAll started
      return .error (.querySubmit region (CallFailure.message failure))

/-- Goes on once the log groups of all regions are found: starts the query. -/
def submit (execution : Execution) (found : List RegionLogGroups) : Task Stage := do
  Task.ask (.report (.logGroups found))
  match ← execution.startAll found execution.query.regions [] with
  | .error e => return .ended (.error e)
  | .ok queries =>
    Task.ask (.report (.started queries))
    return .polling found (.start execution.query.columns execution.query.fieldNames? queries)

/-- Finds the log groups of the regions in turn, up to the first whose catalog has to be
fetched. -/
def expand (execution : Execution) (found : List RegionLogGroups) : List String → Task Stage
  | [] => execution.submit found
  | region :: rest => do
    match ← lookUp (execution.site region) execution.query.logGroups with
    | some logGroups => execution.expand (found ++ [⟨region, logGroups⟩]) rest
    | none => return .draining found (.start (execution.site region)) rest

/-- The report on an execution that has come to its end. -/
def report (logGroups : List RegionLogGroups) (polling : Polling) (ending : Ending) : Report where
  ending := ending
  result := polling.aggregate
  logGroups := logGroups
  failedRegions := polling.failedRegions
  fieldNames? := polling.shown?
  statistics := polling.statistics

/-- Tells about the rows that there are, if there are any. -/
def showRows (polling : Polling) : Task Polling :=
  if polling.hasRows then do
    Task.ask (.report (.results polling.aggregate polling.fieldsChanged))
    return polling.afterShowing
  else
    return polling

def told : Task Bool :=
  Task.ask .cancelled

/-- The end of a round: once all regions have settled the execution ends, else it waits. -/
def wait (execution : Execution) (logGroups : List RegionLogGroups) (polling : Polling) :
    Task Stage := do
  if polling.settled then
    return .ended (.ok (report logGroups polling .completed))
  Task.ask (.pause execution.interval)
  if ← told then
    return .ended (.ok (report logGroups polling .canceled))
  return .polling logGroups polling

/-- A round once the answers are there: tells about the rows and waits. -/
def showAndWait (execution : Execution) (logGroups : List RegionLogGroups) (polling : Polling) :
    Task Stage := do
  if ← told then
    return .ended (.ok (report logGroups polling .canceled))
  execution.wait logGroups (← showRows polling)

/-- A round: asks the regions that have not settled, tells about the rows and waits. Whether to
stop is asked after the answers and after the wait. -/
def round (execution : Execution) (logGroups : List RegionLogGroups) (polling : Polling) :
    Task Stage := do
  let answers ← Task.ask (.results polling.unsettled)
  match polling.receive (List.ofFn answers) with
  | .error e => return .ended (.error e)
  | .ok polling => execution.showAndWait logGroups polling

def start (execution : Execution) : Task Stage := do
  match ← execution.connectAll execution.query.regions with
  | .error e => return .ended (.error e)
  | .ok () => execution.expand [] execution.query.regions

def turn (execution : Execution) : Stage → Task Stage
  | .draining found drain rest => do
    match ← drain.fetch with
    | .more drain => return .draining found drain rest
    | .failed failure => return .ended (.error (fetchError drain.site failure))
    | .complete names =>
      let logGroups ← keep drain.site execution.query.logGroups names
      execution.expand (found ++ [⟨drain.site.region, logGroups⟩]) rest
  | .polling logGroups polling => execution.round logGroups polling
  | .ended outcome => return .ended outcome

/-- The outcome of the execution from a stage on, with calls that a service answers, within a
number of turns. -/
def runFrom {σ : Type} (execution : Execution) (service : Service σ) :
    (fuel : Nat) → Stage → σ → Option (Except QueryError Report × σ)
  | _, .ended outcome, state => some (outcome, state)
  | 0, _, _ => none
  | fuel + 1, stage, state =>
    let (stage, state) := (execution.turn stage).run service state
    execution.runFrom service fuel stage state

/-- The outcome of the execution, with calls that a service answers, within a number of turns. -/
def run {σ : Type} (execution : Execution) (service : Service σ) (fuel : Nat) (state : σ) :
    Option (Except QueryError Report × σ) :=
  let (stage, state) := execution.start.run service state
  execution.runFrom service fuel stage state

end Execution

end LogQuery
