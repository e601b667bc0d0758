import LogQuery.Display.Record
import LogQuery.Display.Table
import LogQuery.Session.Protocol

/-!
Sessions. A session belongs to one results view: it holds the query of the view, runs it and
answers the commands of the view. It runs one execution at a time. A new query waits until the
execution before it has stopped, and so does closing. Executions and commands are interleaved:
between two steps of an execution any number of commands may be handled, also between taking note
of something and sending the message about it.
-/

namespace LogQuery

open Display

/-- The execution of a session. -/
structure Running where
  execution : Execution
  /-- What is left of the present turn, from the next call on; nothing once the session has taken
  note of the outcome. -/
  task? : Option (Task Stage)
  /-- A message that is made up and has yet to be sent. -/
  unsent? : Option Message
  /-- Whether it has been told to stop. -/
  cancelled : Bool

namespace Running

def start (execution : Execution) : Running where
  execution := execution
  task? := some execution.start
  unsent? := none
  cancelled := false

def ended (running : Running) : Bool :=
  running.task?.isNone && running.unsent?.isNone

end Running

/-- A command that is not finished yet. -/
inductive Errand where
  /-- Waits for the execution to end and then runs a query block. -/
  | refresh (block : String)
  /-- Waits for the execution to end and then closes the session. -/
  | close
  | fetch (task : Task Message)

/-- The session of a results view. -/
structure Session where
  /-- The milliseconds between two rounds of results. -/
  interval : Nat
  /-- The query that was accepted last. -/
  query? : Option Query
  /-- The title that the view was given. -/
  title? : Option String
  /-- The rows that came last. -/
  latest? : Option Aggregate
  /-- The execution, also once it has ended, until someone has waited for it. -/
  running? : Option Running
  errand? : Option Errand
  /-- All messages to the view, oldest first. -/
  sent : List Message

/-- What becomes of a session when a command is finished. -/
inductive Reply where
  | carryOn
  /-- A second session has been opened. -/
  | duplicated (copy : Session)
  | closed

namespace Session

def new (interval : Nat) : Session where
  interval := interval
  query? := none
  title? := none
  latest? := none
  running? := none
  errand? := none
  sent := []

def post (session : Session) (message : Message) : Session :=
  { session with sent := session.sent ++ [message] }

/-- Whether there is an execution that has not ended. -/
def isRunning (session : Session) : Bool :=
  match session.running? with
  | some running => !running.ended
  | none => false

def toldToStop (session : Session) : Bool :=
  match session.running? with
  | some running => running.cancelled
  | none => false

/-- What the session keeps of the progress of its execution, and the message about it. -/
def note (session : Session) (query : Query) : Progress → Session × Option Message
  | .logGroups resolved =>
    (session, some
      (.started (query.panelTitle 0) query.environment query.timeRange resolved query.source))
  | .started _ => (session, none)
  | .results result fieldsChanged =>
    ({ session with latest? := some result },
      some (.results (query.columns.order result.fieldNames) fieldsChanged result.rows
        result.rowCount))

/-- What the session keeps of the outcome of its execution, and the message about it. -/
def conclude (session : Session) (query : Query) : Except QueryError Report → Session × Message
  | .error e => (session, .error e.message)
  | .ok report =>
    let current? := session.query?.map fun current =>
      { current with fieldNames? := report.fieldNames? }
    let rowCount := report.result.rowCount
    let title := (current?.getD query).panelTitle rowCount
    ({ session with query? := current?, latest? := some report.result },
      .finished report.ending title rowCount report.statistics)

/-- Sends the message that the execution has made up. -/
def deliver (session : Session) : Session :=
  match session.running? with
  | some running =>
    match running.unsent? with
    | some message =>
      { session with running? := some { running with unsent? := none } }.post message
    | none => session
  | none => session

/-- The step of an execution from the next call of its turn on, if nobody else has to answer that
call: it tells the session how far it has come, asks it whether to stop, ends or begins its next
turn. -/
def take (session : Session) (running : Running) : Task Stage → Session
  | .call (.report progress) next =>
    let (session, unsent?) := session.note running.execution.query progress
    { session with running? := some { running with task? := some (next ()), unsent? } }
  | .call .cancelled next =>
    { session with running? := some { running with task? := some (next running.cancelled) } }
  | .done (.ended outcome) =>
    let (session, message) := session.conclude running.execution.query outcome
    { session with running? := some { running with task? := none, unsent? := some message } }
  | .done stage =>
    { session with
      running? := some { running with task? := some (running.execution.turn stage) } }
  | _ => session

/-- Lets the execution take a step by itself, if it has no message to send. -/
def proceed (session : Session) : Session :=
  match session.running? with
  | some running =>
    match running.unsent?, running.task? with
    | none, some task => session.take running task
    | _, _ => session
  | none => session

/-- Goes on with the execution after the answer to its call, where `task` is what that leaves of
its turn. -/
def resume (session : Session) (task : Task Stage) : Session :=
  { session with
    running? := session.running?.map fun running => { running with task? := some task } }

/-- Lets the execution go on with the rest of its turn up to the next call that somebody else has
to answer. -/
def settle (session : Session) : Task Stage → Session
  | .call (.report _) next => session.proceed.deliver.settle (next ())
  | .call .cancelled next => session.proceed.settle (next session.toldToStop)
  | .done _ => session.proceed.deliver
  | .call _ _ => session

/-- Reads a query block at the instant `now`. The title of the view, if it was given one, stands
over all others. -/
def read (session : Session) (now : Int) (block : String) : Except Query.Problem Query :=
  (Query.read now (session.query?.bind Query.title?) block).map fun query =>
    { query with title? := session.title? <|> query.title? }

/-- Runs a query block, read at the instant `now`. No execution may be running. -/
def run (session : Session) (now : Int) (block : String) : Session :=
  match session.read now block with
  | .error problem => session.post (.error problem.toQueryError.message)
  | .ok query =>
    { session with
      query? := some query
      latest? := none
      running? := some (.start { query, interval := session.interval }) }

/-- Does what a command was waiting for the end of the execution to do. -/
def afterEnd (session : Session) (now : Int) : Session × Option Reply :=
  match session.errand? with
  | some (.refresh block) =>
    ({ session with running? := none, errand? := none }.run now block, some .carryOn)
  | some .close => ({ session with running? := none, errand? := none }, some .closed)
  | _ => (session, none)

/-- Goes on with the execution after the answer to its call as far as it gets, where `task` is
what the answer leaves of its turn. A command that has waited for its end goes on then. -/
def advance (session : Session) (now : Int) (task : Task Stage) : Session × Option Reply :=
  if session.running?.isNone then (session, none)
  else
    let session := (session.resume task).settle task
    if session.isRunning then (session, none) else session.afterEnd now

def cancel (session : Session) : Session :=
  { session with
    running? := session.running?.map fun running => { running with cancelled := true } }

/-- Forgets the execution, which someone has waited for. -/
def release (session : Session) : Session :=
  { session with running? := none }

/-- Stops the execution for a command, which is finished when the execution has ended. -/
def stopFor (session : Session) (now : Int) (errand : Errand) : Session × Option Reply :=
  let session := { session.cancel with errand? := some errand }
  if session.isRunning then (session, none) else session.afterEnd now

def changeTitle (session : Session) (title : String) : Session :=
  let rowCount := (session.latest?.map Aggregate.rowCount).getD 0
  let query? := session.query?.map fun query => { query with title? := some title }
  let shown := (query?.map fun query => query.panelTitle rowCount).getD title
  { session with title? := some title, query? }.post (.title shown)

def fetchRecord (site : Site) (pointer : String) : Task Message := do
  match ← Task.ask (.connect site) with
  | .error e => return .error e.message
  | .ok () =>
    match ← Task.ask (.logRecord site pointer) with
    | .ok record => return .logRecord (recordFields record)
    | .error failure =>
      return .error s!"Failed to fetch log record in {site.region}: {CallFailure.message failure}"

/-- Goes on with fetching a message, and sends it once it is there. -/
def fetch (session : Session) : Task Message → Session × Option Reply
  | .done message => ({ session with errand? := none }.post message, some .carryOn)
  | task => ({ session with errand? := some (.fetch task) }, none)

/-- The rows that came last as a table of text. -/
def rawTable (session : Session) : String :=
  match session.latest?, session.query? with
  | some result, some query => Table.render (query.columns.order result.fieldNames) result.rows
  | _, _ => ""

/-- A second session with the same query and title. -/
def duplicate? (session : Session) : Option Session :=
  session.query?.map fun query =>
    { new session.interval with query? := some query, title? := session.title? }.post
      (.title (query.panelTitle 0))

/-- Handles a command at the instant `now`. There is no reply yet if the command has to wait. -/
def handle (session : Session) (now : Int) : Command → Session × Option Reply
  | .refresh block => session.stopFor now (.refresh block)
  | .changeTitle title => (session.changeTitle title, some .carryOn)
  | .goToLog pointer region =>
    match session.query? with
    | none => (session.post (.error "No query has been run in this session"), some .carryOn)
    | some query => session.fetch (fetchRecord ⟨query.environment, region⟩ pointer)
  | .openRaw => (session.post (.rawTable session.rawTable), some .carryOn)
  | .duplicate =>
    match session.duplicate? with
    | some copy => (session, some (.duplicated copy))
    | none => (session.post (.error "No query to duplicate"), some .carryOn)
  | .close => session.stopFor now .close

end Session

end LogQuery
