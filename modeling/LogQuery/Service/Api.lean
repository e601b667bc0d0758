import LogQuery.Json.Reader
import LogQuery.QueryError
import LogQuery.Service.Exchange
import LogQuery.Service.Layout
import LogQuery.Text.Lines

namespace LogQuery

/-- An operation of the log service in a region. -/
inductive Operation where
  | listLogGroups (token? : Option String)
  | startQuery (request : StartRequest)
  | results (queryId : String)
  | stopQuery (queryId : String)
  | logRecord (pointer : String)
  | history
deriving DecidableEq, Repr

structure HttpResponse where
  status : Nat
  body : String
deriving DecidableEq, Repr

/-- Whether a region can be part of the name of a host; with any other no request can be made. -/
def isHostLabel (region : String) : Bool :=
  let label (part : List Char) : Bool :=
    !part.isEmpty && part.length ≤ 63 && part.head? != some '-' &&
      part.all fun c => c.isAlphanum || c == '-'
  (Text.cut '.' region.toList).all label

structure ApiRequest where
  target : String
  body : Json

namespace Operation

/-- The name of the operation in the header of a request. -/
def target : Operation → String
  | listLogGroups _ => "Logs_20140328.DescribeLogGroups"
  | startQuery _ => "Logs_20140328.StartQuery"
  | results _ => "Logs_20140328.GetQueryResults"
  | stopQuery _ => "Logs_20140328.StopQuery"
  | logRecord _ => "Logs_20140328.GetLogRecord"
  | history => "Logs_20140328.DescribeQueries"

/-- A member that is left out if it has no value. -/
def optionalMember {α : Type} (key : String) (f : α → Json) : Option α → List (String × Json)
  | some a => [(key, f a)]
  | none => []

def body : Operation → Json
  | listLogGroups token? => .object (optionalMember "nextToken" .string token?)
  | startQuery request => .object ([
      ("logGroupNames", Json.ofStrings request.logGroups),
      ("startTime", .integer request.startSeconds), ("endTime", .integer request.stopSeconds),
      ("queryString", .string request.body)] ++ optionalMember "limit" .integer request.limit?)
  | results queryId => .object [("queryId", .string queryId)]
  | stopQuery queryId => .object [("queryId", .string queryId)]
  | logRecord pointer => .object [("logRecordPointer", .string pointer)]
  | history => .object []

def request? (operation : Operation) (region : String) : Option ApiRequest :=
  if isHostLabel region then some { target := operation.target, body := operation.body } else none

def failureText (region : String) : Operation → String
  | listLogGroups _ => s!"Failed to list log groups in {region}"
  | startQuery _ => s!"StartQuery failed in {region}"
  | results queryId => s!"GetQueryResults failed for query {queryId} in {region}"
  | stopQuery queryId => s!"StopQuery failed for query {queryId} in {region}"
  | logRecord _ => s!"GetLogRecord failed in {region}"
  | history => s!"DescribeQueries failed in {region}"

def logGroupPart : Part :=
  .structured [("logGroupName", .text), ("creationTime", .int64), ("retentionInDays", .int32),
    ("metricFilterCount", .int32), ("arn", .text), ("storedBytes", .int64), ("kmsKeyId", .text),
    ("dataProtectionStatus", .text), ("inheritedProperties", .list .text),
    ("logGroupClass", .text), ("logGroupArn", .text)]

def statisticsPart : Part :=
  .structured [("recordsMatched", .real), ("recordsScanned", .real),
    ("estimatedRecordsSkipped", .real), ("bytesScanned", .real), ("estimatedBytesSkipped", .real),
    ("logGroupsScanned", .real)]

def historyPart : Part :=
  .structured [("queryLanguage", .text), ("queryId", .text), ("queryString", .text),
    ("status", .text), ("createTime", .int64), ("logGroupName", .text)]

def answerPart : Operation → Part
  | listLogGroups _ => .structured [("logGroups", .list logGroupPart), ("nextToken", .text)]
  | startQuery _ => .structured [("queryId", .text)]
  | results _ => .structured [("queryLanguage", .text),
      ("results", .list (.list (.structured [("field", .text), ("value", .text)]))),
      ("statistics", statisticsPart), ("status", .text), ("encryptionKey", .text)]
  | stopQuery _ => .structured [("success", .flag)]
  | logRecord _ => .structured [("logRecord", .table .text)]
  | history => .structured [("queries", .list historyPart), ("nextToken", .text)]

/-- The answer in a response: it has to have the status of success and the layout of the
operation. An empty body stands for an empty object. -/
def answer? (operation : Operation) (response : HttpResponse) : Option Json :=
  if response.status ≠ 200 then none
  else if response.body.isEmpty then some (.object [])
  else match Json.read response.body with
    | .ok value => operation.answerPart.read value
    | .error _ => none

def answer (operation : Operation) (region : String) (response : HttpResponse) :
    Except CallFailure Json :=
  match operation.answer? response with
  | some value => .ok value
  | none => .error [operation.failureText region]

end Operation

namespace Api

def text? (key : String) (value : Json) : Option String :=
  (value.member? key).bind Json.string?

def items (key : String) (value : Json) : List Json :=
  match value.member? key with
  | some (.array items) => items
  | _ => []

/-- The number of a member, zero if it is absent. -/
def real (key : String) (value : Json) : Float :=
  match value.member? key with
  | some (.number x) => x
  | _ => 0

def status (value : Json) : QueryStatus :=
  match text? "status" value with
  | some name => .ofName name
  | none => .unknown

/-- A page of the list of log groups. Those without a name are left out. -/
def catalogPage (region : String) (token? : Option String) (response : HttpResponse) :
    Except CallFailure CatalogPage := do
  let value ← (Operation.listLogGroups token?).answer region response
  return {
    names := (items "logGroups" value).filterMap (text? "logGroupName")
    nextToken? := text? "nextToken" value }

/-- The name that the service gives to a query which it has started. -/
def startedQuery (region : String) (request : StartRequest) (response : HttpResponse) :
    Except CallFailure String := do
  let value ← (Operation.startQuery request).answer region response
  match text? "queryId" value with
  | some id => .ok id
  | none => .error [s!"StartQuery in {region} returned no query id"]

def rawCell (value : Json) : RawCell where
  field? := text? "field" value
  value? := text? "value" value

def rawRow : Json → List RawCell
  | .array cells => cells.map rawCell
  | _ => []

def resultsPage (region queryId : String) (response : HttpResponse) :
    Except CallFailure ResultsPage := do
  let value ← (Operation.results queryId).answer region response
  let statistics? := (value.member? "statistics").map fun figures => {
    bytesScanned := real "bytesScanned" figures
    recordsMatched := real "recordsMatched" figures
    recordsScanned := real "recordsScanned" figures }
  return .ofRawRows (status value) ((items "results" value).map rawRow) statistics?

def stoppedQuery (region queryId : String) (response : HttpResponse) :
    Except CallFailure Bool := do
  let value ← (Operation.stopQuery queryId).answer region response
  match value.member? "success" with
  | some (.bool b) => .ok b
  | _ => .ok false

def logRecord (region pointer : String) (response : HttpResponse) :
    Except CallFailure LogRecord := do
  let value ← (Operation.logRecord pointer).answer region response
  match value.member? "logRecord" with
  | some (.object fields) =>
    .ok (Json.sortMembers (fields.filterMap fun (name, text) => (text.string?).map (name, ·)))
  | _ => .ok []

/-- The queries that were run before. Those without a text are left out. -/
def history (region : String) (response : HttpResponse) :
    Except CallFailure (List HistoryEntry) := do
  let value ← Operation.history.answer region response
  return (items "queries" value).filterMap fun query =>
    (text? "queryString" query).map fun body => {
      queryId? := text? "queryId" query
      body
      createTime? := (query.member? "createTime").bind Json.integer?
      status := status query }

end Api

end LogQuery
