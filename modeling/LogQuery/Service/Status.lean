namespace LogQuery

/-- The state of a query as the log service reports it. -/
inductive QueryStatus where
  | scheduled | running | complete | failed | cancelled | timeout
  /-- Any state that is not known here. -/
  | unknown
deriving DecidableEq, Repr

namespace QueryStatus

def all : List QueryStatus :=
  [scheduled, running, complete, failed, cancelled, timeout, unknown]

def name : QueryStatus → String
  | scheduled => "Scheduled"
  | running => "Running"
  | complete => "Complete"
  | failed => "Failed"
  | cancelled => "Cancelled"
  | timeout => "Timeout"
  | unknown => "Unknown"

/-- The state of a name, if there is one. -/
def ofName? (name : String) : Option QueryStatus :=
  all.find? fun status => status.name == name

/-- The state that the service means by a name. -/
def ofName (name : String) : QueryStatus :=
  (ofName? name).getD unknown

/-- Whether the query has ended and will give no further rows. -/
def isTerminal : QueryStatus → Bool
  | complete | failed | cancelled | timeout => true
  | scheduled | running | unknown => false

end QueryStatus

end LogQuery
