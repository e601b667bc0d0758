namespace LogQuery

/-- Why a query was not accepted or did not run to its end. -/
inductive QueryError where
  | malformedQuery (reason : String)
  /-- A side of the time range is neither a timestamp nor a duration. -/
  | invalidTimeRange (reason : String)
  /-- There are no usable credentials for an environment in a region. -/
  | credentials (environment region message : String)
  /-- The list of log groups could not be fetched. -/
  | catalogFetch (region message : String)
  | querySubmit (region message : String)
  | queryPoll (region queryId message : String)
deriving DecidableEq, Repr

namespace QueryError

def region? : QueryError → Option String
  | malformedQuery _ => none
  | invalidTimeRange _ => none
  | credentials _ region _ => some region
  | catalogFetch region _ => some region
  | querySubmit region _ => some region
  | queryPoll region _ _ => some region

/-- The text shown for the error. -/
def message : QueryError → String
  | malformedQuery reason => s!"Malformed query: {reason}"
  | invalidTimeRange reason => s!"Invalid time range: {reason}"
  | credentials environment region message =>
    s!"Could not find credentials for {environment} in {region}: {message}"
  | catalogFetch region message => s!"Failed to list log groups in {region}: {message}"
  | querySubmit region message => s!"Failed to start query in {region}: {message}"
  | queryPoll region queryId message =>
    s!"Failed to fetch results for query {queryId} in {region}: {message}"

end QueryError

/-- A failed call to the remote service: what went wrong, in order from what was being done to the
cause. -/
abbrev CallFailure := List String

/-- The text of a failed call on one line. -/
def CallFailure.message (failure : CallFailure) : String :=
  ": ".intercalate failure

end LogQuery
