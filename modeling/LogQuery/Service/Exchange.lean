import LogQuery.Row
import LogQuery.Service.Status

namespace LogQuery

/-- Where a query runs: a region, seen with the credentials of an environment. -/
structure Site where
  environment : String
  region : String
deriving DecidableEq, Repr

structure StartRequest where
  body : String
  logGroups : List String
  /-- The time range in seconds since 1970-01-01. -/
  startSeconds : Int
  stopSeconds : Int
  limit? : Option Int
deriving DecidableEq, Repr

structure StartedQuery where
  site : Site
  id : String
deriving DecidableEq, Repr

/-- How much a query has looked at and found. -/
structure Statistics where
  bytesScanned : Float
  recordsMatched : Float
  recordsScanned : Float
deriving Inhabited

namespace Statistics

def zero : Statistics := ⟨0, 0, 0⟩

def add (s t : Statistics) : Statistics where
  bytesScanned := s.bytesScanned + t.bytesScanned
  recordsMatched := s.recordsMatched + t.recordsMatched
  recordsScanned := s.recordsScanned + t.recordsScanned

/-- The figures of several queries together, added up in turn. -/
def sum (reports : List Statistics) : Statistics :=
  reports.foldl add zero

end Statistics

/-- The answer to a call for results: all rows so far. -/
structure ResultsPage where
  status : QueryStatus
  rows : List Row
  /-- Rows of which only the values are known. -/
  valueRows : List (List String)
  statistics? : Option Statistics

/-- A cell as the service gives it, where the name and the value may be missing. -/
structure RawCell where
  field? : Option String
  value? : Option String
deriving DecidableEq, Repr

namespace RawCell

/-- The value of a cell, empty if it is missing. -/
def value (cell : RawCell) : String :=
  cell.value?.getD ""

/-- The cell, if it has a name. -/
def named? (cell : RawCell) : Option Cell :=
  cell.field?.map fun field => ⟨field, cell.value⟩

/-- Whether a row holds values and no names at all. -/
def areValues (row : List RawCell) : Bool :=
  !row.isEmpty && row.all fun cell => cell.field?.isNone

end RawCell

/-- The answer made of rows as the service gives them. In a row with some names, cells without
one are left out. -/
def ResultsPage.ofRawRows (status : QueryStatus) (rows : List (List RawCell))
    (statistics? : Option Statistics) : ResultsPage where
  status := status
  rows := (rows.filter fun row => !RawCell.areValues row).map (List.filterMap RawCell.named?)
  valueRows := (rows.filter RawCell.areValues).map (List.map RawCell.value)
  statistics? := statistics?

/-- The number of rows of either kind. -/
def ResultsPage.rowCount (page : ResultsPage) : Nat :=
  page.rows.length + page.valueRows.length

structure CatalogPage where
  names : List String
  nextToken? : Option String
deriving DecidableEq, Repr

/-- The token with which the next page is asked for. An empty token means that there is none. -/
def CatalogPage.following? (page : CatalogPage) : Option String :=
  page.nextToken?.filter fun token => !token.isEmpty

structure HistoryEntry where
  queryId? : Option String
  body : String
  /-- When it was run, in milliseconds since 1970-01-01. -/
  createTime? : Option Int
  status : QueryStatus
deriving DecidableEq, Repr

/-- A log record: the values of its fields, in the order of the field names. -/
abbrev LogRecord := List (String × String)

end LogQuery
