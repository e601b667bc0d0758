import LogQuery.Columns
import LogQuery.TimeRange

/-!
Queries. A query is read from a block: a settings line and the body below it, with comment lines
between. The settings line is

    environment;regions;log groups;time range;row limit

with the time range and the row limit optional, or the same with colons and without a row limit. A
comment line that starts with `#@` or `#!` gives the query a title.
-/

namespace LogQuery

open Text

/-- A query with its settings. -/
structure Query where
  /-- The text that is sent to the service. -/
  body : String
  environment : String
  /-- The regions to ask, each once. -/
  regions : List String
  /-- Names of log groups, or patterns for them, joined by commas. -/
  logGroups : String
  timeRange : TimeRange
  /-- The greatest number of rows wanted from a region. -/
  limit? : Option Int
  /-- The block as it was written. -/
  source : String
  title? : Option String
  /-- The fields that the results of the query last had. -/
  fieldNames? : Option (List String)
deriving DecidableEq, Repr

namespace Query

/-- Why a block is no query. -/
inductive Problem where
  | noSettings
  | missingSettings (found : Nat)
  | invalidLimit (text : String)
  | noRegions
  | timeRange (problem : TimeRange.Problem)
deriving DecidableEq, Repr

def Problem.reason : Problem → String
  | noSettings => "query block has no settings line"
  | missingSettings found =>
    let noun := if found = 1 then "field" else "fields"
    s!"settings line needs environment, regions and log groups (found {found} {noun})"
  | invalidLimit text => s!"max results '{text}' is not an integer"
  | noRegions => "settings line names no regions"
  | timeRange problem => problem.toQueryError.message

def Problem.toQueryError (problem : Problem) : QueryError :=
  .malformedQuery problem.reason

/-- What a line of a block is. -/
inductive Line where
  /-- A title, blank if the comment says nothing. -/
  | title (text : String)
  | comment
  | content (text : String)
deriving DecidableEq, Repr

/-- Tells comments and titles from the rest by the first characters of a line. -/
def Line.read (line : String) : Line :=
  match line.toList with
  | '#' :: '@' :: rest => title (String.ofList (strip rest))
  | '#' :: '!' :: rest => title (String.ofList (strip rest))
  | '#' :: _ => comment
  | _ => content line

def Line.title? : Line → Option String
  | title text => if text.isEmpty then none else some text
  | _ => none

/-- The text of a line that is no comment. -/
def Line.content? : Line → Option String
  | content text => some text
  | _ => none

def linesOf (block : String) : List Line :=
  (lines (trim block)).map Line.read

/-- The title that a block gives itself: the first one that is not blank. -/
def ownTitle? (ls : List Line) : Option String :=
  ls.findSome? Line.title?

/-- The lines of a block that are no comments, from the first that is not blank. -/
def contents (ls : List Line) : List String :=
  (ls.filterMap Line.content?).dropWhile blank

structure Settings where
  environment : String
  regions : String
  logGroups : String
  timeRange : String
  limit? : Option Int
deriving DecidableEq, Repr

/-- The row limit that a part of a settings line gives; a blank part gives none. -/
def readLimit (part : String) : Except Problem (Option Int) :=
  let part := trim part
  if part.isEmpty then .ok none
  else match int32? part with
    | some limit => .ok (some limit)
    | none => .error (.invalidLimit part)

/-- The first three pieces of a text cut at colons, and the rest of it. -/
def cutThrice (cs : List Char) : List String :=
  let pieces := cut ':' cs
  (pieces.take 3 ++ (if pieces.length ≤ 3 then [] else [[':'].intercalate (pieces.drop 3)])).map
    String.ofList

/-- Reads a settings line. It is cut at semicolons if it has any, and at the first colons if
not. -/
def Settings.read (line : String) : Except Problem Settings :=
  let line := (trim line).toList
  if ';' ∈ line then
    match splitOn ';' (String.ofList line) with
    | environment :: regions :: logGroups :: more => do
      let limit? ← readLimit ((more[1]?).getD "")
      return { environment, regions, logGroups, timeRange := (more[0]?).getD "", limit? }
    | parts => .error (.missingSettings parts.length)
  else
    match cutThrice line with
    | environment :: regions :: logGroups :: more =>
      .ok { environment, regions, logGroups, timeRange := (more[0]?).getD "", limit? := none }
    | parts => .error (.missingSettings parts.length)

/-- The names in a list joined by commas, without blank ones. -/
def namesOf (list : String) : List String :=
  ((splitOn ',' list).map trim).filter fun name => !name.isEmpty

/-- Reads a query block at the instant `now`. The title of the query before it, if it has one,
stands over the title in the block. -/
def read (now : Int) (previousTitle? : Option String) (block : String) :
    Except Problem Query := do
  let ls := linesOf block
  match contents ls with
  | [] => .error .noSettings
  | line :: body =>
    let settings ← Settings.read line
    let regions := distinct (namesOf settings.regions)
    if regions.isEmpty then .error .noRegions
    let timeRange ← (TimeRange.resolve now settings.timeRange).mapError .timeRange
    return {
      body := unlines body
      environment := trim settings.environment
      regions
      logGroups := trim settings.logGroups
      timeRange
      limit? := settings.limit?
      source := block
      title? := previousTitle? <|> ownTitle? ls
      fieldNames? := none }

/-- The title under which the results of the query are shown. -/
def panelTitle (query : Query) (rowCount : Nat) : String :=
  let title := query.title?.getD "Results"
  s!"{title} {query.environment} ({rowCount})"

def columns (query : Query) : Columns :=
  Columns.ofQuery query.body

end Query

end LogQuery
