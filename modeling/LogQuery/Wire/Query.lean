import LogQuery.Json.Access
import LogQuery.Json.ShapeReader
import LogQuery.Query.Definition
import LogQuery.Service.Exchange

namespace LogQuery

open Json

namespace TimeRange

def shape : Shape :=
  .record "struct TimeRange" [("start", .int64), ("end", .int64)]

def toJson (range : TimeRange) : Json :=
  .object [("start", .integer range.start), ("end", .integer range.stop)]

def ofJson? : Json → Option TimeRange
  | .object [(_, .integer start), (_, .integer stop)] => some { start, stop }
  | _ => none

end TimeRange

namespace Query

def shape : Shape :=
  .record "struct QueryDefinition" [
    ("query_text", .string), ("environment", .string), ("regions", .list .string),
    ("log_group_pattern", .string), ("time_range", TimeRange.shape),
    ("max_results", .optional .int32), ("raw_text", .string), ("title", .optional .string),
    ("field_names", .optional (.list .string))]

def toJson (query : Query) : Json :=
  .object [
    ("query_text", .string query.body), ("environment", .string query.environment),
    ("regions", ofStrings query.regions), ("log_group_pattern", .string query.logGroups),
    ("time_range", query.timeRange.toJson), ("max_results", ofOption .integer query.limit?),
    ("raw_text", .string query.source), ("title", ofOption .string query.title?),
    ("field_names", ofOption ofStrings query.fieldNames?)]

def ofJson? : Json → Option Query
  | .object [(_, .string body), (_, .string environment), (_, regions), (_, .string logGroups),
      (_, timeRange), (_, limit), (_, .string source), (_, title), (_, fieldNames)] => do
    return {
      body, environment, logGroups, source
      regions := ← regions.strings?
      timeRange := ← TimeRange.ofJson? timeRange
      limit? := ← limit.option? integer?
      title? := ← title.option? string?
      fieldNames? := ← fieldNames.option? strings? }
  | _ => none

def ofText (text : String) : Except Fault Query := do
  interpret ofJson? (← readShaped shape text)

end Query

namespace Row

def shape : Shape :=
  .list (.record "struct ResultField" [("field", .string), ("value", .string)])

def cellToJson (cell : Cell) : Json :=
  .object [("field", .string cell.field), ("value", .string cell.value)]

def toJson (row : Row) : Json :=
  .array (row.map cellToJson)

def cellOfJson? : Json → Option Cell
  | .object [(_, .string field), (_, .string value)] => some { field, value }
  | _ => none

def ofJson? : Json → Option Row
  | .array cells => cells.mapM cellOfJson?
  | _ => none

end Row

namespace HistoryEntry

def shape : Shape :=
  .record "struct QueryHistoryEntry" [
    ("query_id", .optional .string), ("query_string", .string),
    ("create_time", .optional .int64), ("status", .choice (QueryStatus.all.map QueryStatus.name))]

def toJson (entry : HistoryEntry) : Json :=
  .object [
    ("query_id", ofOption .string entry.queryId?), ("query_string", .string entry.body),
    ("create_time", ofOption .integer entry.createTime?), ("status", .string entry.status.name)]

def ofJson? : Json → Option HistoryEntry
  | .object [(_, queryId), (_, .string body), (_, createTime), (_, .string status)] => do
    return {
      queryId? := ← queryId.option? string?
      body
      createTime? := ← createTime.option? integer?
      status := ← QueryStatus.ofName? status }
  | _ => none

def ofText (text : String) : Except Fault HistoryEntry := do
  interpret ofJson? (← readShaped shape text)

end HistoryEntry

end LogQuery
