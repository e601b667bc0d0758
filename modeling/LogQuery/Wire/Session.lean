import LogQuery.Json.Tagged
import LogQuery.Session.Protocol
import LogQuery.Wire.Query

namespace LogQuery

open Json

/-- The key of the tag of commands and messages. -/
def commandKey : String := "command"

namespace Command

def members (variant : String) (fields : List (String × Shape)) : Shape :=
  .record s!"struct variant SessionCommand::{variant}" fields

def family : Family where
  title := "internally tagged enum SessionCommand"
  key := commandKey
  variants := [
    ("refresh", members "Refresh" [("query", .string)]),
    ("change_title", members "ChangeTitle" [("title", .string)]),
    ("go_to_log", members "GoToLog" [("pointer", .string), ("region", .string)]),
    ("open_raw", members "OpenRaw" []),
    ("duplicate", members "Duplicate" []),
    ("close", members "Close" [])]

/-- The tag of a command and its other members. -/
def parts : Command → String × List (String × Json)
  | refresh block => ("refresh", [("query", .string block)])
  | changeTitle title => ("change_title", [("title", .string title)])
  | goToLog pointer region =>
    ("go_to_log", [("pointer", .string pointer), ("region", .string region)])
  | openRaw => ("open_raw", [])
  | duplicate => ("duplicate", [])
  | close => ("close", [])

def toJson (command : Command) : Json :=
  .object ((commandKey, .string command.parts.1) :: command.parts.2)

def ofParts? : String → Json → Option Command
  | "refresh", .object [(_, .string block)] => some (.refresh block)
  | "change_title", .object [(_, .string title)] => some (.changeTitle title)
  | "go_to_log", .object [(_, .string pointer), (_, .string region)] =>
    some (.goToLog pointer region)
  | "open_raw", _ => some .openRaw
  | "duplicate", _ => some .duplicate
  | "close", _ => some .close
  | _, _ => none

def ofText (text : String) : Except Fault Command := do
  let (tag, members) ← readTagged family text
  interpret (ofParts? tag) members

end Command

namespace RegionLogGroups

def shape : Shape :=
  .record "struct RegionLogGroups" [("region", .string), ("log_groups", .list .string)]

def toJson (entry : RegionLogGroups) : Json :=
  .object [("region", .string entry.region), ("log_groups", ofStrings entry.logGroups)]

def ofJson? : Json → Option RegionLogGroups
  | .object [(_, .string region), (_, logGroups)] => do
    return { region, logGroups := ← logGroups.strings? }
  | _ => none

end RegionLogGroups

namespace Statistics

def shape : Shape :=
  .record "struct QueryStatistics" [
    ("bytes_scanned", .real), ("records_matched", .real), ("records_scanned", .real)]

def toJson (statistics : Statistics) : Json :=
  .object [
    ("bytes_scanned", .number statistics.bytesScanned),
    ("records_matched", .number statistics.recordsMatched),
    ("records_scanned", .number statistics.recordsScanned)]

def ofJson? : Json → Option Statistics
  | .object [(_, .number bytesScanned), (_, .number recordsMatched),
    (_, .number recordsScanned)] =>
    some { bytesScanned, recordsMatched, recordsScanned }
  | _ => none

end Statistics

namespace Ending

def name : Ending → String
  | completed => "Completed"
  | canceled => "Canceled"

def shape : Shape :=
  .choice [completed.name, canceled.name]

def ofName? : String → Option Ending
  | "Completed" => some completed
  | "Canceled" => some canceled
  | _ => none

end Ending

namespace Message

def members (variant : String) (fields : List (String × Shape)) : Shape :=
  .record s!"struct variant SessionMessage::{variant}" fields

def family : Family where
  title := "internally tagged enum SessionMessage"
  key := commandKey
  variants := [
    ("started", members "Started" [
      ("title", .string), ("environment", .string), ("time_range", TimeRange.shape),
      ("log_groups", .list RegionLogGroups.shape), ("raw", .string)]),
    ("results", members "Results" [
      ("field_names", .list .string), ("field_refresh", .bool), ("rows", .list Row.shape),
      ("row_count", .word)]),
    ("finished", members "Finished" [
      ("status", Ending.shape), ("title", .string), ("row_count", .word),
      ("statistics", Statistics.shape)]),
    ("title", members "Title" [("title", .string)]),
    ("log_record", members "LogRecord" [("fields", .list (.pair .string .string))]),
    ("raw_table", members "RawTable" [("text", .string)]),
    ("error", members "Error" [("message", .string)])]

/-- The tag of a message and its other members. -/
def parts : Message → String × List (String × Json)
  | started shown environment timeRange logGroups source => ("started", [
      ("title", .string shown), ("environment", .string environment),
      ("time_range", timeRange.toJson),
      ("log_groups", .array (logGroups.map RegionLogGroups.toJson)), ("raw", .string source)])
  | results fieldNames fieldsChanged rows rowCount => ("results", [
      ("field_names", ofStrings fieldNames), ("field_refresh", .bool fieldsChanged),
      ("rows", .array (rows.map Row.toJson)), ("row_count", .integer rowCount)])
  | finished ending shown rowCount statistics => ("finished", [
      ("status", .string ending.name), ("title", .string shown), ("row_count", .integer rowCount),
      ("statistics", statistics.toJson)])
  | title text => ("title", [("title", .string text)])
  | logRecord fields => ("log_record", [
      ("fields", .array (fields.map fun (name, value) => .array [.string name, .string value]))])
  | rawTable text => ("raw_table", [("text", .string text)])
  | error text => ("error", [("message", .string text)])

def toJson (message : Message) : Json :=
  .object ((commandKey, .string message.parts.1) :: message.parts.2)

def ofParts? : String → Json → Option Message
  | "started", .object [(_, .string shown), (_, .string environment), (_, timeRange),
      (_, logGroups), (_, .string source)] => do
    return started shown environment (← TimeRange.ofJson? timeRange)
      (← logGroups.list? RegionLogGroups.ofJson?) source
  | "results", .object [(_, fieldNames), (_, .bool fieldsChanged), (_, rows),
      (_, .integer rowCount)] => do
    return results (← fieldNames.strings?) fieldsChanged (← rows.list? Row.ofJson?) rowCount.toNat
  | "finished", .object [(_, .string ending), (_, .string shown), (_, .integer rowCount),
      (_, statistics)] => do
    return finished (← Ending.ofName? ending) shown rowCount.toNat
      (← Statistics.ofJson? statistics)
  | "title", .object [(_, .string text)] => some (title text)
  | "log_record", .object [(_, fields)] => (fields.list? stringPair?).map logRecord
  | "raw_table", .object [(_, .string text)] => some (rawTable text)
  | "error", .object [(_, .string text)] => some (error text)
  | _, _ => none

def ofText (text : String) : Except Fault Message := do
  let (tag, members) ← readTagged family text
  interpret (ofParts? tag) members

end Message

end LogQuery
