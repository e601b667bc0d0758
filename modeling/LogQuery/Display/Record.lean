import LogQuery.Calendar.Layout
import LogQuery.Display.Table
import LogQuery.Json.Reader
import LogQuery.Service.Exchange
import LogQuery.Text.Case

namespace LogQuery.Display

open Text Calendar

/-- The fields of a record that hold a time in milliseconds. -/
def timeFields : List String := ["@ingestionTime", "@timestamp"]

/-- A time in milliseconds as it is shown; any other text stays as it is. -/
def shownTime (value : String) : String :=
  match (int64? value).bind showInstant? with
  | some shown => s!"{shown} (local)"
  | none => value

/-- A JSON array or object as it is shown, with the keys in order; any other text stays as it
is. -/
def shownJson (value : String) : String :=
  match Json.read value with
  | .ok (.array items) => (Json.array items).canonical.prettyText
  | .ok (.object members) => (Json.object members).canonical.prettyText
  | _ => value

def shownValue (field value : String) : String :=
  if timeFields.contains field then shownTime value else shownJson value

/-- The fields of a record in the order in which they are shown, with their values as shown. -/
def recordFields (record : LogRecord) : List (String × String) :=
  (record.map fun (field, value) => (field, shownValue field value)).mergeSort
    fun a b => lowercase a.1 ≤ lowercase b.1

/-- The lines of a field: its name and the first line of its value, then the other lines of the
value below the first. -/
def fieldLines (width : Nat) (field value : String) : List String :=
  let shown := lines value
  (pad width field ++ spaces 2 ++ shown.head?.getD "") ::
    shown.tail.map fun rest => spaces (width + 2) ++ rest

/-- A record as text, each line with its line feed. -/
def recordText (record : LogRecord) : String :=
  let fields := recordFields record
  let width := (fields.map fun (field, _) => field.length).foldl max 0
  String.join
    ((fields.flatMap fun (field, value) => fieldLines width field value).map (· ++ "\n"))

end LogQuery.Display
