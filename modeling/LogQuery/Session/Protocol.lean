import LogQuery.Execution.Stage

namespace LogQuery

inductive Command where
  | refresh (block : String)
  /-- Gives the view a title, which it keeps from then on. -/
  | changeTitle (title : String)
  /-- Asks for the record that a pointer of a row in a region stands for. -/
  | goToLog (pointer region : String)
  /-- Asks for the rows as a table of text. -/
  | openRaw
  | duplicate
  | close
deriving DecidableEq, Repr

inductive Message where
  | started (title environment : String) (timeRange : TimeRange)
      (logGroups : List RegionLogGroups) (source : String)
  /-- The rows so far, and whether their fields differ from those of the message before. -/
  | results (fieldNames : List String) (fieldsChanged : Bool) (rows : List Row) (rowCount : Nat)
  | finished (ending : Ending) (title : String) (rowCount : Nat) (statistics : Statistics)
  | title (title : String)
  | logRecord (fields : List (String × String))
  | rawTable (text : String)
  | error (message : String)

end LogQuery
