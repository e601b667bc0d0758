import LogQuery.Calendar.Layout
import LogQuery.Keyed
import LogQuery.Service.Exchange
import LogQuery.Text.Lines

namespace LogQuery

open Text Calendar

structure HistoryItem where
  body : String
  /-- When the query was last run, if that is known of any run. -/
  lastRun? : Option Int
deriving DecidableEq, Repr

namespace HistoryItem

/-- A query without the clause that names its log groups, which the service puts in front. -/
def withoutSource (body : String) : String :=
  if "SOURCE ".toList.isPrefixOf body.toList then
    match cutAtFirst ['|'] body.toList with
    | some (_, ' ' :: rest) => String.ofList rest
    | some (_, rest) => String.ofList rest
    | none => body
  else body

/-- The later of two times. A time that is not known is earlier than all others. -/
def later? : Option Int → Option Int → Option Int
  | some s, some t => some (max s t)
  | some s, none => some s
  | none, time? => time?

/-- The item of a query that was run once more. -/
def runAt (item : HistoryItem) (time? : Option Int) : HistoryItem where
  body := item.body
  lastRun? := later? item.lastRun? time?

/-- The queries of the first entries of a history. -/
structure Grouping where
  /-- One item for each query, in the order of their first entries. -/
  items : List HistoryItem
  /-- The place of each query among the items. -/
  places : List (String × Nat)

namespace Grouping

def empty : Grouping where
  items := []
  places := []

/-- The queries once another entry has been looked at. -/
def add (grouping : Grouping) (entry : HistoryEntry) : Grouping :=
  let body := withoutSource entry.body
  match grouping.places.lookup body with
  | some place =>
    { grouping with
      items := grouping.items.modify place fun item => item.runAt entry.createTime? }
  | none =>
    { items := grouping.items ++ [⟨body, entry.createTime?⟩]
      places := Keyed.put body grouping.items.length grouping.places }

end Grouping

/-- Whether an item is listed before another or may be: newer ones come first, undated ones
last. -/
def precedes (a b : HistoryItem) : Bool :=
  match a.lastRun?, b.lastRun? with
  | some s, some t => t ≤ s
  | none, some _ => false
  | _, none => true

/-- The items of a history. Those of one time keep the order of their first entries. -/
def ofEntries (entries : List HistoryEntry) : List HistoryItem :=
  (entries.foldl Grouping.add .empty).items.mergeSort precedes

/-- An item as it is shown: its time, its text and a blank line. -/
def text (item : HistoryItem) : String :=
  let time := (item.lastRun?.bind showInstant?).getD "unknown time"
  s!"{time}\n{trim item.body}\n\n"

def document (items : List HistoryItem) : String :=
  s!"Query History ({items.length})\n\n" ++ String.join (items.map text)

end HistoryItem

end LogQuery
