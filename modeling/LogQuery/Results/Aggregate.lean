import LogQuery.Row
import LogQuery.Text.Lines

namespace LogQuery

open Text

/-- The rows that a region has at some moment. -/
structure Snapshot where
  region : String
  rows : List Row
deriving DecidableEq, Repr

structure Aggregate where
  rows : List Row
  /-- The shown fields of all rows, in the order of their first occurrence. -/
  fieldNames : List String
  /-- The regions in the order of their rows, with the number of their rows. -/
  regions : List (String × Nat)
deriving DecidableEq, Repr

namespace Aggregate

def ofSnapshots (snapshots : List Snapshot) : Aggregate :=
  let rows := snapshots.flatMap Snapshot.rows
  { rows
    fieldNames := distinct (rows.flatMap Row.shownFields)
    regions := snapshots.map fun snapshot => (snapshot.region, snapshot.rows.length) }

def rowCount (result : Aggregate) : Nat :=
  result.rows.length

/-- The region in which an index lies when the regions take up as many indexes as they have
rows. -/
def locate : List (String × Nat) → (index : Nat) → Option String
  | [], _ => none
  | (region, count) :: regions, index =>
    if index < count then some region else locate regions (index - count)

def regionOf (result : Aggregate) (index : Nat) : Option String :=
  locate result.regions index

end Aggregate

end LogQuery
