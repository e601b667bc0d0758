namespace LogQuery

structure Cell where
  field : String
  value : String
deriving DecidableEq, Repr

/-- A result row, its cells in the order in which they arrived. -/
abbrev Row := List Cell

/-- The field that points to the full log record of a row. -/
def pointerField : String := "@ptr"

namespace Row

/-- The row that gives the names to the values in turn. Names or values left over are dropped. -/
def ofValues (names values : List String) : Row :=
  List.zipWith Cell.mk names values

/-- The value of the first cell of a name. -/
def get? (row : Row) (field : String) : Option String :=
  (row.find? fun cell => cell.field == field).map Cell.value

def pointer? (row : Row) : Option String :=
  row.get? pointerField

/-- The names of the cells that are shown as columns. -/
def shownFields (row : Row) : List String :=
  (row.map Cell.field).filter fun field => field != pointerField

end Row

end LogQuery
