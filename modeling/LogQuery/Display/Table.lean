import LogQuery.Row
import LogQuery.Text.Lines

namespace LogQuery.Display

open Text

def spaces (count : Nat) : String :=
  String.ofList (List.replicate count ' ')

/-- A text with spaces behind it up to a width. -/
def pad (width : Nat) (s : String) : String :=
  s ++ spaces (width - s.length)

namespace Table

def delimiter : String := " | "

/-- The cells of a row in the given columns; a cell that the row lacks is empty. -/
def cells (columns : List String) (row : Row) : List String :=
  columns.map fun column => (row.get? column).getD ""

/-- The widths that lines of cells need, column by column. -/
def widths (header : List String) (lines : List (List String)) : List Nat :=
  lines.foldl (List.zipWith fun width cell => max width cell.length) (header.map String.length)

def line (widths : List Nat) (cells : List String) : String :=
  trimEnd (delimiter.intercalate (List.zipWith pad widths cells))

/-- The length of a line with nothing taken off its end. -/
def fullWidth (widths : List Nat) : Nat :=
  widths.foldr (· + ·) 0 + delimiter.length * (widths.length - 1)

/-- The table of the given columns. Other fields of the rows are not shown. -/
def render (columns : List String) (rows : List Row) : String :=
  let body := rows.map (cells columns)
  let widths := widths columns body
  unlines (line widths columns :: String.ofList (List.replicate (fullWidth widths) '-')
    :: body.map (line widths))

end Table

end LogQuery.Display
