import LogQuery.Text.Lines

namespace LogQuery.Block

open Text

/-- The runs of lines that are not blank. -/
def runs : List String → List (List String)
  | [] => []
  | line :: rest =>
    if blank line then runs rest
    else match rest, runs rest with
      | next :: _, run :: more =>
          if blank next then [line] :: run :: more else (line :: run) :: more
      | _, more => [line] :: more

def ofText (text : String) : List String :=
  (runs (lines text)).map unlines

/-- The line numbered `line`, with the lines above it back to the nearest blank one and the lines
below it down to the next blank one. Lines count from zero, and a number past the end means the
last line. -/
def around (ls : List String) (line : Nat) : List String :=
  let line := min line (ls.length - 1)
  let above := ((ls.take line).reverse.takeWhile fun l => !blank l).reverse
  let below := (ls.drop (line + 1)).takeWhile fun l => !blank l
  match ls[line]? with
  | none => []
  | some here => if blank here then [] else above ++ here :: below

/-- The block that holds a line of a text; nothing on a blank line. -/
def focused (text : String) (line : Nat) : String :=
  trim (unlines (around (lines text) line))

end LogQuery.Block
