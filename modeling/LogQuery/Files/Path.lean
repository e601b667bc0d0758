import LogQuery.Text.Lines

namespace LogQuery.Files

open Text

namespace Path

def join (folder name : String) : String :=
  if name.startsWith "/" then name
  else if folder.isEmpty || folder.endsWith "/" then folder ++ name
  else folder ++ "/" ++ name

/-- The path of the folder that a path leads through last, if it has more than one part. -/
def parent? (path : String) : Option String :=
  let name := path.toList.reverse.dropWhile (· == '/')
  let folder := String.ofList (name.dropWhile (· != '/')).reverse
  if folder.isEmpty then none else some folder

/-- The parts of a path that lead somewhere: empty ones and points stand for the place itself. -/
def steps (path : String) : List String :=
  (splitOn '/' path).filter fun part => !(part.isEmpty || part == ".")

/-- The name of what a path leads to; nothing for a path that leads nowhere or upwards. -/
def name? (path : String) : Option String :=
  (steps path).getLast?.filter (· != "..")

end Path

end LogQuery.Files
