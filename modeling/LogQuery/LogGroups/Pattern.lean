import LogQuery.LogGroups.Expression
import LogQuery.Text.Case

namespace LogQuery.LogGroups

open Text

/-- The segments of a pattern, without blanks around them. Blank ones do not count. -/
def segments (pattern : String) : List String :=
  ((splitOn ',' pattern).map trim).filter fun segment => !segment.isEmpty

/-- Whether a pattern has to be compared with the names of log groups. -/
def hasWildcard (pattern : String) : Bool :=
  pattern.toList.contains wildcard

/-!
A segment is turned into an expression, and names are compared with the parts of that. Which
suffixes of a name they match is computed for all suffixes at once, longest first, so that the
effort grows with the product of the lengths. Letters are compared after case folding.
-/

def partsOf (segment : String) : List Expression.Part :=
  (Expression.read? (Expression.ofSegment segment.toList)).get
    (Option.isSome_of_mem (Expression.read?_ofSegment segment.toList))

/-- Given which suffixes of a name the further parts match, those that they match after any run of
characters without a line feed. -/
def afterRun : List Char → List Bool → List Bool
  | c :: cs, here :: rows =>
    let rest := afterRun cs rows
    (here || (c != '\n' && rest.headD false)) :: rest
  | _, rows => rows

/-- Given which suffixes of a name the further parts match, those that they match after the
letter `p`. -/
def afterLetter (p : Char) : List Char → List Bool → List Bool
  | c :: cs, _ :: rows => (p == c && rows.headD false) :: afterLetter p cs rows
  | _, _ => [false]

/-- Which suffixes of a name with folded letters the parts of an expression match, longest
first. -/
def matchedSuffixes (name : List Char) : (parts : List Expression.Part) → List Bool
  | [] => name.map (fun _ => false) ++ [true]
  | .run :: parts => afterRun name (matchedSuffixes name parts)
  | .letter p :: parts => afterLetter (foldCase p) name (matchedSuffixes name parts)

def folded (s : String) : List Char :=
  s.toList.map foldCase

def segmentMatches (segment name : String) : Bool :=
  (matchedSuffixes (folded name) (partsOf segment)).headD false

def matchSegment (catalog : List String) (segment : String) : List String :=
  catalog.filter (segmentMatches segment)

/-- The names of a catalog that some segment matches, in the order of the segments, each name
once. -/
def matchCatalog (segments catalog : List String) : List String :=
  distinct (segments.flatMap (matchSegment catalog))

end LogQuery.LogGroups
