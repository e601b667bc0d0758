import LogQuery.Row
import LogQuery.Text.Lines
import LogQuery.Text.Case

/-!
The columns that a query declares. A query is a chain of clauses joined by `|`; the clauses
`fields a, b as c` and `display x` name columns, some under an alias. The last `display` clause
decides what is shown, else the first `fields` clause, else the time and the message are shown.
-/

namespace LogQuery

open Text

/-- A column as it is declared: the field it shows and perhaps another name to show it under. -/
structure ColumnEntry where
  field : String
  alias? : Option String
deriving DecidableEq, Repr

def ColumnEntry.shownName (entry : ColumnEntry) : String :=
  entry.alias?.getD entry.field

/-- The kinds of clauses that declare columns. -/
inductive ColumnKeyword where
  | fields
  | display
deriving DecidableEq, Repr

/-- Where the shown columns of a query come from. -/
inductive ColumnSource where
  | display
  | fields
  /-- No clause declares columns. -/
  | default
deriving DecidableEq, Repr

/-- The columns that a query shows, and which field each alias stands for. Of two aliases of one
name the later one comes first. -/
structure Columns where
  names : List String
  aliases : List (String × String)
  source : ColumnSource
deriving DecidableEq, Repr

namespace ColumnEntry

/-- Cuts a list at the commas that stand outside parentheses, where `depth` are open. -/
def cutAtCommas : (depth : Nat) → List Char → List (List Char)
  | _, [] => [[]]
  | depth, c :: cs =>
    let deeper := if c = '(' then depth + 1 else if c = ')' then depth - 1 else depth
    match cutAtCommas deeper cs with
    | [] => [[c]]
    | piece :: pieces =>
      if c = ',' ∧ depth = 0 then [] :: piece :: pieces else (c :: piece) :: pieces

/-- The last word of a text and what stands before it. -/
def splitLastWord (cs : List Char) : List Char × List Char :=
  let reversed := cs.reverse
  ((reversed.dropWhile fun c => !isBlank c).reverse,
    (reversed.takeWhile fun c => !isBlank c).reverse)

/-- Whether a word reads `as`, in any letter case. -/
def isAs (word : List Char) : Bool :=
  match word with
  | [a, s] => sameLetter a 'a' && sameLetter s 's'
  | _ => false

/-- An entry of a column list, without blanks around it. `field as alias` gives an alias: the last
word is one if `as` stands before it and something before that. -/
def read (cs : List Char) : ColumnEntry :=
  let (front, name) := splitLastWord cs
  let (field, word) := splitLastWord (stripEnd front)
  if isAs word && !(strip field).isEmpty then
    { field := String.ofList (strip field), alias? := some (String.ofList name) }
  else
    { field := String.ofList cs, alias? := none }

/-- The entries of a column list. Blank ones do not count. -/
def readList (cs : List Char) : List ColumnEntry :=
  (((cutAtCommas 0 cs).map strip).filter fun piece => !piece.isEmpty).map read

end ColumnEntry

namespace Columns

/-- The keyword and the entries of a clause, if it declares columns. The keyword ends at a
blank. -/
def readClause (clause : List Char) : Option (ColumnKeyword × List ColumnEntry) :=
  let clause := strip clause
  let word := clause.takeWhile fun c => !isBlank c
  let rest := clause.dropWhile fun c => !isBlank c
  if rest.isEmpty then none
  else match String.ofList (lowercaseFrom [] word) with
    | "fields" => some (.fields, ColumnEntry.readList (strip rest))
    | "display" => some (.display, ColumnEntry.readList (strip rest))
    | _ => none

def defaultNames : List String := ["@timestamp", "@message"]

/-- The aliases of some entries, later ones first. -/
def aliasesOf (entries : List ColumnEntry) : List (String × String) :=
  (entries.filterMap fun entry => entry.alias?.map fun name => (name, entry.field)).reverse

def addClause (columns : Columns) (clause : ColumnKeyword × List ColumnEntry) : Columns :=
  let (keyword, entries) := clause
  let names := entries.map ColumnEntry.shownName
  let aliases := aliasesOf entries ++ columns.aliases
  match keyword, columns.source with
  | .display, _ => { names, aliases, source := .display }
  | .fields, .default => { names, aliases, source := .fields }
  | .fields, _ => { columns with aliases }

def ofQuery (query : String) : Columns :=
  ((cut '|' query.toList).filterMap readClause).foldl addClause
    { names := defaultNames, aliases := [], source := .default }

def fieldOf (columns : Columns) (name : String) : String :=
  (columns.aliases.lookup name).getD name

/-- The columns of a result with the given fields: those that are declared first, as declared, and
then the others. -/
def order (columns : Columns) (observed : List String) : List String :=
  let declared := columns.names.filter observed.contains
  declared ++ distinct (observed.filter fun name => !declared.contains name)

/-- Rows that arrived as bare values, with the declared columns for names. -/
def nameRows (columns : Columns) (rows : List (List String)) : List Row :=
  rows.map (Row.ofValues columns.names)

end Columns

end LogQuery
