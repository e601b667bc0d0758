/-!
TOML values. Tables remember how they came about, because that decides what a document may still
add to them.
-/

namespace LogQuery.Toml

/-- How a table came about. -/
inductive TableKind where
  /-- A header names it; so does the document as a whole. -/
  | named
  /-- It lies on the way to a table that a header names. -/
  | passed
  /-- It lies on the way to a value that a dotted key names. -/
  | dotted
  | inline
deriving DecidableEq, Repr

/-- Whether the table has not been given a definition of its own. -/
def TableKind.isImplicit : TableKind → Bool
  | passed | dotted => true
  | named | inline => false

inductive Value where
  | text (s : String)
  | integer (n : Int)
  /-- A number with decimals or an exponent, an infinity or no number, as it is written. -/
  | real (written : String)
  | boolean (b : Bool)
  /-- A date, a time of day or both, as it is written. -/
  | time (written : String)
  | array (items : List Value)
  | table (kind : TableKind) (members : List (String × Value))
  /-- The tables of an array that is written by headers, each with its members. -/
  | tables (elements : List (List (String × Value)))

abbrev Members := List (String × Value)

end LogQuery.Toml
