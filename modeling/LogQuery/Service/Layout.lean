import LogQuery.Json.Access
import LogQuery.Text.Numeral

/-!
Layouts of the service's answers. A layout says of which kind the members of an answer are.
Members that are not in the layout do not count, and a member that is missing or `null` is
absent, whereas `null` cannot stand for an item of a list or for a value of a table.
-/

namespace LogQuery

open Text

inductive Part where
  | text
  | flag
  | int32
  | int64
  | real
  | list (item : Part)
  /-- An object with keys of all sorts. -/
  | table (value : Part)
  /-- An object with known keys. -/
  | structured (members : List (String × Part))

namespace Part

/-- The integer that a number stands for, if it is one and fits. -/
def wholeNumber? (fits : Int → Bool) : Json → Option Json
  | .integer n => if fits n then some (.integer n) else none
  | .number x =>
    let n := x.toInt64.toInt
    if Float.ofInt n == x && fits n then some (.integer n) else none
  | _ => none

/-- The number that a number or the name of an infinite one stands for. -/
def realNumber? : Json → Option Json
  | .integer n => some (.number (Float.ofInt n))
  | .number x => some (.number x)
  | .string "NaN" => some (.number (0 / 0))
  | .string "Infinity" => some (.number (1 / 0))
  | .string "-Infinity" => some (.number (-1 / 0))
  | _ => none

/-- The present members among those that are known, each by its reader; of several with one key
the last. -/
def readMembers (readers : List (String × (Json → Option Json))) (found : List (String × Json)) :
    List (String × Json) → Option (List (String × Json))
  | [] => some found
  | (key, value) :: members =>
    match readers.lookup key, value with
    | none, _ => readMembers readers found members
    | some _, .null => readMembers readers (found.filter fun entry => entry.1 != key) members
    | some read, value => do
      let value ← read value
      readMembers readers ((key, value) :: found.filter fun entry => entry.1 != key) members

mutual

/-- A part of an answer, reduced to what the layout knows. -/
def read : Part → (Json → Option Json)
  | text => fun
    | .string s => some (.string s)
    | _ => none
  | flag => fun
    | .bool b => some (.bool b)
    | _ => none
  | int32 => wholeNumber? fitsInt32
  | int64 => wholeNumber? fitsInt64
  | real => realNumber?
  | list item => fun
    | .array items => (items.mapM (read item)).map .array
    | _ => none
  | table value => fun
    | .object members =>
      (members.mapM fun member => (read value member.2).map fun v => (member.1, v)).map .object
    | _ => none
  | structured members =>
    let readers := readEach members
    fun
    | .object found => (readMembers readers [] found).map .object
    | _ => none

def readEach : List (String × Part) → List (String × (Json → Option Json))
  | [] => []
  | (key, part) :: members => (key, read part) :: readEach members

end

end Part

end LogQuery
