import LogQuery.Json.Value
import LogQuery.Text.Numeral
import LogQuery.Text.Quoted

/-!
Shapes. A shape says what a JSON value has to look like: which members an object has, of which
shapes they are, and so on. A value of a shape has one standard form: records are objects with
all members in order, where optional ones may be `null`, and real numbers are written with a
point.

`Shape.conform` brings a value into the standard form, or says what is wrong with it. A record
may also be given as an array of its members in order; members of an object that are not in the
shape do not count.
-/

namespace LogQuery.Json

open Text

/-- What a JSON value has to look like. -/
inductive Shape where
  | string
  | bool
  | int32
  | int64
  /-- An unsigned integer of 64 bits. -/
  | word
  | real
  | optional (inner : Shape)
  | list (item : Shape)
  | pair (first second : Shape)
  /-- An object with named members. The title is used in messages. -/
  | record (title : String) (fields : List (String × Shape))
  | choice (names : List String)

/-- A value as it is named in messages. -/
def described : Json → String
  | null => "null"
  | bool b => s!"boolean `{b}`"
  | integer n => s!"integer `{n}`"
  | number x => s!"floating point `{numberText x}`"
  | string s => s!"string {quoted s}"
  | array _ => "sequence"
  | object _ => "map"

/-- A message about a value of the wrong kind. -/
def wrongType (value : Json) (expected : String) : String :=
  s!"invalid type: {value.described}, expected {expected}"

/-- A message about a value of the right kind that is not allowed. -/
def wrongValue (value : Json) (expected : String) : String :=
  s!"invalid value: {value.described}, expected {expected}"

def elements (n : Nat) : String :=
  if n = 1 then "1 element" else s!"{n} elements"

def missingField (key : String) : String :=
  s!"missing field `{key}`"

def duplicateField (key : String) : String :=
  s!"duplicate field `{key}`"

/-- The names that are allowed, as a message lists them. -/
def oneOf (names : List String) : String :=
  match names.map fun name => s!"`{name}`" with
  | [] => "there are no variants"
  | [a] => s!"expected {a}"
  | [a, b] => s!"expected {a} or {b}"
  | shown => "expected one of " ++ ", ".intercalate shown

def unknownName (name : String) (names : List String) : String :=
  s!"unknown variant `{name}`, {oneOf names}"

namespace Shape

/-- Whether a member of the shape may be missing. -/
def isOptional : Shape → Bool
  | optional _ => true
  | _ => false

/-- An integer that has to lie in a range. -/
def integerIn (expected : String) (fits : Int → Bool) : Json → Except String Json
  | .integer n =>
    if fits n then .ok (.integer n) else .error (wrongValue (.integer n) expected)
  | value => .error (wrongType value expected)

/-- Whether an integer fits 64 bits without a sign. -/
def fitsUnsigned (n : Int) : Bool :=
  0 ≤ n && fitsWord n.toNat

def realOf : Json → Except String Json
  | .integer n => .ok (.number (Float.ofInt n))
  | .number x => .ok (.number x)
  | value => .error (wrongType value "f64")

/-- The title of a record of shape `record` in a message about the number of its members. -/
def withCount (title : String) (count : Nat) : String :=
  s!"{title} with {elements count}"

/-- A message about a list that ends too early. -/
def tooShort (length : Nat) (expected : String) : String :=
  s!"invalid length {length}, expected {expected}"

/-- A message about an array with more items than were asked for. -/
def tooLong (length asked : Nat) : String :=
  s!"invalid length {length}, expected {elements asked} in sequence"

/-- The members of a record in order, from those that were found. -/
def complete (found : List (String × Json)) :
    List (String × Shape) → Except String (List (String × Json))
  | [] => .ok []
  | (key, shape) :: fields => do
    let value ← match found.lookup key with
      | some value => .ok value
      | none => if shape.isOptional then .ok .null else .error (missingField key)
    return (key, value) :: (← complete found fields)

/-- The members of an object that belong to a record, each brought into its form by `forms`.
`found` are those before them. -/
def gather (forms : List (String × (Json → Except String Json))) (found : List (String × Json)) :
    List (String × Json) → Except String (List (String × Json))
  | [] => .ok found
  | (key, value) :: members =>
    match forms.lookup key with
    | none => gather forms found members
    | some form =>
      if (found.lookup key).isSome then .error (duplicateField key)
      else do gather forms (found ++ [(key, ← form value)]) members

/-- The items of an array as the members of a record; `count` are done. -/
def inOrder (expected : String) (count : Nat) :
    List (String × (Json → Except String Json)) → List Json → Except String (List (String × Json))
  | [], [] => .ok []
  | [], items => .error (tooLong (count + items.length) count)
  | _ :: _, [] => .error (tooShort count expected)
  | (key, form) :: forms, item :: items => do
    let value ← form item
    return (key, value) :: (← inOrder expected (count + 1) forms items)

/-- The name of a choice, which may also be the key of the only member of an object. -/
def chosen (names : List String) : Json → Except String Json
  | .string name =>
    if names.contains name then .ok (.string name) else .error (unknownName name names)
  | .object [(name, value)] =>
    if !names.contains name then .error (unknownName name names)
    else match value with
      | .null | .object [] => .ok (.string name)
      | value => .error (wrongType value "unit")
  | .object members => .error (wrongValue (.object members) "map with a single key")
  | value => .error (wrongType value "string or map")

mutual

/-- Brings a value into the standard form of the shape. -/
def conform : Shape → Json → Except String Json
  | string => fun
    | .string s => .ok (.string s)
    | value => .error (wrongType value "a string")
  | bool => fun
    | .bool b => .ok (.bool b)
    | value => .error (wrongType value "a boolean")
  | int32 => integerIn "i32" fitsInt32
  | int64 => integerIn "i64" fitsInt64
  | word => integerIn "usize" fitsUnsigned
  | real => realOf
  | optional inner => fun
    | .null => .ok .null
    | value => conform inner value
  | list item => fun
    | .array items => do return .array (← items.mapM (conform item))
    | value => .error (wrongType value "a sequence")
  | pair first second => fun
    | .array [] => .error (tooShort 0 "a tuple of size 2")
    | .array [a] => do
      let _ ← conform first a
      .error (tooShort 1 "a tuple of size 2")
    | .array (a :: b :: rest) => do
      let a ← conform first a
      let b ← conform second b
      if rest.isEmpty then return .array [a, b] else .error (tooLong (rest.length + 2) 2)
    | value => .error (wrongType value "a tuple of size 2")
  | record title fields =>
    let forms := conformEach fields
    fun
    | .array items => do
      return .object (← inOrder (withCount title fields.length) 0 forms items)
    | .object members => do return .object (← complete (← gather forms [] members) fields)
    | value => .error (wrongType value title)
  | choice names => chosen names

/-- What brings each member of a record into its form. -/
def conformEach : List (String × Shape) → List (String × (Json → Except String Json))
  | [] => []
  | (key, shape) :: fields => (key, conform shape) :: conformEach fields

end

end Shape

end LogQuery.Json
