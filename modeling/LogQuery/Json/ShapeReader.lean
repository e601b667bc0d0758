import LogQuery.Json.Reader
import LogQuery.Json.Shape

namespace LogQuery.Json.Reader

open Text

/-! ### Skipping -/

/-- Skips an escape, from behind the backslash. -/
def skipEscape : Reader Unit := do
  let c ← next .endInString
  match shortEscape? c with
  | some _ => return ()
  | none => if c = 'u' then discard hexEscape else failHere .invalidEscape

/-- Skips the characters of a string up to its closing quote, at most `limit` of them. -/
def skipStringFrom : (limit : Nat) → Reader Unit
  | 0 => failHere .endInString
  | limit + 1 => do
    let c ← next .endInString
    if c = '"' then return ()
    else if c = '\\' then do skipEscape; skipStringFrom limit
    else if c.toNat < 0x20 then failHere .controlCharacter
    else skipStringFrom limit

/-- Skips a string, from behind its opening quote. -/
def skipString : Reader Unit :=
  fun cs => skipStringFrom (cs.length + 1) cs

def skipDigits : Reader Unit := do
  match ← peek with
  | some c => if isDigit c then discard digits else failAtNext .invalidNumber
  | none => failAtNext .endInValue

def skipExponent : Reader Unit := do
  match ← peek with
  | some 'e' | some 'E' =>
    skip
    match ← peek with
    | some '+' | some '-' => skip
    | _ => pure ()
    skipDigits
  | _ => return ()

/-- Skips a number, of whatever size. -/
def skipNumber : Reader Unit := do
  match ← peek with
  | some '-' => skip
  | _ => pure ()
  match ← peek with
  | some '0' =>
    skip
    match ← peek with
    | some c => if isDigit c then failAtNext .invalidNumber
    | none => pure ()
  | _ => skipDigits
  match ← peek with
  | some '.' => do skip; skipDigits
  | _ => pure ()
  skipExponent

/-- Skips a value that nests to a depth below `limit`. -/
def skipValueFrom : (limit : Nat) → Reader Unit
  | 0 => failAtNext .endInValue
  | limit + 1 => do
    match ← peekToken with
    | none => failAtNext .endInValue
    | some c =>
      if c = 'n' then word "null".toList
      else if c = 't' then word "true".toList
      else if c = 'f' then word "false".toList
      else if c = '"' then do skip; skipString
      else if c = '[' then discard (array (skipValueFrom limit))
      else if c = '\x7b' then discard (object fun _ => skipValueFrom limit)
      else if c = '-' || isDigit c then skipNumber
      else failAtNext .expectedValue

def skipValue : Reader Unit :=
  fun cs => skipValueFrom (cs.length + 1) cs

/-! ### Values of a shape -/

/-- Reads a value of the wrong kind, as far as a message about it needs. -/
def mismatch {α : Type} (expected : String) : Reader α := do
  let fail {α : Type} (value : Json) : Reader α := failData (wrongType value expected)
  match ← peekToken with
  | none => failAtNext .endInValue
  | some c =>
    if c = 'n' then do word "null".toList; fail .null
    else if c = 't' then do word "true".toList; fail (.bool true)
    else if c = 'f' then do word "false".toList; fail (.bool false)
    else if c = '"' then do skip; fail (.string (← stringTail))
    else if c = '[' then fail (.array [])
    else if c = '\x7b' then fail (.object [])
    else if c = '-' || isDigit c then
      match ← numeral with
      | .integer n => fail (.integer n)
      | .real x => fail (.number x)
    else failAtNext .expectedValue

/-- A value that is checked once it is there. -/
def checked {α : Type} : Except String α → Reader α
  | .ok a => pure a
  | .error message => failData message

def numberOf (expected : String) (form : Json → Except String Json) : Reader Json := do
  match ← peekToken with
  | some c =>
    if c = '-' || isDigit c then
      match ← numeral with
      | .integer n => checked (form (.integer n))
      | .real x => checked (form (.number x))
    else mismatch expected
  | none => mismatch expected

def stringOf (expected : String) : Reader String := do
  match ← peekToken with
  | some '"' => do skip; stringTail
  | _ => mismatch expected

/-- `true` or `false`. -/
def boolOf : Reader Json := do
  match ← peekToken with
  | some 't' => do word "true".toList; return .bool true
  | some 'f' => do word "false".toList; return .bool false
  | _ => mismatch "a boolean"

/-- The members of a record in an array; `count` are done. -/
def inOrder (expected : String) : (count : Nat) → List (String × Reader Json) →
    Reader (List (String × Json))
  | _, [] => return []
  | count, (key, reader) :: readers => do
    if ← beforeItem (count == 0) then
      let value ← reader
      return (key, value) :: (← inOrder expected (count + 1) readers)
    else failData (Shape.tooShort count expected)

/-- The members of a record in an object, at most `limit` of them; `found` are those before. -/
def gather (readers : List (String × Reader Json)) :
    (limit : Nat) → (found : List (String × Json)) → (first : Bool) →
      Reader (List (String × Json))
  | 0, _, _ => failHere .endInObject
  | limit + 1, found, first => do
    if ← beforeKey first then
      let name ← key
      match readers.lookup name with
      | none =>
        colon
        skipValue
        gather readers limit found false
      | some reader =>
        if (found.lookup name).isSome then failData (duplicateField name)
        colon
        let value ← reader
        gather readers limit (found ++ [(name, value)]) false
    else return found

def nameOf (names : List String) : Reader String := do
  let name ← stringOf "variant identifier"
  if names.contains name then return name else failData (unknownName name names)

/-- The name of a choice, which may also be the key of an object. -/
def chosen (names : List String) : Reader Json := do
  match ← peekToken with
  | some '"' => return .string (← nameOf names)
  | some '\x7b' =>
    skip
    let name ← nameOf names
    colon
    match ← peekToken with
    | some 'n' => word "null".toList
    | _ => mismatch "unit"
    match ← peekToken with
    | some '\x7d' => do skip; return .string name
    | some _ => failHere .expectedValue
    | none => failAtNext .endInObject
  | some _ => failAtNext .expectedValue
  | none => failAtNext .endInValue

mutual

/-- A value of a shape, in the standard form of the shape. -/
def shaped : Shape → Reader Json
  | .string => do return .string (← stringOf "a string")
  | .bool => boolOf
  | .int32 => numberOf "i32" (Shape.integerIn "i32" fitsInt32)
  | .int64 => numberOf "i64" (Shape.integerIn "i64" fitsInt64)
  | .word => numberOf "usize" (Shape.integerIn "usize" Shape.fitsUnsigned)
  | .real => numberOf "f64" Shape.realOf
  | .optional inner => do
    match ← peekToken with
    | some 'n' => do word "null".toList; return .null
    | _ => shaped inner
  | .list item => do
    match ← peekToken with
    | some '[' => return .array (← array (shaped item))
    | _ => mismatch "a sequence"
  | .pair first second => do
    match ← peekToken with
    | some '[' =>
      skip
      let members ← inOrder "a tuple of size 2" 0 [("first", shaped first),
        ("second", shaped second)]
      closeArray
      return .array (members.map Prod.snd)
    | _ => mismatch "a tuple of size 2"
  | .record title fields => do
    let readers := shapedEach fields
    match ← peekToken with
    | some '[' =>
      skip
      let members ← inOrder (Shape.withCount title fields.length) 0 readers
      closeArray
      return .object members
    | some '\x7b' =>
      skip
      let found ← fun cs => gather readers (cs.length + 1) [] true cs
      let members ← checked (Shape.complete found fields)
      closeObject
      return .object members
    | _ => mismatch title
  | .choice names => chosen names

def shapedEach : List (String × Shape) → List (String × Reader Json)
  | [] => []
  | (key, shape) :: fields => (key, shaped shape) :: shapedEach fields

end

end LogQuery.Json.Reader

namespace LogQuery.Json

/-- The value of a shape that a text stands for, in the standard form of the shape. -/
def readShaped (shape : Shape) (text : String) : Except Fault Json :=
  Reader.readAll (Reader.shaped shape) text

end LogQuery.Json
