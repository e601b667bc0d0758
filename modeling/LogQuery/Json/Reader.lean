import LogQuery.Json.Fault
import LogQuery.Json.Value
import LogQuery.Text.Numeral

/-!
Reading JSON text from left to right. A reader takes characters off the front of a text and gives
a value or a fault. Values nest to a depth below 128. Integers keep their value if they fit 64
bits; every other number is a floating-point one, and one too large for that is a fault.
-/

namespace LogQuery.Json

open Text

abbrev Reader := StateT (List Char) (Except Fault)

namespace Reader

/-- A fault that shows before the next character. -/
def failHere {α : Type} (kind : FaultKind) : Reader α :=
  fun cs => .error ⟨kind, some (byteCount cs)⟩

/-- A fault that the next character shows. -/
def failAtNext {α : Type} (kind : FaultKind) : Reader α :=
  fun cs => .error ⟨kind, some (byteCount cs - 1)⟩

/-- A value of the wrong shape, which shows where the text has been read to. -/
def failData {α : Type} (message : String) : Reader α :=
  failHere (.data message)

/-- The next character, which stays in place. -/
def peek : Reader (Option Char) :=
  fun cs => .ok (cs.head?, cs)

def skip : Reader Unit :=
  fun cs => .ok ((), cs.tail)

def next (atEnd : FaultKind) : Reader Char := fun
  | [] => failHere atEnd []
  | c :: cs => .ok (c, cs)

def isSpace (c : Char) : Bool :=
  c == ' ' || c == '\n' || c == '\t' || c == '\r'

/-- Skips white space and gives the next character, which stays in place. -/
def peekToken : Reader (Option Char) := fun cs =>
  let rest := cs.dropWhile isSpace
  .ok (rest.head?, rest)

def word : List Char → Reader Unit
  | [] => pure ()
  | expected :: more => do
    let c ← next .endInValue
    if c = expected then word more else failHere .expectedIdent

/-! ### Strings -/

def hexValue? (c : Char) : Option Nat :=
  if '0' ≤ c ∧ c ≤ '9' then some (c.toNat - 48)
  else if 'a' ≤ c ∧ c ≤ 'f' then some (c.toNat - 87)
  else if 'A' ≤ c ∧ c ≤ 'F' then some (c.toNat - 55)
  else none

def fourHex? : List Char → Option Nat
  | [a, b, c, d] => do
    return (((← hexValue? a) * 16 + (← hexValue? b)) * 16 + (← hexValue? c)) * 16 +
      (← hexValue? d)
  | _ => none

def hexEscape : Reader Nat := fun cs =>
  match fourHex? (cs.take 4) with
  | some n => .ok (n, cs.drop 4)
  | none =>
    if byteCount cs < 4 then .error ⟨.endInString, some 0⟩
    else .error ⟨.invalidEscape, some (byteCount cs - 4)⟩

def continueEscape (c : Char) : Reader Unit := fun
  | [] => failHere .endInString []
  | d :: cs => if d = c then .ok ((), cs) else failHere .endOfHexEscape cs

/-- The character of an escape by number. One outside the basic plane takes two escapes, a leading
and a trailing surrogate. -/
def unicodeEscape : Reader Char := do
  let n ← hexEscape
  if 0xDC00 ≤ n ∧ n ≤ 0xDFFF then failHere .loneSurrogate
  else if n < 0xD800 ∨ 0xDBFF < n then return Char.ofNat n
  else
    continueEscape '\\'
    continueEscape 'u'
    let trailing ← hexEscape
    if 0xDC00 ≤ trailing ∧ trailing ≤ 0xDFFF then
      return Char.ofNat ((n - 0xD800) * 0x400 + (trailing - 0xDC00) + 0x10000)
    else failHere .loneSurrogate

/-- The character that stands for itself or another behind a backslash. -/
def shortEscape? (c : Char) : Option Char :=
  match c with
  | '"' => some '"'
  | '\\' => some '\\'
  | '/' => some '/'
  | 'b' => some '\x08'
  | 'f' => some '\x0c'
  | 'n' => some '\n'
  | 'r' => some '\r'
  | 't' => some '\t'
  | _ => none

/-- The character of an escape, from behind the backslash. -/
def escape : Reader Char := do
  let c ← next .endInString
  match shortEscape? c with
  | some d => return d
  | none => if c = 'u' then unicodeEscape else failHere .invalidEscape

/-- The characters of a string up to its closing quote, at most `limit` of them. -/
def stringFrom : (limit : Nat) → Reader (List Char)
  | 0 => failHere .endInString
  | limit + 1 => do
    let c ← next .endInString
    if c = '"' then return []
    else if c = '\\' then
      let d ← escape
      return d :: (← stringFrom limit)
    else if c.toNat < 0x20 then failHere .controlCharacter
    else return c :: (← stringFrom limit)

/-- A string, from behind its opening quote. -/
def stringTail : Reader String := fun cs =>
  ((stringFrom (cs.length + 1)).map String.ofList) cs

/-! ### Numbers -/

inductive Numeral where
  | integer (n : Int)
  | real (x : Float)

/-- The floating-point number `significand * 10 ^ exponent`, found by one multiplication or
division by a power of ten; a power too small for that is applied in two steps. -/
def floatOf? (significand : Nat) (exponent : Int) : Option Float :=
  let f := significand.toUInt64.toFloat
  let power (k : Nat) : Float := Float.ofScientific 1 false k
  if exponent ≥ 0 then
    if exponent ≤ 308 then
      let x := f * power exponent.toNat
      if x.isFinite then some x else none
    else if significand = 0 then some f else none
  else if exponent ≥ -308 then some (f / power exponent.natAbs)
  else if significand = 0 then some f
  else if exponent ≥ -616 then some (f / power 308 / power (exponent.natAbs - 308))
  else some 0

def digits : Reader (List Char) :=
  fun cs => .ok (cs.takeWhile isDigit, cs.dropWhile isDigit)

/-- The part of a significand that fits 64 bits and the number of digits taken for it, where
digits are added to `significand` as long as it fits. -/
def takeWord (significand : Nat) : List Char → Nat × Nat
  | [] => (significand, 0)
  | d :: ds =>
    let longer := significand * 10 + (digit? d).getD 0
    if fitsWord longer then
      let (result, taken) := takeWord longer ds
      (result, taken + 1)
    else (significand, 0)

def realOf (negative : Bool) (significand : Nat) (exponent : Int) : Reader Numeral :=
  match floatOf? significand exponent with
  | some x => return .real (if negative then -x else x)
  | none => failHere .numberOutOfRange

/-- The exponent of a number, if an `e` comes next, added to `exponent`; then the number. A power
so large that it fits no 32 bits gives a fault or zero. -/
def exponentPart (negative : Bool) (significand : Nat) (exponent : Int) : Reader Numeral := do
  match ← peek with
  | some 'e' | some 'E' =>
    skip
    let down ← match ← peek with
      | some '+' => do skip; pure false
      | some '-' => do skip; pure true
      | _ => pure false
    let first ← next .endInValue
    if !isDigit first then failHere .invalidNumber
    let cs ← digits
    let power := value (first :: cs)
    if power > 2147483647 then
      if significand ≠ 0 ∧ !down then failHere .numberOutOfRange
      else return .real (if negative then -0.0 else 0.0)
    else realOf negative significand (if down then exponent - power else exponent + power)
  | _ => realOf negative significand exponent

/-- The decimals of a number, from behind its point, and its exponent. -/
def decimalPart (negative : Bool) (significand : Nat) (exponent : Int) : Reader Numeral := do
  let cs ← digits
  if cs.isEmpty then
    match ← peek with
    | some _ => failAtNext .invalidNumber
    | none => failAtNext .endInValue
  let (significand, taken) := takeWord significand cs
  exponentPart negative significand (exponent - taken)

/-- A number from behind its sign. A zero at the front stands alone. -/
def numeralTail (negative : Bool) : Reader Numeral := do
  let first ← next .endInValue
  if !isDigit first then failHere .invalidNumber
  let cs ← digits
  if first = '0' && !cs.isEmpty then
    fun rest => .error ⟨.invalidNumber, some (byteCount cs + byteCount rest - 1)⟩
  let (significand, taken) := takeWord 0 (first :: cs)
  let dropped := cs.length + 1 - taken
  match ← peek with
  | some '.' => skip; decimalPart negative significand dropped
  | some 'e' | some 'E' => exponentPart negative significand dropped
  | _ =>
    if dropped > 0 then realOf negative significand dropped
    else if !negative then return .integer significand
    else if significand ≠ 0 ∧ fitsInt64 (-significand) then return .integer (-significand)
    else return .real (-significand.toUInt64.toFloat)

def numeral : Reader Numeral := do
  match ← peek with
  | some '-' => skip; numeralTail true
  | _ => numeralTail false

/-! ### Arrays, objects and values -/

/-- What stands before an item of an array: whether there is one, where `first` says that none has
been read. -/
def beforeItem (first : Bool) : Reader Bool := do
  match ← peekToken with
  | none => failAtNext .endInList
  | some ']' => return false
  | some ',' =>
    if first then return true
    skip
    match ← peekToken with
    | some ']' => failAtNext .trailingComma
    | some _ => return true
    | none => failAtNext .endInValue
  | some _ => if first then return true else failAtNext .expectedListCommaOrEnd

/-- What stands before the key of a member: whether there is one. -/
def beforeKey (first : Bool) : Reader Bool := do
  match ← peekToken with
  | none => failAtNext .endInObject
  | some '\x7d' => return false
  | some '"' => if first then return true else failAtNext .expectedObjectCommaOrEnd
  | some ',' =>
    if first then failAtNext .keyMustBeString
    skip
    match ← peekToken with
    | some '"' => return true
    | some '\x7d' => failAtNext .trailingComma
    | some _ => failAtNext .keyMustBeString
    | none => failAtNext .endInValue
  | some _ => if first then failAtNext .keyMustBeString else failAtNext .expectedObjectCommaOrEnd

/-- A key, from before its opening quote. -/
def key : Reader String := do
  skip
  stringTail

def colon : Reader Unit := do
  match ← peekToken with
  | some ':' => skip
  | some _ => failAtNext .expectedColon
  | none => failAtNext .endInObject

def closeArray : Reader Unit := do
  match ← peekToken with
  | some ']' => skip
  | some ',' =>
    skip
    match ← peekToken with
    | some ']' => failAtNext .trailingComma
    | _ => failAtNext .trailingCharacters
  | some _ => failAtNext .trailingCharacters
  | none => failAtNext .endInList

def closeObject : Reader Unit := do
  match ← peekToken with
  | some '\x7d' => skip
  | some ',' => failAtNext .trailingComma
  | some _ => failAtNext .trailingCharacters
  | none => failAtNext .endInObject

/-- The text that is left once an attempt to read `closing` has been made. -/
def afterClosing (closing : Char) (cs : List Char) : List Char :=
  let rest := cs.dropWhile isSpace
  if rest.head? = some closing then rest.tail else rest

/-- A value of the wrong shape, which shows behind the closing character. -/
def failBehind {α : Type} (closing : Char) (message : String) : Reader α := fun cs =>
  .error ⟨.data message, some (byteCount (afterClosing closing cs))⟩

/-- What is read between an opening and a closing character, from before the opening one. A fault
of shape is placed behind the closing character, if that comes next. -/
def enclosed {α : Type} (closing : Char) (close : Reader Unit)
    (inner : Reader (Except String α)) : Reader α := do
  skip
  match ← inner with
  | .ok value => do close; return value
  | .error message => failBehind closing message

/-- The items of an array up to the closing bracket, at most `limit` of them. -/
def itemsFrom {α : Type} (item : Reader α) : (limit : Nat) → (first : Bool) → Reader (List α)
  | 0, _ => failHere .endInList
  | limit + 1, first => do
    if ← beforeItem first then
      let a ← item
      return a :: (← itemsFrom item limit false)
    else return []

/-- The members of an object up to the closing brace, at most `limit` of them. The reader of a
value knows its key. -/
def membersFrom {α : Type} (member : String → Reader α) :
    (limit : Nat) → (first : Bool) → Reader (List (String × α))
  | 0, _ => failHere .endInObject
  | limit + 1, first => do
    if ← beforeKey first then
      let name ← key
      colon
      let a ← member name
      return (name, a) :: (← membersFrom member limit false)
    else return []

/-- An array, from before its opening bracket. -/
def array {α : Type} (item : Reader α) : Reader (List α) := fun cs =>
  (do
    skip
    let items ← itemsFrom item (cs.length + 1) true
    closeArray
    return items : Reader (List α)) cs

/-- An object, from before its opening brace. -/
def object {α : Type} (member : String → Reader α) : Reader (List (String × α)) := fun cs =>
  (do skip; let members ← membersFrom member (cs.length + 1) true; closeObject; return members :
    Reader (List (String × α))) cs

def value : (depth : Nat) → Reader Json
  | 0 => failAtNext .tooDeep
  | depth + 1 => do
    match ← peekToken with
    | none => failAtNext .endInValue
    | some c =>
      if c = 'n' then do word "null".toList; return .null
      else if c = 't' then do word "true".toList; return .bool true
      else if c = 'f' then do word "false".toList; return .bool false
      else if c = '"' then do skip; return .string (← stringTail)
      else if c = '[' then
        if depth = 0 then failAtNext .tooDeep else return .array (← array (value depth))
      else if c = '\x7b' then
        if depth = 0 then failAtNext .tooDeep else return .object (← object fun _ => value depth)
      else if c = '-' || isDigit c then
        match ← numeral with
        | .integer n => return .integer n
        | .real x => return .number x
      else failAtNext .expectedValue

/-- The depth to which values nest, at most. -/
def depthLimit : Nat := 128

/-- Nothing but white space up to the end of the text. -/
def atEnd : Reader Unit := do
  match ← peekToken with
  | none => return ()
  | some _ => failAtNext .trailingCharacters

def readAll {α : Type} (reader : Reader α) (text : String) : Except Fault α :=
  ((do let a ← reader; atEnd; return a : Reader α).run' text.toList)

end Reader

def read (text : String) : Except Fault Json :=
  Reader.readAll (Reader.value Reader.depthLimit) text

end LogQuery.Json
