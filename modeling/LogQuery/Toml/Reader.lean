import LogQuery.Calendar.Date
import LogQuery.Text.Scan
import LogQuery.Toml.Document

/-!
Reading TOML text. `read?` gives the members of the document that a text stands for, or nothing
if the text is no document.
-/

namespace LogQuery.Toml

open Text

namespace Reader

open Scan

/-! ### Spaces, line ends and comments -/

/-- A character that may stand in comments and between quotes: no control character but the
tab. -/
def isPrintable (c : Char) : Bool :=
  c == '\t' || (' ' ≤ c && c != '\x7f')

def isSpace (c : Char) : Bool :=
  c == ' ' || c == '\t'

def spaces : Scan Unit := do
  let _ ← run isSpace

def newline : Scan Unit := fun
  | '\n' :: cs => some ((), cs)
  | '\r' :: '\n' :: cs => some ((), cs)
  | _ => none

/-- A comment up to the end of its line. -/
def comment : Scan Unit := do
  char '#'
  let _ ← run isPrintable

def lineEnd : Scan Unit := fun
  | [] => some ((), [])
  | cs => newline cs

/-- What may stand behind a statement on its line. -/
def restOfLine : Scan Unit := do
  spaces
  let _ ← optional comment
  lineEnd

/-- What may stand between the parts of an array: spaces, line ends and comments. -/
def gap : Scan Unit := do
  let someSpace : Scan Unit := do let _ ← satisfying isSpace
  let _ ← many (someSpace <|> newline <|> (do comment; newline))

/-! ### Texts -/

def isHexDigit (c : Char) : Bool :=
  isDigit c || ('a' ≤ c && c ≤ 'f') || ('A' ≤ c && c ≤ 'F')

/-- The value of a digit, where the letters follow the nine. -/
def digitValue (c : Char) : Nat :=
  if isDigit c then c.toNat - '0'.toNat
  else if 'a' ≤ c then c.toNat - 'a'.toNat + 10
  else c.toNat - 'A'.toNat + 10

/-- The number that digits stand for in a base. -/
def valueIn (base : Nat) (digits : List Char) : Nat :=
  digits.foldl (fun n c => n * base + digitValue c) 0

/-- The character of a number written with so many hexadecimal digits. -/
def codePoint (width : Nat) : Scan Char := do
  let digits ← upTo (satisfying isHexDigit) width
  let n := valueIn 16 digits
  if digits.length = width ∧ n.isValidChar then return Char.ofNat n else fail

/-- The character of an escape, from before its backslash. -/
def escape : Scan Char := do
  char '\\'
  match ← next with
  | 'b' => return '\x08'
  | 't' => return '\t'
  | 'n' => return '\n'
  | 'f' => return '\x0c'
  | 'r' => return '\r'
  | '"' => return '"'
  | '\\' => return '\\'
  | 'u' => codePoint 4
  | 'U' => codePoint 8
  | _ => fail

def basicChar : Scan Char :=
  satisfying (fun c => isPrintable c && c != '"' && c != '\\') <|> escape

def literalChar : Scan Char :=
  satisfying fun c => isPrintable c && c != '\''

def shortText (quote : Char) (inner : Scan Char) : Scan String := do
  char quote
  let cs ← many inner
  char quote
  return String.ofList cs

/-- A text between double quotes, with escapes. -/
def basicText : Scan String :=
  shortText '"' basicChar

/-- A text between single quotes, without escapes. -/
def literalText : Scan String :=
  shortText '\'' literalChar

def tripleQuote (quote : Char) : Scan Unit := do
  char quote
  char quote
  char quote

/-- One or two quotes inside a text over several lines. -/
def innerQuotes (quote : Char) : Scan (List Char) := fun cs =>
  let quotes := cs.takeWhile (· == quote)
  if quotes.length = 1 ∨ quotes.length = 2 then some (quotes, cs.drop quotes.length) else none

/-- The end of a text over several lines. Of up to five quotes the last three end it. -/
def closingQuotes (quote : Char) : Scan (List Char) := fun cs =>
  let count := (cs.takeWhile (· == quote)).length
  if count < 3 then none
  else
    let kept := min (count - 3) 2
    some (cs.take kept, cs.drop (kept + 3))

/-- A line end that is left out, and all blanks behind it. -/
def foldedLine : Scan Unit := do
  char '\\'
  spaces
  newline
  let someSpace : Scan Unit := do let _ ← satisfying isSpace
  let _ ← many (someSpace <|> newline)

/-- A text over several lines. A line end right behind the opening quotes does not count. -/
def longText (quote : Char) (inner : Scan (List Char)) : Scan String := do
  tripleQuote quote
  let _ ← optional newline
  let lineFeed : Scan (List Char) := do newline; return ['\n']
  let parts ← many (inner <|> lineFeed <|> innerQuotes quote)
  let last ← closingQuotes quote
  return String.ofList (parts.flatten ++ last)

/-- A part of a text over several lines between double quotes. -/
def basicPart : Scan (List Char) :=
  (do foldedLine; return []) <|> (do return [← basicChar])

/-- A part of a text over several lines between single quotes. -/
def literalPart : Scan (List Char) := do
  return [← literalChar]

def text : Scan String :=
  longText '"' basicPart <|> basicText <|> longText '\'' literalPart <|> literalText

/-! ### Numbers -/

/-- Digits, between two of which an underscore may stand. -/
def digitRun (accepts : Char → Bool) : Scan (List Char) := do
  let first ← satisfying accepts
  let others ← many (satisfying accepts <|> (do char '_'; satisfying accepts))
  return first :: others

def sign : Scan Bool := fun
  | '-' :: cs => some (true, cs)
  | '+' :: cs => some (false, cs)
  | cs => some (false, cs)

/-- The digits of a whole number. A zero at the front stands alone. -/
def wholeDigits : Scan (List Char) :=
  (do char '0'; return ['0']) <|> digitRun isDigit

def decimal : Scan Int := do
  let negative ← sign
  let n : Int := value (← wholeDigits)
  return if negative then -n else n

/-- An integer in another base, behind a zero and a letter. -/
def based (letter : Char) (base : Nat) (accepts : Char → Bool) : Scan Int := do
  char '0'
  char letter
  return valueIn base (← digitRun accepts)

/-- An integer of 64 bits. -/
def integer : Scan Int := do
  let n ← based 'x' 16 isHexDigit <|> based 'o' 8 (fun c => '0' ≤ c && c ≤ '7') <|>
    based 'b' 2 (fun c => c == '0' || c == '1') <|> decimal
  if fitsInt64 n then return n else fail

/-- The least number that is too large for a floating-point one. -/
def realBound : Nat := Nat.pow 2 1024 - Nat.pow 2 970

/-- Whether `digits * 10 ^ exponent` is too large for a floating-point number. -/
def tooLarge (digits : Nat) (exponent : Int) : Bool :=
  let magnitude : Int := (Nat.toDigits 10 digits).length + exponent
  if digits = 0 ∨ magnitude < 309 then false
  else if magnitude > 309 then true
  else realBound * Nat.pow 10 (-exponent).toNat ≤ digits * Nat.pow 10 exponent.toNat

def decimals : Scan (List Char) := do
  char '.'
  digitRun isDigit

def exponent : Scan Int := do
  char 'e' <|> char 'E'
  let negative ← sign
  let n : Int := value (← digitRun isDigit)
  return if negative then -n else n

/-- A number with decimals or an exponent. A positive one must not be too large. -/
def finiteReal : Scan Unit := do
  let negative ← sign
  let whole ← wholeDigits
  let fraction? ← optional decimals
  let power? ← optional exponent
  if fraction?.isNone && power?.isNone then fail
  let fraction := fraction?.getD []
  if !negative && tooLarge (value (whole ++ fraction)) (power?.getD 0 - fraction.length) then fail

def word (s : String) : Scan Unit :=
  s.toList.forM char

/-- An infinity or no number. -/
def specialReal : Scan Unit := do
  let _ ← sign
  word "inf" <|> word "nan"

/-! ### Dates and times -/

def date : Scan Unit := do
  let year ← number 4 4
  char '-'
  let month ← twoDigits 12
  char '-'
  let day ← twoDigits 31
  if (⟨year, month, day⟩ : Calendar.Date).Valid then return () else fail

/-- A time of day, which may have a leap second. -/
def timeOfDay : Scan Unit := do
  let _ ← twoDigits 23
  char ':'
  let _ ← twoDigits 59
  char ':'
  let _ ← twoDigits 60
  let _ ← optional (do char '.'; allDigits 1)

/-- The distance of a time zone from that of Greenwich. -/
def offset : Scan Unit :=
  char 'Z' <|> char 'z' <|> do
    char '+' <|> char '-'
    let _ ← twoDigits 23
    char ':'
    let _ ← twoDigits 59

/-- A date, a time of day or both. -/
def time : Scan Unit :=
  (do
    date
    let _ ← optional (do
      char 'T' <|> char 't' <|> char ' '
      timeOfDay
      optional offset)) <|>
  timeOfDay

/-! ### Values -/

/-- What a scan takes, as a text. -/
def written (scan : Scan Unit) : Scan String := do
  return String.ofList (← taken scan)

def scalar : Scan Value :=
  (.text <$> text) <|> (.time <$> written time) <|> (.real <$> written finiteReal) <|>
    (.integer <$> integer) <|> (.real <$> written specialReal) <|>
    (do word "true"; return .boolean true) <|> (do word "false"; return .boolean false)

/-- The items of an array. A comma may follow the last one. -/
def items (value : Scan Value) : Scan (List Value) := do
  let found ← separated ',' (do gap; let item ← value; gap; return item)
  let _ ← optionalChar ','
  return found

def array (value : Scan Value) : Scan Value := do
  char '['
  let found ← optional (items value)
  gap
  char ']'
  return .array (found.getD [])

def isBare (c : Char) : Bool :=
  isDigit c || ('a' ≤ c && c ≤ 'z') || ('A' ≤ c && c ≤ 'Z') || c == '_' || c == '-'

def bareKey : Scan String := do
  let first ← satisfying isBare
  let others ← run isBare
  return String.ofList (first :: others)

/-- The number of parts that a key has, and of values that lie inside each other, at most. -/
def depthLimit : Nat := 79

/-- A key of one or more parts with points in between. -/
def key : Scan (List String) := do
  let parts ← separated '.' do
    spaces
    let part ← basicText <|> literalText <|> bareKey
    spaces
    return part
  if parts.length ≤ depthLimit then return parts else fail

/-- A key and the value that it is given. -/
def assignment (value : Scan Value) : Scan (List String × Value) := do
  let path ← key
  char '='
  spaces
  return (path, ← value)

/-- A table between braces, on one line. -/
def inlineTable (value : Scan Value) : Scan Value := do
  char '\x7b'
  let found ← optional (separated ',' (do let a ← assignment value; spaces; return a))
  spaces
  char '\x7d'
  match Table.inline? (found.getD []) with
  | some table => return table
  | none => fail

def value : (depth : Nat) → Scan Value
  | 0 => scalar
  | depth + 1 => scalar <|> array (value depth) <|> inlineTable (value depth)

/-! ### Documents -/

/-- A header that opens a further table of an array. -/
def elementHeader : Scan Statement := do
  char '['
  char '['
  let path ← key
  char ']'
  char ']'
  restOfLine
  return .openElement path

def tableHeader : Scan Statement := do
  char '['
  let path ← key
  char ']'
  restOfLine
  return .openTable path

def statement : Scan Statement :=
  elementHeader <|> tableHeader <|> do
    let (path, value) ← assignment (value depthLimit)
    restOfLine
    return .assign path value

def emptyLine : Scan Unit :=
  newline <|> do
    comment
    lineEnd

/-- The statements of a document. A byte order mark may stand in front of them. -/
def statements : Scan (List Statement) := do
  let _ ← optionalChar '\uFEFF'
  spaces
  let nothing : Scan (Option Statement) := do emptyLine; return none
  let one : Scan (Option Statement) := do return some (← statement)
  let found ← many do
    let line ← nothing <|> one
    spaces
    return line
  return found.filterMap id

end Reader

/-- The members of the document that a text stands for. -/
def read? (text : String) : Option Members :=
  (Scan.complete? Reader.statements text.toList).bind Document.build?

end LogQuery.Toml
