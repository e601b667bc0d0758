namespace LogQuery.Json

inductive FaultKind where
  | data (message : String)
  | endInList | endInObject | endInString | endInValue
  | expectedColon | expectedListCommaOrEnd | expectedObjectCommaOrEnd
  | expectedIdent | expectedValue | invalidEscape | invalidNumber | numberOutOfRange
  | controlCharacter | keyMustBeString | loneSurrogate | trailingComma | trailingCharacters
  | endOfHexEscape | tooDeep
deriving DecidableEq, Repr

inductive FaultClass where
  /-- The text is JSON, but not of a value that was asked for. -/
  | data
  /-- The text ends too early. -/
  | eof
  | malformed
deriving DecidableEq, Repr

namespace FaultKind

def message : FaultKind → String
  | data message => message
  | endInList => "EOF while parsing a list"
  | endInObject => "EOF while parsing an object"
  | endInString => "EOF while parsing a string"
  | endInValue => "EOF while parsing a value"
  | expectedColon => "expected `:`"
  | expectedListCommaOrEnd => "expected `,` or `]`"
  | expectedObjectCommaOrEnd => "expected `,` or `\x7d`"
  | expectedIdent => "expected ident"
  | expectedValue => "expected value"
  | invalidEscape => "invalid escape"
  | invalidNumber => "invalid number"
  | numberOutOfRange => "number out of range"
  | controlCharacter => "control character (\\u0000-\\u001F) found while parsing a string"
  | keyMustBeString => "key must be a string"
  | loneSurrogate => "lone leading surrogate in hex escape"
  | trailingComma => "trailing comma"
  | trailingCharacters => "trailing characters"
  | endOfHexEscape => "unexpected end of hex escape"
  | tooDeep => "recursion limit exceeded"

def classOf : FaultKind → FaultClass
  | data _ => .data
  | endInList | endInObject | endInString | endInValue => .eof
  | _ => .malformed

end FaultKind

/-- A fault and how many bytes of the text were left where it showed, if that is known yet. -/
structure Fault where
  kind : FaultKind
  bytesLeft? : Option Nat
deriving DecidableEq, Repr

/-- The number of bytes that characters take in UTF-8. -/
def byteCount (cs : List Char) : Nat :=
  (cs.map Char.utf8Size).foldr (· + ·) 0

/-- The line, from one, and the byte in it, from zero, after `bytes` bytes of a text. -/
def lineAndColumn (line column : Nat) : (bytes : Nat) → List Char → Nat × Nat
  | 0, _ => (line, column)
  | bytes, [] => (line, column + bytes)
  | bytes, c :: cs =>
    if bytes < c.utf8Size then (line, column + bytes)
    else if c = '\n' then lineAndColumn (line + 1) 0 (bytes - 1) cs
    else lineAndColumn line (column + c.utf8Size) (bytes - c.utf8Size) cs

def Fault.messageAt (fault : Fault) (text : List Char) : String :=
  match fault.bytesLeft? with
  | none => fault.kind.message
  | some left =>
    let (line, column) := lineAndColumn 1 0 (byteCount text - left) text
    s!"{fault.kind.message} at line {line} column {column}"

end LogQuery.Json
