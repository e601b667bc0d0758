import LogQuery.Text.Scan

namespace LogQuery.Calendar

open Text

inductive TimeUnit where
  | nanosecond | microsecond | millisecond | second | minute | hour | day | week | month | year
deriving DecidableEq, Repr

/-- A length of time in whole seconds and nanoseconds. -/
structure Span where
  seconds : Nat
  nanoseconds : Nat
deriving DecidableEq, Repr

/-- A number that fits 64 bits, if it does. -/
def asWord? (n : Nat) : Option Nat :=
  if fitsWord n then some n else none

namespace TimeUnit

/-- The unit that a word names. Upper and lower case differ: `m` is a minute and `M` a month. -/
def ofName? : String → Option TimeUnit
  | "nanos" | "nsec" | "ns" => some nanosecond
  | "usec" | "us" | "µs" => some microsecond
  | "millis" | "msec" | "ms" => some millisecond
  | "seconds" | "second" | "secs" | "sec" | "s" => some second
  | "minutes" | "minute" | "min" | "mins" | "m" => some minute
  | "hours" | "hour" | "hr" | "hrs" | "h" => some hour
  | "days" | "day" | "d" => some day
  | "weeks" | "week" | "wk" | "wks" | "w" => some week
  | "months" | "month" | "M" => some month
  | "years" | "year" | "yr" | "yrs" | "y" => some year
  | _ => none

/-- The length of a unit below a second in nanoseconds, and of any other in seconds. -/
def size : TimeUnit → Nat
  | nanosecond => 1
  | microsecond => 1000
  | millisecond => 1000000
  | second => 1
  | minute => 60
  | hour => 3600
  | day => 86400
  | week => 604800
  | month => 2630016
  | year => 31557600

def belowSecond : TimeUnit → Bool
  | nanosecond | microsecond | millisecond => true
  | _ => false

def times (unit : TimeUnit) (n : Nat) : Option Span := do
  let product ← asWord? (n * unit.size)
  return if unit.belowSecond then ⟨0, product⟩ else ⟨product, 0⟩

/-- A fraction of a unit. It has to come out whole, in nanoseconds for units up to a minute and in
seconds for longer ones; a nanosecond has no fractions. -/
def fraction (unit : TimeUnit) (numerator denominator : Nat) : Option Span := do
  let inNanoseconds := unit.belowSecond || unit = second || unit = minute
  if unit = nanosecond then none
  let size := if inNanoseconds && !unit.belowSecond then unit.size * 1000000000 else unit.size
  let product ← asWord? (numerator * size)
  if product % denominator = 0 then
    return if inNanoseconds then ⟨0, product / denominator⟩ else ⟨product / denominator, 0⟩
  else none

end TimeUnit

def Span.add (a b : Span) : Option Span := do
  let nanoseconds ← asWord? (a.nanoseconds + b.nanoseconds)
  let seconds ← asWord? (a.seconds + (b.seconds + nanoseconds / 1000000000))
  return ⟨seconds, nanoseconds % 1000000000⟩

def Span.millis (s : Span) : Nat :=
  s.seconds * 1000 + s.nanoseconds / 1000000

namespace Duration

/-- The digits at the front of a text, with any blank characters among and behind them, and what
follows. -/
def spacedDigits : List Char → List Char × List Char
  | [] => ([], [])
  | c :: cs =>
    if isDigit c then
      let (digits, rest) := spacedDigits cs
      (c :: digits, rest)
    else if isBlank c then spacedDigits cs
    else ([], c :: cs)

def isUnitLetter (c : Char) : Bool :=
  c.isAlpha || c == 'µ'

/-- The fraction that decimals stand for: numerator and denominator. -/
def decimals? (digits : List Char) : Option (Nat × Nat) := do
  if digits.isEmpty then none
  let denominator ← asWord? (Nat.pow 10 digits.length)
  return (← asWord? (value digits), denominator)

/-- The decimals that come next after a point, as a fraction, and what follows. -/
def pointAndDecimals? : List Char → Option (Option (Nat × Nat) × List Char)
  | '.' :: cs => do
    let (digits, rest) := spacedDigits cs
    return (some (← decimals? digits), rest)
  | cs => some (none, cs)

/-- Adds one number with its unit to `sum`; gives what follows as well. -/
def addPart? (sum : Span) (cs : List Char) : Option (Span × List Char) := do
  let (digits, rest) := spacedDigits cs
  if digits.isEmpty then none
  let whole ← asWord? (value digits)
  let (decimals, rest) ← pointAndDecimals? rest
  let unit ← TimeUnit.ofName? (String.ofList (rest.takeWhile isUnitLetter))
  let sum ← sum.add (← unit.times whole)
  let sum ← match decimals with
    | some (numerator, denominator) => do sum.add (← unit.fraction numerator denominator)
    | none => some sum
  return (sum, rest.dropWhile isUnitLetter)

/-- The sum of `sum` and the parts of a text, of which there are at most `limit`. -/
def addParts? : (limit : Nat) → Span → List Char → Option Span
  | 0, _, _ => none
  | limit + 1, sum, cs => do
    let (sum, rest) ← addPart? sum cs
    if rest.all isBlank then return sum else addParts? limit sum rest

/-- The length of time that a text stands for. A lone zero needs no unit. -/
def span? (cs : List Char) : Option Span :=
  if cs = ['0'] then some ⟨0, 0⟩ else addParts? (cs.length + 1) ⟨0, 0⟩ cs

/-- The whole milliseconds that a text stands for, if they fit 64 bits with a sign. -/
def millis? (cs : List Char) : Option Nat :=
  ((span? cs).map Span.millis).filter fun n => fitsInt64 n

end Duration

end LogQuery.Calendar
