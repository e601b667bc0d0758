import LogQuery.Calendar.Date
import LogQuery.Text.Scan

namespace LogQuery.Calendar

open Text

/-- A date and a time of day. A second of 60 is a leap second, one second after 59. -/
structure Moment where
  date : Date := ⟨1970, 1, 1⟩
  hour : Nat := 0
  minute : Nat := 0
  second : Nat := 0
  nanosecond : Nat := 0
deriving DecidableEq, Repr

def dayMillis : Int := 86400000

def Moment.millis (m : Moment) : Int :=
  m.date.dayNumber * dayMillis
    + (((m.hour * 60 + m.minute) * 60 + m.second) * 1000 + m.nanosecond / 1000000 : Nat)

/-- The moment, to the second, at which `ms` milliseconds have passed since 1970-01-01
00:00:00. -/
def Moment.ofMillis (ms : Int) : Moment :=
  let seconds := (ms % dayMillis).toNat / 1000
  { date := Date.ofDayNumber (ms / dayMillis)
    hour := seconds / 3600
    minute := seconds / 60 % 60
    second := seconds % 60 }

inductive LayoutItem where
  | year | month | day | hour | minute | second
  /-- A point and decimals of the second, left out if there are none. -/
  | fraction
  | literal (c : Char)
  /-- A space, read as any blank characters or none. -/
  | space
deriving DecidableEq, Repr

abbrev Layout := List LayoutItem

namespace LayoutItem

/-- A year of four digits, or with a sign if it has other than four. -/
def yearText (year : Int) : String :=
  if 0 ≤ year ∧ year ≤ 9999 then padDigits 4 year.toNat
  else if year < 0 then "-" ++ padDigits 4 year.natAbs
  else "+" ++ padDigits 4 year.toNat

def write (m : Moment) : LayoutItem → String
  | year => yearText m.date.year
  | month => padDigits 2 m.date.month
  | day => padDigits 2 m.date.day
  | hour => padDigits 2 m.hour
  | minute => padDigits 2 m.minute
  | second => padDigits 2 m.second
  | fraction => if m.nanosecond = 0 then "" else "." ++ padDigits 9 m.nanosecond
  | literal c => String.ofList [c]
  | space => " "

/-- A year: any number of digits after a sign, at most four without. -/
def readYear : Scan Int := do
  Scan.blanks
  if ← Scan.optionalChar '-' then
    return -(value (← Scan.allDigits 1) : Int)
  else if ← Scan.optionalChar '+' then
    return value (← Scan.allDigits 1)
  else
    return (← Scan.number 1 4)

/-- One or two digits that stand for a number between two bounds. -/
def readBounded (least most : Nat) : Scan Nat := do
  Scan.blanks
  let n ← Scan.number 1 2
  if least ≤ n ∧ n ≤ most then return n else Scan.fail

/-- The nanoseconds of a run of decimals; those past the ninth are dropped. -/
def nanosecondsOf (decimals : List Char) : Nat :=
  let kept := decimals.take 9
  value kept * Nat.pow 10 (9 - kept.length)

/-- Decimals of a second after a point, if a point comes next. -/
def readFraction : Scan Nat := do
  if ← Scan.optionalChar '.' then
    return nanosecondsOf (← Scan.allDigits 1)
  else
    return 0

def read (m : Moment) : LayoutItem → Scan Moment
  | year => do return { m with date.year := ← readYear }
  | month => do return { m with date.month := ← readBounded 1 12 }
  | day => do return { m with date.day := ← readBounded 1 31 }
  | hour => do return { m with hour := ← readBounded 0 23 }
  | minute => do return { m with minute := ← readBounded 0 59 }
  | second => do return { m with second := ← readBounded 0 60 }
  | fraction => do return { m with nanosecond := ← readFraction }
  | literal c => do Scan.char c; return m
  | space => do Scan.blanks; return m

end LayoutItem

/-- Whether the date exists and its year is one for which dates are computed. -/
def Date.Supported (d : Date) : Prop :=
  d.Valid ∧ yearInRange d.year = true

instance (d : Date) : Decidable d.Supported :=
  inferInstanceAs (Decidable (_ ∧ _))

namespace Layout

def write (layout : Layout) (m : Moment) : String :=
  String.join (layout.map (LayoutItem.write m))

/-- The moment that a whole text gives in a layout. -/
def read? (layout : Layout) (s : List Char) : Option Moment :=
  (Scan.complete? (layout.foldlM LayoutItem.read {}) s).filter fun m => m.date.Supported

/-- `2023-01-31` -/
def date : Layout :=
  [.year, .literal '-', .month, .literal '-', .day]

/-- `23:59` -/
def hourMinute : Layout :=
  [.hour, .literal ':', .minute]

/-- `23:59:59` -/
def time : Layout :=
  hourMinute ++ [.literal ':', .second]

def shown : Layout :=
  date ++ [.space] ++ time

end Layout

/-- Whether an instant in milliseconds lies in a year for which dates are computed. -/
def showable (ms : Int) : Bool :=
  yearInRange (Moment.ofMillis ms).date.year

/-- An instant as it is shown, if its year is one for which dates are computed. -/
def showInstant? (ms : Int) : Option String :=
  if showable ms then some (Layout.shown.write (.ofMillis ms)) else none

end LogQuery.Calendar
