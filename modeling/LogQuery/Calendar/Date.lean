namespace LogQuery.Calendar

/-- A calendar date. Month and day count from one. -/
structure Date where
  year : Int
  month : Nat
  day : Nat
deriving DecidableEq, Repr

def isLeapYear (year : Int) : Bool :=
  year % 4 == 0 && (year % 100 != 0 || year % 400 == 0)

def daysInMonth (year : Int) (month : Nat) : Nat :=
  match month with
  | 1 | 3 | 5 | 7 | 8 | 10 | 12 => 31
  | 4 | 6 | 9 | 11 => 30
  | 2 => if isLeapYear year then 29 else 28
  | _ => 0

def daysBeforeMonth (year : Int) : Nat → Nat
  | 0 => 0
  | 1 => 0
  | month + 2 => daysBeforeMonth year (month + 1) + daysInMonth year (month + 1)

def daysBeforeYear (year : Int) : Int :=
  365 * (year - 1) + (year - 1) / 4 - (year - 1) / 100 + (year - 1) / 400

/-- The number of days from 0001-01-01 to 1970-01-01. -/
def epochDays : Int := 719162

namespace Date

/-- Whether the month exists and has the day. -/
def Valid (d : Date) : Prop :=
  1 ≤ d.day ∧ d.day ≤ daysInMonth d.year d.month

instance (d : Date) : Decidable d.Valid :=
  inferInstanceAs (Decidable (_ ∧ _))

/-- The days from 1970-01-01 to the date, negative before it. -/
def dayNumber (d : Date) : Int :=
  daysBeforeYear d.year + daysBeforeMonth d.year d.month + d.day - 1 - epochDays

/-- The month, counted up from `month`, and the day in it of the day `offset` days after the first
of `month`. At most `fuel` months are tried. -/
def monthAndDay (year : Int) : (fuel month offset : Nat) → Nat × Nat
  | 0, month, offset => (month, offset + 1)
  | fuel + 1, month, offset =>
    if offset < daysInMonth year month then (month, offset + 1)
    else monthAndDay year fuel (month + 1) (offset - daysInMonth year month)

/-- The date with the given day number. The days since 0001-01-01 are divided into whole cycles
of 400 years, centuries, cycles of four years and years; the last day of a leap year that ends a
cycle would start a further century or year, hence the bounds by three. -/
def ofDayNumber (n : Int) : Date :=
  let days := n + epochDays
  let inCycle := days % 146097
  let centuries := min 3 (inCycle / 36524)
  let inCentury := inCycle - centuries * 36524
  let fours := inCentury / 1461
  let inFour := inCentury - fours * 1461
  let years := min 3 (inFour / 365)
  let year := days / 146097 * 400 + centuries * 100 + fours * 4 + years + 1
  let (month, day) := monthAndDay year 11 1 (inFour - years * 365).toNat
  { year, month, day }

/-- The day of the week, `0` for Monday. -/
def weekday (d : Date) : Nat :=
  ((d.dayNumber + 3) % 7).toNat

end Date

/-- The years for which dates are computed. -/
def yearInRange (year : Int) : Bool :=
  -262143 ≤ year && year ≤ 262142

end LogQuery.Calendar
