import LogQuery.Calendar.Layout

namespace LogQuery.Calendar

open Text

/-- A moment by a clock that is `offset` seconds ahead of universal time. -/
structure ZonedMoment where
  moment : Moment
  offset : Int

namespace ZonedMoment

/-- The milliseconds from 1970-01-01 00:00:00 universal time. -/
def millis (z : ZonedMoment) : Int :=
  z.moment.millis - z.offset * 1000

/-- Whether the date exists, the offset is less than a day, and the instant lies in a year for
which dates are computed, by this clock and in universal time. -/
def Supported (z : ZonedMoment) : Prop :=
  z.moment.date.Supported ∧ z.offset.natAbs < 86400 ∧
    showable
      (Moment.millis { z.moment with second := min z.moment.second 59 } - z.offset * 1000) = true

instance (z : ZonedMoment) : Decidable z.Supported :=
  inferInstanceAs (Decidable (_ ∧ _ ∧ _))

end ZonedMoment

/-- The sign of an offset; a true minus sign counts only where it is allowed. -/
def offsetSign (minusSign : Bool) : Scan Int := do
  let c ← Scan.next
  if c = '+' then return 1
  else if c = '-' || (minusSign && c.toNat == 0x2212) then return -1
  else Scan.fail

/-- A signed offset of hours and minutes, in seconds; a colon between them is required or
absent. -/
def signedOffset (colon minusSign : Bool) : Scan Int := do
  let sign ← offsetSign minusSign
  let hours ← Scan.number 2 2
  if colon then Scan.char ':'
  let minutes ← Scan.twoDigits 59
  return sign * ((hours * 60 + minutes) * 60 : Nat)

/-- A date, a `T` or a space, a time of day and an offset, all fields at full width. `Z` is the
offset zero. -/
def internetTimestamp : Scan ZonedMoment := do
  let year ← Scan.number 4 4
  Scan.char '-'
  let month ← Scan.twoDigits 12
  Scan.char '-'
  let day ← Scan.twoDigits 31
  let separator ← Scan.next
  unless separator = 'T' || separator = 't' || separator = ' ' do Scan.fail
  let hour ← Scan.twoDigits 23
  Scan.char ':'
  let minute ← Scan.twoDigits 59
  Scan.char ':'
  let second ← Scan.twoDigits 60
  let nanosecond ← LayoutItem.readFraction
  let offset ← zone
  return { moment := { date := ⟨year, month, day⟩, hour, minute, second, nanosecond }, offset }
where
  zone : Scan Int := do
    match ← Scan.peek with
    | some 'Z' | some 'z' => Scan.next *> pure 0
    | _ =>
      let offset ← signedOffset true true
      if offset.natAbs ≤ (23 * 60 + 59) * 60 then return offset else Scan.fail

/-- Lower case of the ASCII letters. -/
def asciiLower (cs : List Char) : List Char :=
  cs.map Char.toLower

def monthNames : List String :=
  ["jan", "feb", "mar", "apr", "may", "jun", "jul", "aug", "sep", "oct", "nov", "dec"]

def weekdayNames : List String :=
  ["mon", "tue", "wed", "thu", "fri", "sat", "sun"]

/-- The position in a list of three-letter names of the one that comes next. -/
def name? (names : List String) : Scan (Option Nat) := fun cs =>
  match names.idxOf? (String.ofList (asciiLower (cs.take 3))) with
  | some i => some (some i, cs.drop 3)
  | none => some (none, cs)

/-- The offset in hours of a named zone. A single letter other than `j` is a zone without a known
offset, which is taken as zero. -/
def zoneHours? (name : List Char) : Option Int :=
  match String.ofList (asciiLower name) with
  | "gmt" | "ut" => some 0
  | "edt" => some (-4)
  | "est" | "cdt" => some (-5)
  | "cst" | "mdt" => some (-6)
  | "mst" | "pdt" => some (-7)
  | "pst" => some (-8)
  | "j" => none
  | letters => if letters.length = 1 then some 0 else none

/-- The zone of a mail date: a name, or a sign and four digits. -/
def mailZone : Scan Int := fun cs =>
  match cs.span Char.isAlpha with
  | ([], _) => signedOffset false false cs
  | (name, rest) => (zoneHours? name).map fun hours => (hours * 3600, rest)

/-- What follows the comment at the front of the text, with `depth` parentheses open. A backslash
takes the special meaning from the character behind it. -/
def afterComment : (depth : Nat) → List Char → Option (List Char)
  | _, [] => none
  | 0, '(' :: cs => afterComment 1 cs
  | 0, _ :: _ => none
  | depth + 1, '\\' :: _ :: cs => afterComment (depth + 1) cs
  | depth + 1, '(' :: cs => afterComment (depth + 2) cs
  | 1, ')' :: cs => some cs
  | depth + 2, ')' :: cs => afterComment (depth + 1) cs
  | depth + 1, _ :: cs => afterComment (depth + 1) cs

/-- Skips comments in parentheses and the blanks before them, at most `limit` of them. -/
def skipComments : (limit : Nat) → List Char → List Char
  | 0, cs => cs
  | limit + 1, cs =>
    match afterComment 0 (stripStart cs) with
    | some rest => skipComments limit rest
    | none => cs

/-- The year that digits in a mail date mean: two digits below 50 lie in this century, other two
and all three digits count from 1900. -/
def mailYear (digits : List Char) : Int :=
  let year := value digits
  if digits.length = 2 then (if year < 50 then year + 2000 else year + 1900 : Nat)
  else if digits.length = 3 then (year + 1900 : Nat)
  else year

/-- The date of a mail header. The day of the week may be left out, but must be right if given. -/
def mailTimestamp : Scan ZonedMoment := do
  Scan.blanks
  let weekday ← name? weekdayNames
  if weekday.isSome then Scan.char ','
  Scan.blanks
  let day ← Scan.number 1 2
  Scan.someBlanks
  let some month ← name? monthNames | Scan.fail
  Scan.someBlanks
  let year := mailYear (← Scan.allDigits 2)
  Scan.someBlanks
  let hour ← Scan.twoDigits 23
  Scan.blanks
  Scan.char ':'
  Scan.blanks
  let minute ← Scan.twoDigits 59
  let second ← seconds
  Scan.someBlanks
  let offset ← mailZone
  fun cs => some ((), skipComments cs.length cs)
  let date : Date := ⟨year, month + 1, day⟩
  unless weekday.all (· == date.weekday) do Scan.fail
  return { moment := { date, hour, minute, second }, offset }
where
  /-- A colon and the seconds, if a colon comes next. -/
  seconds : Scan Nat := fun cs =>
    match stripStart cs with
    | ':' :: rest => Scan.twoDigits 60 rest
    | _ => some (0, cs)

/-- The instant that a timestamp with an offset names. -/
def zonedInstant? (form : Scan ZonedMoment) (s : List Char) : Option Int :=
  ((Scan.complete? form s).filter fun z => z.Supported).map ZonedMoment.millis

/-- The layouts without an offset, in the order in which they are tried. -/
def universalLayouts : List Layout :=
  [Layout.date ++ [.literal 'T'] ++ Layout.time ++ [.fraction],
   Layout.date ++ [.space] ++ Layout.time ++ [.fraction],
   Layout.date ++ [.literal 'T'] ++ Layout.hourMinute,
   Layout.date ++ [.space] ++ Layout.hourMinute,
   Layout.date]

/-- The instant, in milliseconds since 1970-01-01 00:00:00 universal time, that a timestamp
names. -/
def instant? (s : List Char) : Option Int :=
  zonedInstant? internetTimestamp s
    <|> zonedInstant? mailTimestamp s
    <|> universalLayouts.findSome? fun layout => (layout.read? s).map Moment.millis

end LogQuery.Calendar
