import LogQuery.Calendar.Timestamp
import LogQuery.Calendar.Duration
import LogQuery.Text.Lines
import LogQuery.QueryError

namespace LogQuery

open Text Calendar

/-- A range of time, both ends in milliseconds since 1970-01-01 00:00:00 universal time. -/
structure TimeRange where
  start : Int
  stop : Int
deriving DecidableEq, Repr

namespace TimeRange

inductive Problem where
  | missingStart
  | unreadableSide (side : String)
deriving DecidableEq, Repr

def Problem.reason : Problem → String
  | missingStart => "missing start of time range"
  | unreadableSide side => s!"'{side}' is neither a timestamp nor a duration"

def Problem.toQueryError (problem : Problem) : QueryError :=
  .invalidTimeRange problem.reason

/-- The first whole second of the range, since 1970-01-01. -/
def startSeconds (range : TimeRange) : Int :=
  range.start / 1000

def stopSeconds (range : TimeRange) : Int :=
  range.stop / 1000

/-- The instant that lies `millis` before now, or the earliest one of 64 bits. -/
def before (now : Int) (millis : Nat) : Int :=
  max int64Min (now - millis)

/-- The instant that one side of an expression means, seen from the instant `now`. -/
def resolveSide (now : Int) (side : List Char) : Except Problem Int :=
  let side := strip side
  if side.isEmpty then .error .missingStart
  else match instant? side with
    | some instant => .ok instant
    | none =>
      match Duration.millis? side with
      | some millis => .ok (before now millis)
      | none => .error (.unreadableSide (String.ofList side))

/-- The text before the arrow of an expression and the text after it, if it has one. -/
def sides (expression : List Char) : List Char × Option (List Char) :=
  match cutAtFirst ['-', '>'] expression with
  | some (start, stop) => (start, some stop)
  | none => (expression, none)

/-- The time range that an expression means, seen from the instant `now`. -/
def resolve (now : Int) (expression : String) : Except Problem TimeRange := do
  let (start, stop) := sides (strip expression.toList)
  let start ← resolveSide now start
  match stop.map strip with
  | none | some [] => return { start, stop := now }
  | some stop => return { start, stop := ← resolveSide now stop }

end TimeRange

end LogQuery
