import LogQuery.Text.Blank
import LogQuery.Text.Numeral

namespace LogQuery.Text

/-- A reader that takes characters off the front of a text and may fail. -/
abbrev Scan := StateT (List Char) Option

namespace Scan

def fail {α : Type} : Scan α :=
  fun _ => none

/-- The next character, which stays in place; nothing at the end. -/
def peek : Scan (Option Char) :=
  fun cs => some (cs.head?, cs)

def next : Scan Char := fun
  | [] => none
  | c :: cs => some (c, cs)

/-- Takes a character of which `accepts` holds. -/
def satisfying (accepts : Char → Bool) : Scan Char := fun
  | [] => none
  | c :: cs => if accepts c then some (c, cs) else none

/-- Takes the longest run of characters of which `accepts` holds. -/
def run (accepts : Char → Bool) : Scan (List Char) :=
  fun cs => some (cs.takeWhile accepts, cs.dropWhile accepts)

def char (c : Char) : Scan Unit := fun
  | [] => none
  | d :: cs => if d = c then some ((), cs) else none

/-- Takes the character `c` if it comes next, and says whether it did. -/
def optionalChar (c : Char) : Scan Bool := fun
  | [] => some (false, [])
  | d :: cs => if d = c then some (true, cs) else some (false, d :: cs)

def blanks : Scan Unit :=
  fun cs => some ((), stripStart cs)

/-- Skips blank characters, of which there must be one. -/
def someBlanks : Scan Unit := fun
  | [] => none
  | c :: cs => if isBlank c then some ((), stripStart cs) else none

/-- The run of digits at the front of a text, at most `limit` of them, and what follows it. -/
def splitDigits : (limit : Nat) → List Char → List Char × List Char
  | 0, cs => ([], cs)
  | _, [] => ([], [])
  | limit + 1, c :: cs =>
    if isDigit c then
      let (digits, rest) := splitDigits limit cs
      (c :: digits, rest)
    else ([], c :: cs)

def digits (least most : Nat) : Scan (List Char) := fun cs =>
  let (taken, rest) := splitDigits most cs
  if least ≤ taken.length then some (taken, rest) else none

/-- Takes all digits that come next, at least `least`. -/
def allDigits (least : Nat) : Scan (List Char) := fun cs =>
  digits least cs.length cs

/-- The number written with at least `least` and at most `most` digits. -/
def number (least most : Nat) : Scan Nat := do
  return value (← digits least most)

def twoDigits (most : Nat) : Scan Nat := do
  let n ← number 2 2
  if n ≤ most then return n else fail

/-- The values of a scan that is repeated until it fails, `limit` times at most. -/
def upTo {α : Type} (scan : Scan α) : (limit : Nat) → Scan (List α)
  | 0, cs => some ([], cs)
  | limit + 1, cs =>
    match scan cs with
    | none => some ([], cs)
    | some (a, rest) => (upTo scan limit rest).map fun (found, rest) => (a :: found, rest)

/-- The values of a scan that is repeated until it fails. Each time it has to take something. -/
def many {α : Type} (scan : Scan α) : Scan (List α) :=
  fun cs => upTo scan cs.length cs

/-- The values of a scan that is repeated with `separator` in between, once at least. -/
def separated {α : Type} (separator : Char) (scan : Scan α) : Scan (List α) := do
  let first ← scan
  let others ← many (do char separator; scan)
  return first :: others

def taken {α : Type} (scan : Scan α) : Scan (List Char) := fun cs =>
  (scan cs).map fun (_, rest) => (cs.take (cs.length - rest.length), rest)

/-- The value of a scan that takes the whole text. -/
def complete? {α : Type} (scan : Scan α) (s : List Char) : Option α :=
  match scan s with
  | some (a, []) => some a
  | _ => none

end Scan

end LogQuery.Text
