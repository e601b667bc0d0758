import LogQuery.Calendar.Layout
import LogQuery.Proofs.Calendar.Days
import LogQuery.Proofs.Text.Digits

namespace LogQuery.Calendar

open Text

/-- Whether every field of the moment lies in the range that a layout can write. -/
structure Moment.InRange (m : Moment) : Prop where
  month : 1 ≤ m.date.month ∧ m.date.month ≤ 12
  day : 1 ≤ m.date.day ∧ m.date.day ≤ 31
  hour : m.hour ≤ 23
  minute : m.minute ≤ 59
  second : m.second ≤ 60
  nanosecond : m.nanosecond < 1000000000

theorem daysInMonth_le (year : Int) (month : Nat) : daysInMonth year month ≤ 31 := by
  unfold daysInMonth
  split <;> first | omega | (split <;> omega)

theorem Date.Valid.inRange {d : Date} (valid : d.Valid) :
    (1 ≤ d.month ∧ d.month ≤ 12) ∧ 1 ≤ d.day ∧ d.day ≤ 31 :=
  ⟨month_of_daysInMonth_pos (Nat.lt_of_lt_of_le valid.1 valid.2), valid.1,
    Nat.le_trans valid.2 (daysInMonth_le _ _)⟩

theorem yearText_of_four {year : Int} (four : 0 ≤ year ∧ year ≤ 9999) :
    LayoutItem.yearText year = padDigits 4 year.toNat :=
  if_pos four

theorem yearText_of_neg {year : Int} (neg : year < 0) :
    (LayoutItem.yearText year).toList = '-' :: (padDigits 4 year.natAbs).toList := by
  rw [LayoutItem.yearText, if_neg (by omega), if_pos neg, String.toList_append]
  rfl

theorem yearText_of_large {year : Int} (large : 9999 < year) :
    (LayoutItem.yearText year).toList = '+' :: (padDigits 4 year.toNat).toList := by
  rw [LayoutItem.yearText, if_neg (by omega), if_neg (by omega), String.toList_append]
  rfl

namespace LayoutItem

theorem solid_padDigits (width n : Nat) (rest : List Char) :
    ∀ c ∈ ((padDigits width n).toList ++ rest).head?, isBlank c = false := by
  obtain ⟨c, cs, same, digit⟩ := exists_padDigits_eq width n
  rw [same]
  rintro _ ⟨⟩
  exact isBlank_of_isDigit digit

theorem unlike_padDigits {c : Char} (other : isDigit c = false) (width n : Nat)
    (rest : List Char) :
    ∀ d ∈ ((padDigits width n).toList ++ rest).head?, d ≠ c := by
  obtain ⟨d, ds, same, digit⟩ := exists_padDigits_eq width n
  rw [same]
  rintro _ ⟨⟩ rfl
  rw [digit] at other
  cases other

theorem readBounded_padDigits {least most n : Nat} (bounds : least ≤ n ∧ n ≤ most)
    (fits : n < 100) (rest : List Char) :
    readBounded least most ((padDigits 2 n).toList ++ rest) = some (n, rest) := by
  rw [readBounded, Scan.bind_apply, Scan.blanks_of_solid (solid_padDigits 2 n rest)]
  simp only [Option.bind_some]
  rw [Scan.bind_apply, Scan.number_padDigits (by decide) fits (by decide)]
  simp [bounds, Scan.pure_apply]

theorem solid_yearText (year : Int) (rest : List Char) :
    ∀ c ∈ ((yearText year).toList ++ rest).head?, isBlank c = false := by
  rcases Int.lt_or_le year 0 with neg | pos
  · rw [yearText_of_neg neg]
    rintro _ ⟨⟩
    decide
  · rcases Int.lt_or_le 9999 year with large | small
    · rw [yearText_of_large large]
      rintro _ ⟨⟩
      decide
    · rw [yearText_of_four ⟨pos, small⟩]
      exact solid_padDigits 4 _ rest

theorem readYear_yearText (year : Int) {rest : List Char} (ends : EndsDigits rest) :
    readYear ((yearText year).toList ++ rest) = some (year, rest) := by
  have unsigned (n : Nat) :
      Scan.allDigits 1 ((padDigits 4 n).toList ++ rest) = some ((padDigits 4 n).toList, rest) :=
    Scan.allDigits_append isDigit_of_mem_padDigits
      (List.length_pos_iff.mpr (padDigits_ne_nil 4 n)) ends
  rw [readYear, Scan.bind_apply, Scan.blanks_of_solid (solid_yearText year rest)]
  simp only [Option.bind_some]
  rw [Scan.bind_apply]
  rcases Int.lt_or_le year 0 with neg | pos
  · rw [yearText_of_neg neg, List.cons_append, Scan.optionalChar_cons]
    simp only [Option.bind_some, if_true]
    rw [Scan.bind_apply, unsigned]
    simp only [Option.bind_some, Scan.pure_apply, value_padDigits]
    have same : -(year.natAbs : Int) = year := by omega
    rw [same]
  · rcases Int.lt_or_le 9999 year with large | small
    · rw [yearText_of_large large, List.cons_append,
        Scan.optionalChar_of_ne (by rintro _ ⟨⟩; decide)]
      simp only [Option.bind_some, Bool.false_eq_true, if_false]
      rw [Scan.bind_apply, Scan.optionalChar_cons]
      simp only [Option.bind_some, if_true]
      rw [Scan.bind_apply, unsigned]
      simp only [Option.bind_some, Scan.pure_apply, value_padDigits, Int.toNat_of_nonneg pos]
    · rw [yearText_of_four ⟨pos, small⟩,
        Scan.optionalChar_of_ne (unlike_padDigits (by decide) 4 _ rest)]
      simp only [Option.bind_some, Bool.false_eq_true, if_false]
      rw [Scan.bind_apply, Scan.optionalChar_of_ne (unlike_padDigits (by decide) 4 _ rest)]
      simp only [Option.bind_some, Bool.false_eq_true, if_false]
      rw [Scan.bind_apply, Scan.number_padDigits (by decide) (by omega) (by decide)]
      simp only [Option.bind_some, Scan.pure_apply, Int.toNat_of_nonneg pos]

theorem readFraction_written {nanosecond : Nat} (fits : nanosecond < 1000000000)
    {rest : List Char} (ends : EndsDigits rest) (point : ∀ c ∈ rest.head?, c ≠ '.') :
    readFraction ((if nanosecond = 0 then "" else "." ++ padDigits 9 nanosecond).toList ++ rest) =
      some (nanosecond, rest) := by
  rw [readFraction, Scan.bind_apply]
  split
  case isTrue none =>
    have empty : "".toList ++ rest = rest := rfl
    rw [empty, Scan.optionalChar_of_ne point, none]
    rfl
  case isFalse some =>
    have written : ("." ++ padDigits 9 nanosecond).toList ++ rest =
        '.' :: ((padDigits 9 nanosecond).toList ++ rest) := by
      rw [String.toList_append]
      rfl
    have width : (padDigits 9 nanosecond).toList.length = 9 := length_padDigits (by decide) fits
    have value : nanosecondsOf (padDigits 9 nanosecond).toList = nanosecond := by
      rw [nanosecondsOf, List.take_of_length_le (Nat.le_of_eq width), width, value_padDigits]
      exact Nat.mul_one nanosecond
    rw [written, Scan.optionalChar_cons]
    simp only [Option.bind_some, if_true]
    rw [Scan.bind_apply, Scan.allDigits_append isDigit_of_mem_padDigits (by omega) ends]
    simp only [Option.bind_some, Scan.pure_apply, value]

/-- The second moment with what an item says of the first. -/
def copy (m target : Moment) : LayoutItem → Moment
  | year => { target with date.year := m.date.year }
  | month => { target with date.month := m.date.month }
  | day => { target with date.day := m.date.day }
  | hour => { target with hour := m.hour }
  | minute => { target with minute := m.minute }
  | second => { target with second := m.second }
  | fraction => { target with nanosecond := m.nanosecond }
  | literal _ => target
  | space => target

/-- Whether an item that is read stops before the text that follows. -/
def StopsBefore (rest : List Char) : LayoutItem → Prop
  | year => EndsDigits rest
  | fraction => EndsDigits rest ∧ ∀ c ∈ rest.head?, c ≠ '.'
  | space => ∀ c ∈ rest.head?, isBlank c = false
  | _ => True

theorem read_write {m : Moment} (range : m.InRange) (target : Moment) {item : LayoutItem}
    {rest : List Char} (stops : item.StopsBefore rest) :
    item.read target ((item.write m).toList ++ rest) = some (item.copy m target, rest) := by
  obtain ⟨month, day, hour, minute, second, nanosecond⟩ := range
  cases item with
  | year =>
      rw [read, write, Scan.bind_apply, readYear_yearText m.date.year stops]
      rfl
  | month =>
      rw [read, write, Scan.bind_apply, readBounded_padDigits month (by omega)]
      rfl
  | day =>
      rw [read, write, Scan.bind_apply, readBounded_padDigits day (by omega)]
      rfl
  | hour =>
      rw [read, write, Scan.bind_apply, readBounded_padDigits ⟨Nat.zero_le _, hour⟩ (by omega)]
      rfl
  | minute =>
      rw [read, write, Scan.bind_apply, readBounded_padDigits ⟨Nat.zero_le _, minute⟩ (by omega)]
      rfl
  | second =>
      rw [read, write, Scan.bind_apply, readBounded_padDigits ⟨Nat.zero_le _, second⟩ (by omega)]
      rfl
  | fraction =>
      rw [read, write, Scan.bind_apply, readFraction_written nanosecond stops.1 stops.2]
      rfl
  | literal c =>
      rw [read, write, String.toList_ofList, List.singleton_append,
        Scan.bind_apply, Scan.char_cons]
      rfl
  | space =>
      have blanks : Scan.blanks (" ".toList ++ rest) = some ((), rest) := by
        have skip : stripStart (" ".toList ++ rest) = stripStart rest := rfl
        rw [Scan.blanks, skip, stripStart_eq_self stops]
      rw [read, write, Scan.bind_apply, blanks]
      rfl

end LayoutItem

namespace Layout

/-- Whether every item of a layout that is read stops before what is written for the next ones. -/
def Apart (m : Moment) (rest : List Char) : Layout → Prop
  | [] => True
  | item :: layout =>
    item.StopsBefore ((write layout m).toList ++ rest) ∧ Apart m rest layout

theorem toList_write_cons (item : LayoutItem) (layout : Layout) (m : Moment) :
    (write (item :: layout) m).toList = (item.write m).toList ++ (write layout m).toList := by
  simp [write]

theorem toList_write_nil (m : Moment) : (write [] m).toList = [] := by
  simp [write]

theorem toList_write_literal (c : Char) (layout : Layout) (m : Moment) :
    (write (.literal c :: layout) m).toList = c :: (write layout m).toList := by
  rw [toList_write_cons, LayoutItem.write, String.toList_ofList, List.singleton_append]

theorem toList_write_append (first second : Layout) (m : Moment) :
    (write (first ++ second) m).toList = (write first m).toList ++ (write second m).toList := by
  simp [write]

theorem read_write {m : Moment} (range : m.InRange) {layout : Layout} {rest : List Char}
    (apart : layout.Apart m rest) (target : Moment) :
    layout.foldlM LayoutItem.read target ((layout.write m).toList ++ rest) =
      some (layout.foldl (LayoutItem.copy m) target, rest) := by
  induction layout generalizing target with
  | nil => rfl
  | cons item layout ih =>
      rw [toList_write_cons, List.append_assoc, List.foldlM_cons, Scan.bind_apply,
        LayoutItem.read_write range target apart.1]
      exact ih apart.2 _

end Layout

end LogQuery.Calendar
