import LogQuery.Calendar.Date
import Mathlib.Tactic.Common

namespace LogQuery.Calendar

/-- The number of days of a year. -/
def yearLength (year : Int) : Nat :=
  if isLeapYear year then 366 else 365

theorem isLeapYear_iff (year : Int) :
    isLeapYear year = true ↔ year % 4 = 0 ∧ (year % 100 ≠ 0 ∨ year % 400 = 0) := by
  simp [isLeapYear]

theorem daysBeforeYear_le {earlier later : Int} (h : earlier ≤ later) :
    daysBeforeYear earlier ≤ daysBeforeYear later := by
  unfold daysBeforeYear
  omega

theorem daysBeforeYear_succ (year : Int) :
    daysBeforeYear (year + 1) = daysBeforeYear year + yearLength year := by
  have leap := isLeapYear_iff year
  unfold daysBeforeYear yearLength
  split
  case isTrue yes =>
    rw [leap] at yes
    omega
  case isFalse no =>
    rw [leap] at no
    omega

theorem daysBeforeMonth_succ (year : Int) {month : Nat} (begun : 1 ≤ month) :
    daysBeforeMonth year (month + 1) = daysBeforeMonth year month + daysInMonth year month := by
  cases month with
  | zero => cases begun
  | succ month => rfl

theorem yearLength_eq (year : Int) : yearLength year = daysBeforeMonth year 12 + 31 := by
  cases leap : isLeapYear year <;> simp [yearLength, daysBeforeMonth, daysInMonth, leap]

theorem month_of_daysInMonth_pos {year : Int} {month : Nat} (some : 0 < daysInMonth year month) :
    1 ≤ month ∧ month ≤ 12 := by
  unfold daysInMonth at some
  split at some <;> simp_all

namespace Date

theorem monthAndDay_spec {year : Int} {left month offset : Nat} (begun : 1 ≤ month)
    (months : left + month = 12)
    (inside : daysBeforeMonth year month + offset < yearLength year) :
    daysBeforeMonth year (monthAndDay year left month offset).1 +
        (monthAndDay year left month offset).2 = daysBeforeMonth year month + offset + 1 ∧
      1 ≤ (monthAndDay year left month offset).2 ∧
      (monthAndDay year left month offset).2 ≤
        daysInMonth year (monthAndDay year left month offset).1 := by
  induction left generalizing month offset with
  | zero =>
      obtain rfl : month = 12 := by omega
      rw [yearLength_eq] at inside
      refine ⟨rfl, Nat.succ_pos offset, ?_⟩
      change offset + 1 ≤ 31
      omega
  | succ left ih =>
      rw [monthAndDay]
      split
      case isTrue within => exact ⟨rfl, Nat.succ_pos offset, within⟩
      case isFalse beyond =>
        have next := daysBeforeMonth_succ year begun
        have rest := @ih (month + 1) (offset - daysInMonth year month)
          (Nat.le_add_left 1 month) (by omega) (by omega)
        refine ⟨?_, rest.2⟩
        rw [rest.1]
        omega

/-- The days of 400 years before a day in their fourth part by centuries, by cycles of four years
and by years. Only the last century, cycle and year of each kind have a day more than the
others. -/
theorem exists_parts (days : Int) :
    ∃ (centuries fours years : Int) (offset : Nat),
      ofDayNumber (days - epochDays) =
        (let year := days / 146097 * 400 + centuries * 100 + fours * 4 + years + 1
        ⟨year, (monthAndDay year 11 1 offset).1, (monthAndDay year 11 1 offset).2⟩) ∧
      days % 146097 = centuries * 36524 + fours * 1461 + years * 365 + offset ∧
      0 ≤ centuries ∧ centuries ≤ 3 ∧ 0 ≤ fours ∧ fours ≤ 24 ∧ 0 ≤ years ∧ years ≤ 3 ∧
      offset ≤ 365 ∧ (offset = 365 → years = 3 ∧ (fours = 24 → centuries = 3)) := by
  obtain ⟨inCycle, hinCycle⟩ : ∃ d, d = days % 146097 := ⟨_, rfl⟩
  obtain ⟨centuries, hcenturies⟩ : ∃ c, c = min 3 (inCycle / 36524) := ⟨_, rfl⟩
  obtain ⟨inCentury, hinCentury⟩ : ∃ d, d = inCycle - centuries * 36524 := ⟨_, rfl⟩
  obtain ⟨fours, hfours⟩ : ∃ f, f = inCentury / 1461 := ⟨_, rfl⟩
  obtain ⟨inFour, hinFour⟩ : ∃ d, d = inCentury - fours * 1461 := ⟨_, rfl⟩
  obtain ⟨years, hyears⟩ : ∃ y, y = min 3 (inFour / 365) := ⟨_, rfl⟩
  -- each part is bounded by the one before it, which is why they come in this order
  have cycle : 0 ≤ inCycle ∧ inCycle < 146097 := by omega
  have century : 0 ≤ centuries ∧ centuries ≤ 3 ∧ 0 ≤ inCentury ∧ inCentury ≤ 36524 ∧
      (inCentury = 36524 → centuries = 3) := by omega
  have four : 0 ≤ fours ∧ fours ≤ 24 ∧ 0 ≤ inFour ∧ inFour ≤ 1460 := by omega
  have year : 0 ≤ years ∧ years ≤ 3 ∧ 0 ≤ inFour - years * 365 ∧ inFour - years * 365 ≤ 365 ∧
      (inFour - years * 365 = 365 → years = 3) := by omega
  refine ⟨centuries, fours, years, (inFour - years * 365).toNat, ?_, by omega, by omega, by omega,
    by omega, by omega, by omega, by omega, by omega, by omega⟩
  subst hyears hinFour hfours hinCentury hcenturies hinCycle
  simp only [ofDayNumber, Int.sub_add_cancel]

theorem exists_offset (n : Int) :
    ∃ (year : Int) (offset : Nat), offset < yearLength year ∧
      daysBeforeYear year + offset = n + epochDays ∧
      ofDayNumber n =
        ⟨year, (monthAndDay year 11 1 offset).1, (monthAndDay year 11 1 offset).2⟩ := by
  obtain ⟨centuries, fours, years, offset, same, days, parts⟩ := exists_parts (n + epochDays)
  rw [Int.add_sub_cancel] at same
  refine ⟨_, offset, ?_, ?_, same⟩
  · have leap := isLeapYear_iff
      ((n + epochDays) / 146097 * 400 + centuries * 100 + fours * 4 + years + 1)
    unfold yearLength
    split
    case isTrue => omega
    case isFalse common =>
      rw [leap] at common
      omega
  · obtain ⟨cycles, hcycles⟩ : ∃ q, q = (n + epochDays) / 146097 := ⟨_, rfl⟩
    rw [← hcycles, daysBeforeYear, Int.add_sub_cancel]
    have byFour : (cycles * 400 + centuries * 100 + fours * 4 + years) / 4 =
        cycles * 100 + centuries * 25 + fours := by omega
    have byHundred : (cycles * 400 + centuries * 100 + fours * 4 + years) / 100 =
        cycles * 4 + centuries := by omega
    have byCycle : (cycles * 400 + centuries * 100 + fours * 4 + years) / 400 = cycles := by omega
    rw [byFour, byHundred, byCycle]
    omega

theorem dayNumber_ofDayNumber (n : Int) : (ofDayNumber n).dayNumber = n := by
  obtain ⟨year, offset, inside, days, same⟩ := exists_offset n
  obtain ⟨month, -⟩ :=
    @monthAndDay_spec year 11 1 offset (Nat.le_refl 1)
      rfl (by simpa [daysBeforeMonth] using inside)
  simp only [daysBeforeMonth, Nat.zero_add] at month
  simp only [same, dayNumber]
  omega

theorem valid_ofDayNumber (n : Int) : (ofDayNumber n).Valid := by
  obtain ⟨year, offset, inside, -, same⟩ := exists_offset n
  obtain ⟨-, valid⟩ :=
    @monthAndDay_spec year 11 1 offset (Nat.le_refl 1)
      rfl (by simpa [daysBeforeMonth] using inside)
  rw [same]
  exact valid

end Date

end LogQuery.Calendar
