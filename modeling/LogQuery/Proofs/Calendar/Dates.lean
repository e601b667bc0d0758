import LogQuery.Proofs.Calendar.Durations
import LogQuery.Proofs.Calendar.Shown

namespace LogQuery.Text.Scan

theorem twoDigits_padDigits_eq {most n : Nat} (fits : n < 100) (rest : List Char) :
    twoDigits most ((padDigits 2 n).toList ++ rest) =
      if n ≤ most then some (n, rest) else none := by
  rw [twoDigits, bind_apply, number_padDigits (by decide) fits (Nat.le_refl 2), Option.bind_some]
  split <;> rfl

theorem complete?_eq_some_iff {α : Type} {scan : Scan α} {cs : List Char} {a : α} :
    complete? scan cs = some a ↔ scan cs = some (a, []) := by
  rw [complete?]
  split
  · next read => simp [read]
  · next other => exact iff_of_false (by simp) fun read => other a read

/-- Whether every value of a scan has a property. -/
def Gives {α : Type} (P : α → Prop) (scan : Scan α) : Prop :=
  ∀ cs a rest, scan cs = some (a, rest) → P a

theorem Gives.bind {α β : Type} {P : β → Prop} {next : α → Scan β} (gives : ∀ a, Gives P (next a))
    (scan : Scan α) : Gives P (scan >>= next) := by
  intro cs b rest read
  rw [bind_apply, Option.bind_eq_some_iff] at read
  obtain ⟨⟨a, left⟩, -, second⟩ := read
  exact gives a left b rest second

theorem gives_pure {α : Type} {P : α → Prop} {a : α} (holds : P a) : Gives P (pure a) := by
  rintro cs _ _ ⟨⟩
  exact holds

end LogQuery.Text.Scan

namespace LogQuery.Calendar

open Text

/-- The text of a date: four digits of the year, two of the month and two of the day. -/
def Date.text (d : Date) : String :=
  padDigits 4 d.year.toNat ++ "-" ++ padDigits 2 d.month ++ "-" ++ padDigits 2 d.day

/-- Whether the fields of a date fit their digits; the date need not exist. -/
structure Date.Writable (d : Date) : Prop where
  year : 0 ≤ d.year ∧ d.year ≤ 9999
  month : d.month < 100
  day : d.day < 100

/-- The day after a date. -/
def Date.next (d : Date) : Date :=
  if d.day < daysInMonth d.year d.month then { d with day := d.day + 1 }
  else if d.month < 12 then ⟨d.year, d.month + 1, 1⟩
  else ⟨d.year + 1, 1, 1⟩

section Days

theorem daysInMonth_pos (year : Int) {month : Nat} (first : 1 ≤ month) (last : month ≤ 12) :
    1 ≤ daysInMonth year month := by
  unfold daysInMonth
  split <;> grind

theorem daysBeforeMonth_le (year : Int) (month : Nat) :
    daysBeforeMonth year month ≤ 31 * month := by
  induction month using daysBeforeMonth.induct with
  | case1 | case2 => exact Nat.zero_le _
  | case3 month ih =>
      have days := daysInMonth_le year (month + 1)
      rw [daysBeforeMonth]
      omega

/-- The day after has the number that comes next, and so day numbers count the days. -/
theorem Date.dayNumber_next {d : Date} (valid : d.Valid) :
    d.next.Valid ∧ d.next.dayNumber = d.dayNumber + 1 := by
  obtain ⟨⟨first, last⟩, -, -⟩ := valid.inRange
  obtain ⟨low, high⟩ := valid
  rw [next]
  split
  case isTrue within =>
    refine ⟨⟨Nat.succ_pos _, within⟩, ?_⟩
    simp only [dayNumber]
    omega
  case isFalse lastDay =>
    split
    case isTrue early =>
      have days := daysBeforeMonth_succ d.year first
      refine ⟨⟨Nat.le_refl 1, daysInMonth_pos _ (Nat.succ_pos _) early⟩, ?_⟩
      simp only [dayNumber, days]
      omega
    case isFalse late =>
      obtain december : d.month = 12 := by omega
      have year := daysBeforeYear_succ d.year
      have length := yearLength_eq d.year
      have days : daysInMonth d.year 12 = 31 := rfl
      have begins : daysBeforeMonth (d.year + 1) 1 = 0 := rfl
      rw [december, days] at high lastDay
      refine ⟨⟨Nat.le_refl 1, daysInMonth_pos _ (Nat.le_refl 1) (by simp)⟩, ?_⟩
      simp only [dayNumber, december, year, begins]
      omega

end Days

section Dates

variable {d : Date}

theorem Date.toList_text_append (d : Date) (rest : List Char) :
    d.text.toList ++ rest = (padDigits 4 d.year.toNat).toList ++ '-' ::
    ((padDigits 2 d.month).toList ++
      '-' :: ((padDigits 2 d.day).toList ++ rest)) := by
  simp [text]

theorem LayoutItem.readBounded_padDigits_eq {least most n : Nat} (fits : n < 100)
    (rest : List Char) :
    LayoutItem.readBounded least most ((padDigits 2 n).toList ++ rest) =
      if least ≤ n ∧ n ≤ most then some (n, rest) else none := by
  rw [LayoutItem.readBounded, Scan.bind_apply,
    Scan.blanks_of_solid (LayoutItem.solid_padDigits 2 n rest),
    Option.bind_some, Scan.bind_apply, Scan.number_padDigits (by decide) fits (by decide),
    Option.bind_some]
  split <;> rfl

/-- The rest of an internet timestamp, behind its date. -/
def internetClock (date : Date) : Scan ZonedMoment := do
  let separator ← Scan.next
  unless separator = 'T' || separator = 't' || separator = ' ' do Scan.fail
  let hour ← Scan.twoDigits 23
  Scan.char ':'
  let minute ← Scan.twoDigits 59
  Scan.char ':'
  let second ← Scan.twoDigits 60
  let nanosecond ← LayoutItem.readFraction
  let offset ← internetTimestamp.zone
  return { moment := { date, hour, minute, second, nanosecond }, offset }

theorem internetTimestamp_date (writable : d.Writable) (rest : List Char) :
    internetTimestamp (d.text.toList ++ rest) = if d.month ≤ 12 ∧
    d.day ≤ 31 then internetClock d rest else none := by
  obtain ⟨⟨pos, small⟩, month, day⟩ := writable
  rw [Date.toList_text_append, internetTimestamp, Scan.bind_apply,
    Scan.number_padDigits (by decide) (by omega) (Nat.le_refl 4)]
  simp only [Option.bind_some, Scan.bind_apply, Scan.char_cons, Scan.twoDigits_padDigits_eq month,
    Int.toNat_of_nonneg pos]
  by_cases hmonth : d.month ≤ 12
  · simp only [hmonth, if_true, true_and, Option.bind_some, Scan.char_cons,
      Scan.twoDigits_padDigits_eq day]
    split <;> rfl
  · rw [if_neg hmonth, if_neg fun bounds => hmonth bounds.1, Option.bind_none]

theorem foldlM_date (writable : d.Writable) (items : Layout) (rest : List Char) :
    (Layout.date ++ items).foldlM LayoutItem.read {} (d.text.toList ++ rest) =
      if (1 ≤ d.month ∧ d.month ≤ 12) ∧ 1 ≤ d.day ∧ d.day ≤ 31 then
        items.foldlM LayoutItem.read { date := d } rest
      else none := by
  obtain ⟨four, month, day⟩ := writable
  have year (rest : List Char) :=
    LayoutItem.readYear_yearText d.year (endsDigits_of_sign (.inl rfl) rest)
  rw [yearText_of_four four] at year
  rw [Date.toList_text_append, Layout.date]
  simp only [List.cons_append, List.nil_append, List.foldlM_cons, LayoutItem.read,
    Scan.bind_apply, year,
    Option.bind_some, Scan.char_cons, Scan.pure_apply, LayoutItem.readBounded_padDigits_eq month]
  by_cases hmonth : 1 ≤ d.month ∧ d.month ≤ 12
  · simp only [hmonth, and_self, if_true, true_and, Option.bind_some, Scan.char_cons,
      LayoutItem.readBounded_padDigits_eq day]
    split <;> rfl
  · rw [if_neg hmonth, if_neg fun bounds => hmonth bounds.1, Option.bind_none, Option.bind_none]

theorem mailTimestamp_date (writable : d.Writable) (rest : List Char) :
    mailTimestamp (d.text.toList ++ rest) = none := by
  have width : (padDigits 4 d.year.toNat).toList.length = 4 :=
    length_padDigits (by decide) (by have four := writable.year; omega)
  have digits : ∀ c ∈ (padDigits 4 d.year.toNat).toList, isDigit c = true :=
    isDigit_of_mem_padDigits
  obtain ⟨a, b, c, e, chars⟩ := List.length_eq_four.mp width
  rw [chars] at digits
  rw [Date.toList_text_append, chars]
  exact mailTimestamp_of_digits (digits a (by simp)) (digits b (by simp)) (digits c (by simp)) _

theorem gives_internetClock (d : Date) :
    Scan.Gives (fun z => z.moment.date = d) (internetClock d) := by
  refine Scan.Gives.bind (fun separator => ?_) Scan.next
  split
  case' isFalse => refine Scan.Gives.bind (fun _ => ?_) Scan.fail
  all_goals
    iterate 7 refine Scan.Gives.bind (fun _ => ?_) _
    exact Scan.gives_pure rfl

/-- Whether an item of a layout leaves the date as it is. -/
def LayoutItem.ofClock : LayoutItem → Bool
  | year | month | day => false
  | _ => true

theorem LayoutItem.gives_read {item : LayoutItem} (clock : item.ofClock = true)
    (target : Moment) :
    Scan.Gives (fun m => m.date = target.date) (item.read target) := by
  cases item with
  | year | month | day => cases clock
  | hour | minute | second | fraction | literal | space =>
      refine Scan.Gives.bind (fun _ => ?_) _
      exact Scan.gives_pure rfl

theorem Layout.gives_foldlM {items : Layout} (clock : ∀ item ∈ items, item.ofClock = true)
    (target : Moment) :
    Scan.Gives (fun m => m.date = target.date) (items.foldlM LayoutItem.read target) := by
  induction items generalizing target with
  | nil => exact Scan.gives_pure rfl
  | cons item items ih =>
      obtain ⟨first, others⟩ := List.forall_mem_cons.mp clock
      intro cs m rest read
      rw [List.foldlM_cons, Scan.bind_apply, Option.bind_eq_some_iff] at read
      obtain ⟨⟨m', left⟩, reads, read⟩ := read
      exact (ih others m' left m rest read).trans
        (LayoutItem.gives_read first target cs m' left reads)

/-- What the layouts without an offset have behind their date. -/
def clockLayouts : List Layout :=
  [.literal 'T' :: (Layout.time ++ [.fraction]), .space :: (Layout.time ++ [.fraction]),
    .literal 'T' :: Layout.hourMinute, .space :: Layout.hourMinute, []]

theorem universalLayouts_eq : universalLayouts = clockLayouts.map (Layout.date ++ ·) :=
  rfl

theorem ofClock_of_mem_clockLayouts {items : Layout} (known : items ∈ clockLayouts) :
    ∀ item ∈ items, item.ofClock = true := by
  revert items
  decide

theorem zonedInstant?_eq_none {form : Scan ZonedMoment} {cs : List Char}
    (fails : form cs = none) :
    zonedInstant? form cs = none := by
  rw [zonedInstant?, Scan.complete?, fails]
  rfl

/-- No form of timestamp accepts a date that does not exist, whatever stands behind it. -/
theorem instant?_of_not_valid (writable : d.Writable) (invalid : ¬d.Valid) (rest : List Char) :
    instant? (d.text.toList ++ rest) = none := by
  have internet : zonedInstant? internetTimestamp (d.text.toList ++ rest) = none := by
    rw [zonedInstant?, Option.map_eq_none_iff, Option.filter_eq_none_iff]
    intro z read
    rw [Scan.complete?_eq_some_iff, internetTimestamp_date writable] at read
    split at read
    · have same := gives_internetClock d rest z [] read
      simp [ZonedMoment.Supported, Date.Supported, same, invalid]
    · cases read
  have universal (layout : Layout) (known : layout ∈ universalLayouts) :
      layout.read? (d.text.toList ++ rest) = none := by
    obtain ⟨items, clock, rfl⟩ := List.mem_map.mp (universalLayouts_eq ▸ known)
    rw [Layout.read?, Option.filter_eq_none_iff]
    intro m read
    rw [Scan.complete?_eq_some_iff, foldlM_date writable] at read
    split at read
    · have same :=
        Layout.gives_foldlM (ofClock_of_mem_clockLayouts clock) { date := d } rest m [] read
      simp [Date.Supported, same, invalid]
    · cases read
  rw [instant?, internet, zonedInstant?_eq_none (mailTimestamp_date writable rest),
    List.findSome?_eq_none_iff.mpr fun layout known => by rw [universal layout known]; rfl]
  rfl

theorem Duration.millis?_date (d : Date) (rest : List Char) :
    Duration.millis? (d.text.toList ++ rest) = none := by
  rw [Date.toList_text_append]
  generalize (padDigits 2 d.month).toList ++ '-' :: ((padDigits 2 d.day).toList ++ rest) = rest
  have digits : Duration.spacedDigits ((padDigits 4 d.year.toNat).toList ++ '-' :: rest) =
      ((padDigits 4 d.year.toNat).toList.filter isDigit, '-' :: rest) := by
    refine Duration.spacedDigits_append (fun c hmem => .inl (isDigit_of_mem_padDigits c hmem)) ?_
    rintro _ ⟨⟩
    decide
  have other : (padDigits 4 d.year.toNat).toList ++ '-' :: rest ≠ ['0'] := fun same => by
    have hyphen : '-' ∈ ['0'] := same ▸ by simp
    revert hyphen
    decide
  have none : Duration.addPart? ⟨0, 0⟩
      ((padDigits 4 d.year.toNat).toList ++ '-' :: rest) = none := by
    have unit :
        TimeUnit.ofName? (String.ofList (('-' :: rest).takeWhile Duration.isUnitLetter)) =
          .none := rfl
    have whole : Duration.pointAndDecimals? ('-' :: rest) = some (.none, '-' :: rest) := rfl
    rw [Duration.addPart?, digits]
    simp [whole, unit]
  rw [Duration.millis?, Duration.span?, if_neg other, Duration.addParts?, none]
  rfl

end Dates

end LogQuery.Calendar
