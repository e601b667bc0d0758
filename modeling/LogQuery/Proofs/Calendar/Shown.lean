import LogQuery.Calendar.Timestamp
import LogQuery.TimeRange
import LogQuery.Proofs.Calendar.Layouts
import LogQuery.Proofs.Text.Blank
import LogQuery.Proofs.Text.Joined

namespace LogQuery.Calendar

open Text

namespace Moment

theorem millis_ofMillis (ms : Int) : (ofMillis ms).millis = 1000 * (ms / 1000) := by
  simp only [millis, ofMillis, Date.dayNumber_ofDayNumber, dayMillis]
  omega

theorem inRange_ofMillis (ms : Int) : (ofMillis ms).InRange := by
  obtain ⟨month, day⟩ := (Date.valid_ofDayNumber (ms / dayMillis)).inRange
  have seconds : (ms % dayMillis).toNat / 1000 < 86400 := by
    simp only [dayMillis]
    omega
  refine ⟨month, day, ?_, ?_, ?_, Nat.zero_lt_succ _⟩ <;> simp only [ofMillis] <;> omega

end Moment

theorem showable_iff (ms : Int) :
    showable ms = true ↔ -8334601228800000 ≤ ms ∧ ms ≤ 8210266876799999 := by
  obtain ⟨year, offset, inside, days, same⟩ := Date.exists_offset (ms / dayMillis)
  have unfolded : showable ms = true ↔ -262143 ≤ year ∧ year ≤ 262142 := by
    simp [showable, Moment.ofMillis, same, yearInRange]
  have next := daysBeforeYear_succ year
  have first : daysBeforeYear (-262143) = -95746130 := rfl
  have last : daysBeforeYear (262142 + 1) = 95745399 := rfl
  simp only [epochDays, dayMillis] at days
  rw [unfolded]
  constructor
  · rintro ⟨late, early⟩
    have after := daysBeforeYear_le late
    have before := daysBeforeYear_le (Int.add_le_add_right early 1)
    omega
  · intro range
    by_contra outside
    rcases Int.lt_or_le year (-262143) with early | late
    · have before := daysBeforeYear_le (Int.add_one_le_of_lt early)
      omega
    · have after : daysBeforeYear (262142 + 1) ≤ daysBeforeYear year :=
        daysBeforeYear_le (by omega)
      omega

theorem toList_shown (m : Moment) :
    (Layout.shown.write m).toList =
      (LayoutItem.yearText m.date.year).toList ++ '-' :: ((padDigits 2 m.date.month).toList ++
        '-' :: ((padDigits 2 m.date.day).toList ++ ' ' :: ((padDigits 2 m.hour).toList ++
          ':' :: ((padDigits 2 m.minute).toList ++ ':' ::
            ((padDigits 2 m.second).toList ++ []))))) := by
  simp [Layout.shown, Layout.date, Layout.time, Layout.hourMinute, Layout.write, LayoutItem.write]

theorem four_or_signed (year : Int) :
    (0 ≤ year ∧ year ≤ 9999 ∧ LayoutItem.yearText year = padDigits 4 year.toNat) ∨
      ∃ sign digits, (sign = '-' ∨ sign = '+') ∧
      (LayoutItem.yearText year).toList = sign :: digits := by
  rcases Int.lt_or_le year 0 with neg | pos
  · exact .inr ⟨'-', _, .inl rfl, yearText_of_neg neg⟩
  · rcases Int.lt_or_le 9999 year with large | small
    · exact .inr ⟨'+', _, .inr rfl, yearText_of_large large⟩
    · exact .inl ⟨pos, small, yearText_of_four ⟨pos, small⟩⟩

theorem endsDigits_of_sign {sign : Char} (either : sign = '-' ∨ sign = '+') (cs : List Char) :
    EndsDigits (sign :: cs) := by
  rintro _ ⟨⟩
  rcases either with rfl | rfl <;> rfl

theorem name?_weekdayNames {c : Char} (other : isDigit c = true ∨ c = '-' ∨ c = '+')
    (cs : List Char) :
    name? weekdayNames (c :: cs) = some (none, c :: cs) := by
  have lower : c.toLower = c := by
    rcases other with digit | rfl | rfl
    · have small : c.toNat ≤ 57 := by
        have bounds : 48 ≤ c.toNat ∧ c.toNat ≤ 57 := by
          simpa [isDigit, Char.le_def, UInt32.le_iff_toNat_le] using digit
        exact bounds.2
      refine dif_neg fun upper => ?_
      have large : 65 ≤ c.toNat := by simpa [UInt32.le_iff_toNat_le] using upper.1
      omega
    · rfl
    · rfl
  have absent : String.ofList (asciiLower ((c :: cs).take 3)) ∉ weekdayNames := by
    intro hmem
    have first : (String.ofList (asciiLower ((c :: cs).take 3))).toList.head? = some c := by
      simp [asciiLower, lower]
    have heads : some c ∈ weekdayNames.map fun name => name.toList.head? :=
      first ▸ List.mem_map_of_mem hmem
    have letters : weekdayNames.map (fun name => name.toList.head?) =
        [some 'm', some 't', some 'w', some 't', some 'f', some 's', some 's'] := by decide
    rw [letters] at heads
    rcases other with digit | rfl | rfl
    · revert digit
      simp only [List.mem_cons, Option.some.injEq, List.not_mem_nil, or_false] at heads
      rcases heads with rfl | rfl | rfl | rfl | rfl | rfl | rfl <;> decide
    · revert heads
      decide
    · revert heads
      decide
  rw [name?, List.idxOf?_eq_none_iff.mpr absent]

/-- A mail date does not begin with a number of more than two digits or with a sign. -/
theorem mailTimestamp_of_sign {sign : Char} (either : sign = '-' ∨ sign = '+') (cs : List Char) :
    mailTimestamp (sign :: cs) = none := by
  have solid : ∀ c ∈ (sign :: cs).head?, isBlank c = false := by
    rintro _ ⟨⟩
    rcases either with rfl | rfl <;> rfl
  have unnumbered : Scan.number 1 2 (sign :: cs) = none :=
    Scan.number_of_not_digit (by decide) (endsDigits_of_sign either cs)
  rw [mailTimestamp]
  simp only [Scan.bind_apply, Scan.blanks_of_solid solid, name?_weekdayNames (.inr either),
    Option.bind_some, Option.isSome_none, Bool.false_eq_true, if_false, unnumbered]
  rfl

theorem mailTimestamp_of_digits {a b c : Char} (ha : isDigit a = true) (hb : isDigit b = true)
    (hc : isDigit c = true) (cs : List Char) : mailTimestamp (a :: b :: c :: cs) = none := by
  have solid : ∀ d ∈ (a :: b :: c :: cs).head?, isBlank d = false := by
    rintro _ ⟨⟩
    exact isBlank_of_isDigit ha
  have day : Scan.number 1 2 (a :: b :: c :: cs) = some (value [a, b], c :: cs) :=
    @Scan.number_append 1 2 [a, b] (c :: cs) (by simp [ha, hb]) (by simp) (by simp) (.inl rfl)
  have apart : Scan.someBlanks (c :: cs) =
    none := by simp [Scan.someBlanks, isBlank_of_isDigit hc]
  rw [mailTimestamp]
  simp only [Scan.bind_apply, Scan.blanks_of_solid solid, name?_weekdayNames (.inl ha),
    Option.bind_some, Option.isSome_none, Bool.false_eq_true, if_false, day, apart]
  rfl

section

variable {m : Moment} (range : m.InRange)

include range

theorem internetTimestamp_shown : internetTimestamp (Layout.shown.write m).toList = none := by
  obtain ⟨month, day, hour, minute, second, -⟩ := range
  rw [toList_shown, internetTimestamp, Scan.bind_apply]
  rcases four_or_signed m.date.year with ⟨pos, small, same⟩ | ⟨sign, digits, either, same⟩
  · have fraction : LayoutItem.readFraction [] = some (0, []) := rfl
    have zone : internetTimestamp.zone [] = none := rfl
    rw [same, Scan.number_padDigits (by decide) (by omega) (by decide)]
    simp only [Option.bind_some, Scan.bind_apply, Scan.char_cons, Scan.next_cons,
      Scan.twoDigits_padDigits (n := m.date.month) (by omega) month.2,
      Scan.twoDigits_padDigits (n := m.date.day) (by omega) day.2,
      decide_true, Bool.or_true, if_true, Scan.pure_apply,
      Scan.twoDigits_padDigits (n := m.hour) (by omega) hour,
      Scan.twoDigits_padDigits (n := m.minute) (by omega) minute,
      Scan.twoDigits_padDigits (n := m.second) (by omega) second, fraction, zone]
    rfl
  · rw [same, List.cons_append,
      Scan.number_of_not_digit (by decide) (endsDigits_of_sign either _)]
    rfl

omit range in
theorem mailTimestamp_shown : mailTimestamp (Layout.shown.write m).toList = none := by
  rw [toList_shown]
  rcases four_or_signed m.date.year with ⟨pos, small, same⟩ | ⟨sign, digits, either, same⟩
  · have width : (padDigits 4 m.date.year.toNat).toList.length = 4 :=
      length_padDigits (by decide) (by omega)
    obtain ⟨a, b, c, d, chars⟩ := List.length_eq_four.mp width
    have digits : ∀ c ∈ (padDigits 4 m.date.year.toNat).toList, isDigit c = true :=
      isDigit_of_mem_padDigits
    rw [chars] at digits
    rw [same, chars]
    exact mailTimestamp_of_digits (digits a (by simp)) (digits b (by simp)) (digits c (by simp)) _
  · rw [same]
    exact mailTimestamp_of_sign either _

theorem read_date (target : Moment) (rest : List Char) :
    Layout.date.foldlM LayoutItem.read target ((Layout.date.write m).toList ++ rest) =
      some ({ target with date := m.date }, rest) := by
  have apart : Layout.date.Apart m rest := by
    refine ⟨?_, trivial, trivial, trivial, trivial, trivial⟩
    rw [Layout.toList_write_literal]
    exact endsDigits_of_sign (.inl rfl) _
  exact Layout.read_write range apart target

theorem read?_shown_of_literal (layout : Layout) :
    Layout.read? (Layout.date ++ .literal 'T' :: layout)
      (Layout.shown.write m).toList = none := by
  have split : (Layout.shown.write m).toList =
      (Layout.date.write m).toList ++ ' ' :: (Layout.time.write m).toList := by
    rw [Layout.shown, List.append_assoc, Layout.toList_write_append, List.singleton_append,
      Layout.toList_write_cons]
    simp [LayoutItem.write]
  rw [Layout.read?, Scan.complete?, split, List.foldlM_append, Scan.bind_apply, read_date range]
  rfl

theorem read?_shown (supported : m.date.Supported) (whole : m.nanosecond = 0) :
    Layout.read? (Layout.date ++ .space :: (Layout.time ++ [.fraction]))
      (Layout.shown.write m).toList = some m := by
  have written : (Layout.shown.write m).toList =
      (Layout.write (Layout.date ++ .space :: (Layout.time ++ [.fraction])) m).toList ++ [] := by
    simp [Layout.shown, Layout.write, LayoutItem.write, whole]
  have apart : Layout.Apart m [] (Layout.date ++ .space :: (Layout.time ++ [.fraction])) := by
    simp only [Layout.date, Layout.time, Layout.hourMinute, List.cons_append, List.nil_append,
      Layout.Apart, LayoutItem.StopsBefore, true_and, and_true, Layout.toList_write_literal,
      Layout.toList_write_nil]
    refine ⟨endsDigits_of_sign (.inl rfl) _, ?_, ?_, ?_⟩
    · rw [Layout.toList_write_cons, List.append_assoc]
      exact LayoutItem.solid_padDigits 2 _ _
    · rintro _ ⟨⟩
    · rintro _ ⟨⟩
  have copied : List.foldl (LayoutItem.copy m) {}
      (Layout.date ++ LayoutItem.space :: (Layout.time ++ [LayoutItem.fraction])) = m := rfl
  rw [Layout.read?, Scan.complete?, written, Layout.read_write range apart, copied]
  simp [supported]

end

theorem instant?_shown {ms : Int} (h : showable ms = true) :
    instant? (Layout.shown.write (.ofMillis ms)).toList = some (1000 * (ms / 1000)) := by
  have range := Moment.inRange_ofMillis ms
  have supported : (Moment.ofMillis ms).date.Supported := ⟨Date.valid_ofDayNumber _, h⟩
  have internet : zonedInstant? internetTimestamp
      (Layout.shown.write (.ofMillis ms)).toList = none := by
    simp [zonedInstant?, Scan.complete?, internetTimestamp_shown range]
  have mail : zonedInstant? mailTimestamp (Layout.shown.write (.ofMillis ms)).toList = none := by
    simp [zonedInstant?, Scan.complete?, mailTimestamp_shown]
  have other := read?_shown_of_literal range (Layout.time ++ [LayoutItem.fraction])
  have own := read?_shown range supported rfl
  rw [instant?, internet, mail, universalLayouts]
  simp only [List.append_assoc, List.cons_append, List.nil_append, List.findSome?_cons, other,
    own, Option.map_none, Option.map_some, Moment.millis_ofMillis]
  rfl

theorem no_arrow_shown (m : Moment) : '>' ∉ (Layout.shown.write m).toList := by
  have number (width n : Nat) : '>' ∉ (padDigits width n).toList := fun hmem =>
    Bool.false_ne_true (isDigit_of_mem_padDigits '>' hmem)
  have year : '>' ∉ (LayoutItem.yearText m.date.year).toList := by
    rcases Int.lt_or_le m.date.year 0 with neg | pos
    · simp [yearText_of_neg neg, number]
    · rcases Int.lt_or_le 9999 m.date.year with large | small
      · simp [yearText_of_large large, number]
      · rw [yearText_of_four ⟨pos, small⟩]
        exact number 4 _
  simp [toList_shown, number, year]

theorem trimmed_shown (m : Moment) : Trimmed (Layout.shown.write m).toList := by
  constructor
  · rw [toList_shown]
    exact LayoutItem.solid_yearText _ _
  · have last : Layout.shown =
        (Layout.date ++ LayoutItem.space :: (Layout.hourMinute ++ [LayoutItem.literal ':'])) ++
          [LayoutItem.second] := rfl
    obtain ⟨front, c, ends⟩ :=
      List.eq_nil_or_concat _ |>.resolve_left (padDigits_ne_nil 2 m.second)
    have digit : isDigit c = true := by
      apply @isDigit_of_mem_padDigits 2 m.second
      rw [ends, List.concat_eq_append]
      exact List.mem_append_right front List.mem_cons_self
    rw [last, Layout.toList_write_append]
    simp [Layout.toList_write_cons, Layout.toList_write_nil, LayoutItem.write, ends,
      isBlank_of_isDigit digit]

end LogQuery.Calendar

namespace LogQuery.TimeRange

open Text Calendar

section

variable {ms : Int} (h : showable ms = true) (now : Int)

include h

theorem resolveSide_shown {front back : List Char} (hfront : ∀ c ∈ front, isBlank c = true)
    (hback : ∀ c ∈ back, isBlank c = true) :
    resolveSide now (front ++ (Layout.shown.write (.ofMillis ms)).toList ++ back) =
      .ok (1000 * (ms / 1000)) := by
  have some : (Layout.shown.write (.ofMillis ms)).toList.isEmpty = false := by
    simp [toList_shown]
  simp only [resolveSide, strip_padded hfront hback (trimmed_shown _), some, instant?_shown h]
  rfl

theorem resolve_shown :
    resolve now (Layout.shown.write (.ofMillis ms)) = .ok ⟨1000 * (ms / 1000), now⟩ := by
  have side := @resolveSide_shown ms h now [] [] (by simp) (by simp)
  have uncut : sides (strip (Layout.shown.write (.ofMillis ms)).toList) =
      ((Layout.shown.write (.ofMillis ms)).toList, none) := by
    rw [strip_eq_self (trimmed_shown _), sides,
      cutAtFirst_of_not_mem (c := '>') (by simp) (no_arrow_shown _)]
  rw [List.nil_append, List.append_nil] at side
  rw [resolve, uncut]
  simp only [side]
  rfl

theorem resolve_shown_arrow {before after : String} (hbefore : blank before = true)
    (hafter : blank after = true) :
    resolve now (Layout.shown.write (.ofMillis ms) ++ before ++ "->" ++ after ++
        Layout.shown.write (.ofMillis ms)) =
      .ok ⟨1000 * (ms / 1000), 1000 * (ms / 1000)⟩ := by
  rw [blank_iff] at hbefore hafter
  have start := @resolveSide_shown ms h now [] before.toList (by simp) hbefore
  have alone := @resolveSide_shown ms h now [] [] (by simp) (by simp)
  have stop := @strip_padded _ after.toList [] hafter (by simp) (trimmed_shown (.ofMillis ms))
  have arrowless := no_arrow_shown (.ofMillis ms)
  have trimmed := trimmed_shown (.ofMillis ms)
  have written : (Layout.shown.write (.ofMillis ms)).toList ≠ [] := by simp [toList_shown]
  simp only [List.nil_append, List.append_nil] at start alone stop
  have whole : (Layout.shown.write (.ofMillis ms) ++ before ++ "->" ++ after ++
      Layout.shown.write (.ofMillis ms)).toList =
        ((Layout.shown.write (.ofMillis ms)).toList ++ before.toList) ++
          '-' :: '>' :: (after.toList ++ (Layout.shown.write (.ofMillis ms)).toList) := by
    simp
  have outer : Trimmed (((Layout.shown.write (.ofMillis ms)).toList ++ before.toList) ++
      '-' :: '>' :: (after.toList ++ (Layout.shown.write (.ofMillis ms)).toList)) := by
    simpa using trimmed.around trimmed written written
      (before.toList ++ '-' :: '>' :: after.toList)
  have absent : '>' ∉ (Layout.shown.write (.ofMillis ms)).toList ++ before.toList := by
    rw [List.mem_append]
    rintro (hmem | hmem)
    · exact arrowless hmem
    · exact Bool.false_ne_true (hbefore '>' hmem)
  -- the arrow is the first `>`, so that the text is divided there
  rw [resolve, whole, strip_eq_self outer, sides, cutAtFirst_append (by decide) absent]
  simp only [start, Option.map_some, stop]
  cases chars : (Layout.shown.write (.ofMillis ms)).toList with
  | nil => exact absurd chars written
  | cons c cs =>
      simp only [← chars, alone]
      rfl

end

/-- The instants that can be shown are those of the years for which dates are computed. A shown
instant stands for its second on each side of a time range, whatever the present instant is. -/
theorem shown_instants_are_read (ms : Int) :
    ((∃ text, showInstant? ms = some text) ↔ -8334601228800000 ≤ ms ∧ ms ≤ 8210266876799999) ∧
    ∀ text, showInstant? ms = some text → ∀ now : Int,
      resolve now text = .ok ⟨1000 * (ms / 1000), now⟩ ∧
      ∀ before after : String, blank before = true → blank after = true →
        resolve now (text ++ before ++ "->" ++ after ++ text) =
          .ok ⟨1000 * (ms / 1000), 1000 * (ms / 1000)⟩ := by
  constructor
  · rw [← showable_iff, showInstant?]
    split
    case isTrue h => exact ⟨fun _ => h, fun _ => ⟨_, rfl⟩⟩
    case isFalse h => exact ⟨by rintro ⟨_, ⟨⟩⟩, fun yes => absurd yes h⟩
  intro text shown now
  obtain ⟨h, rfl⟩ : showable ms = true ∧ Layout.shown.write (.ofMillis ms) = text := by
    unfold showInstant? at shown
    split at shown
    case isTrue h => exact ⟨h, Option.some.inj shown⟩
    case isFalse => cases shown
  exact ⟨resolve_shown h now, fun before after hbefore hafter =>
    resolve_shown_arrow h now hbefore hafter⟩

theorem shown_instants_are_read_before_zero :
    showInstant? (-62167219200001) = some "-0001-12-31 23:59:59" ∧ blank "\t" = true ∧
      resolve 5 "-0001-12-31 23:59:59" = .ok ⟨-62167219201000, 5⟩ ∧
      resolve 5 "-0001-12-31 23:59:59\t-> -0001-12-31 23:59:59" =
        .ok ⟨-62167219201000, -62167219201000⟩ := by
  have shown : showInstant? (-62167219200001) = some "-0001-12-31 23:59:59" := by decide +kernel
  have tab : blank "\t" = true := by decide +kernel
  obtain ⟨alone, twice⟩ := (shown_instants_are_read (-62167219200001)).2 _ shown 5
  exact ⟨shown, tab, alone, twice "\t" " " tab (by decide +kernel)⟩

end LogQuery.TimeRange
