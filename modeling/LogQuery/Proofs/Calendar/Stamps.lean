import LogQuery.Proofs.Calendar.Clocks

namespace LogQuery.Calendar

open Text

/-- What may stand behind a date, with the milliseconds from midnight in universal time. -/
inductive ClockText : Int → String → Prop where
  | none : ClockText 0 ""
  | hourMinute {separator : Char} {hour minute : Nat} :
      separator = 'T' ∨ separator = ' ' → hour ≤ 23 → minute ≤ 59 →
      ClockText ((hour * 60 + minute) * 60000 : Nat)
        (String.singleton separator ++ ClockTime.hourMinuteText hour minute)
  | time {separator : Char} (t : ClockTime) : separator = 'T' ∨ separator = ' ' →
      ClockText t.millis (String.singleton separator ++ t.text)
  | zoned {separator : Char} {zone : String} {offset : Int} (t : ClockTime) :
      separator = 'T' ∨ separator = 't' ∨ separator = ' ' → OffsetText offset zone →
      ClockText (t.millis - offset * 60000) (String.singleton separator ++ t.text ++ zone)

theorem findSome?_congr {α β : Type} {f g : α → Option β} {as : List α}
    (same : ∀ a ∈ as, f a = g a) :
    as.findSome? f = as.findSome? g := by
  induction as with
  | nil => rfl
  | cons a as ih =>
      obtain ⟨first, others⟩ := List.forall_mem_cons.mp same
      rw [List.findSome?_cons, List.findSome?_cons, first, ih others]

section Valid

variable {d : Date} (writable : d.Writable) (valid : d.Valid)

include writable valid

theorem Date.supported_of_valid : d.Supported := by
  obtain ⟨⟨pos, small⟩, -, -⟩ := writable
  refine ⟨valid, ?_⟩
  simp only [yearInRange, Bool.and_eq_true, decide_eq_true_eq]
  omega

theorem Date.dayNumber_bounds : -719528 ≤ d.dayNumber ∧ d.dayNumber ≤ 2933300 := by
  obtain ⟨⟨pos, small⟩, -, -⟩ := writable
  obtain ⟨⟨-, month⟩, first, last⟩ := valid.inRange
  have months := daysBeforeMonth_le d.year d.month
  have before : -366 ≤ daysBeforeYear d.year := daysBeforeYear_le pos
  have after : daysBeforeYear d.year ≤ 3651694 := daysBeforeYear_le small
  simp only [dayNumber, epochDays]
  omega

theorem read?_date {items : Layout} (clock : ∀ item ∈ items, item.ofClock = true)
    (rest : List Char) :
    Layout.read? (Layout.date ++ items) (d.text.toList ++ rest) =
      Scan.complete? (items.foldlM LayoutItem.read { date := d }) rest := by
  have supported := Date.supported_of_valid writable valid
  have whole : Scan.complete? ((Layout.date ++ items).foldlM LayoutItem.read {})
    (d.text.toList ++ rest) =
      Scan.complete? (items.foldlM LayoutItem.read { date := d }) rest := by
    rw [Scan.complete?, foldlM_date writable, if_pos valid.inRange]
    rfl
  rw [Layout.read?, whole]
  cases found : Scan.complete? (items.foldlM LayoutItem.read { date := d }) rest with
  | none => rfl
  | some m =>
      have same :=
        Layout.gives_foldlM clock { date := d } rest m [] (Scan.complete?_eq_some_iff.mp found)
      exact Option.filter_some_pos (by rw [same]; exact decide_eq_true supported)

theorem instant?_universal {rest : List Char} (unzoned : internetClock d rest = none) :
    instant? (d.text.toList ++ rest) = clockLayouts.findSome? fun items =>
      (Scan.complete? (items.foldlM LayoutItem.read { date := d }) rest).map Moment.millis := by
  have internet : internetTimestamp (d.text.toList ++ rest) = none := by
    rw [internetTimestamp_date writable, unzoned, ite_self]
  have read (items : Layout) (known : items ∈ clockLayouts) :=
    read?_date writable valid (ofClock_of_mem_clockLayouts known) rest
  rw [instant?, zonedInstant?_eq_none internet,
    zonedInstant?_eq_none (mailTimestamp_date writable rest),
    universalLayouts_eq, List.findSome?_map, Function.comp_def,
    findSome?_congr fun items known => congrArg (Option.map Moment.millis) (read items known)]
  rfl

theorem instant?_hourMinute {hour minute : Nat} (hour_le : hour ≤ 23) (minute_le : minute ≤ 59)
    {c : Char} (separates : c = 'T' ∨ c = ' ') :
    instant? (d.text.toList ++ c :: (ClockTime.hourMinuteText hour minute).toList) =
      some (d.dayNumber * 86400000 + ((hour * 60 + minute) * 60000 : Nat)) := by
  have solid : ∀ c ∈ (ClockTime.hourMinuteText hour minute).toList.head?, isBlank c = false := by
    rw [← List.append_nil (ClockTime.hourMinuteText hour minute).toList,
      ClockTime.toList_hourMinuteText_append]
    exact LayoutItem.solid_padDigits 2 hour _
  have long := complete?_time_hourMinute d hour_le minute_le
  have short := complete?_hourMinute d hour_le minute_le
  have millis : Moment.millis { date := d, hour := hour, minute := minute } =
      d.dayNumber * 86400000 + ((hour * 60 + minute) * 60000 : Nat) := by
    simp only [Moment.millis, dayMillis]
    omega
  rw [instant?_universal writable valid
    (internetClock_hourMinute d hour_le minute_le separates), clockLayouts]
  rcases separates with rfl | rfl
  · simp only [List.findSome?_cons, complete?_letter,
      complete?_space_letter _ (rfl : (Layout.time ++ _).head? = _),
      long, short, Option.map_none, Option.map_some, millis]
  · simp only [List.findSome?_cons, complete?_letter_space, complete?_space _ _ solid, long,
      short, Option.map_none, Option.map_some, millis]

theorem instant?_time (t : ClockTime) {c : Char} (separates : c = 'T' ∨ c = ' ') :
    instant? (d.text.toList ++ c :: t.text.toList) =
      some (d.dayNumber * 86400000 + t.millis) := by
  have solid : ∀ c ∈ t.text.toList.head?, isBlank c = false := by
    rw [← List.append_nil t.text.toList, ClockTime.toList_text_append,
      ClockTime.toList_hourMinuteText_append]
    exact LayoutItem.solid_padDigits 2 t.hour _
  have unzoned : internetClock d (c :: t.text.toList) = none := by
    have read :=
      @internetClock_time d t c (separates.imp_right .inr) [] (by rintro _ ⟨⟩) (by rintro _ ⟨⟩)
    rw [List.append_nil] at read
    exact read
  have read := complete?_time d t
  rw [instant?_universal writable valid unzoned, clockLayouts]
  rcases separates with rfl | rfl
  · simp only [List.findSome?_cons, complete?_letter, read, Option.map_some, t.millis_moment]
  · simp only [List.findSome?_cons, complete?_letter_space, complete?_space _ _ solid, read,
      Option.map_none, Option.map_some, t.millis_moment]

theorem supported_zoned (t : ClockTime) {offset : Int} (bounds : -1440 < offset ∧ offset < 1440) :
    ZonedMoment.Supported ⟨t.moment d, offset * 60⟩ := by
  have within : min t.second 59 = t.second := Nat.min_eq_left t.second_le
  have day := t.millis_lt_day
  have number := Date.dayNumber_bounds writable valid
  have millis := t.millis_moment d
  refine ⟨Date.supported_of_valid writable valid, ?_, ?_⟩
  · change (offset * 60).natAbs < 86400
    omega
  · simp only [ClockTime.moment, within, showable_iff] at millis ⊢
    omega

theorem instant?_zoned (t : ClockTime) {c : Char} (separates : c = 'T' ∨ c = 't' ∨ c = ' ')
    {offset : Int} {zone : String} (written : OffsetText offset zone) :
    instant? (d.text.toList ++ c :: (t.text.toList ++ zone.toList)) =
      some (d.dayNumber * 86400000 + (t.millis - offset * 60000)) := by
  obtain ⟨ends, solid⟩ := written.endsDecimals
  have read : internetTimestamp (d.text.toList ++ c :: (t.text.toList ++ zone.toList)) =
      some (⟨t.moment d, offset * 60⟩, []) := by
    obtain ⟨⟨-, month⟩, -, day⟩ := valid.inRange
    rw [internetTimestamp_date writable, if_pos ⟨month, day⟩,
      internetClock_time d t separates ends solid, zone_offsetText written]
    rfl
  have supported := supported_zoned writable valid t written.lt_day
  have millis : ZonedMoment.millis ⟨t.moment d, offset * 60⟩ =
      d.dayNumber * 86400000 + (t.millis - offset * 60000) := by
    simp only [ZonedMoment.millis, t.millis_moment]
    omega
  have kept : (some (⟨t.moment d, offset * 60⟩ : ZonedMoment)).filter (fun z => z.Supported) =
      some ⟨t.moment d, offset * 60⟩ := Option.filter_some_pos (decide_eq_true supported)
  rw [instant?, zonedInstant?, Scan.complete?_eq_some_iff.mpr read, kept, Option.map_some, millis]
  rfl

theorem instant?_of_valid {after : Int} {tail : String} (clock : ClockText after tail) :
    instant? (d.text.toList ++ tail.toList) = some (d.dayNumber * 86400000 + after) := by
  cases clock with
  | none =>
      have midnight : Moment.millis { date := d } = d.dayNumber * 86400000 +
        0 := by simp [Moment.millis, dayMillis]
      rw [instant?_universal writable valid rfl, ← midnight]
      rfl
  | hourMinute separates hour_le minute_le =>
      rw [String.toList_append, String.toList_singleton, List.singleton_append]
      exact instant?_hourMinute writable valid hour_le minute_le separates
  | time t separates =>
      rw [String.toList_append, String.toList_singleton, List.singleton_append]
      exact instant?_time writable valid t separates
  | zoned t separates written =>
      rw [String.toList_append, String.toList_append, String.toList_singleton, List.append_assoc,
        List.singleton_append]
      exact instant?_zoned writable valid t separates written

end Valid

section Texts

/-- Whether a text ends with a character that is not blank. -/
def EndsSolid (cs : List Char) : Prop :=
  cs ≠ [] ∧ ∀ c ∈ cs.getLast?, isBlank c = false

theorem EndsSolid.append {back : List Char} (ends : EndsSolid back) (front : List Char) :
    EndsSolid (front ++ back) := by
  refine ⟨by simp [ends.1], ?_⟩
  rw [List.getLast?_append_of_ne_nil front ends.1]
  exact ends.2

theorem endsSolid_of_digits {cs : List Char} (digits : ∀ c ∈ cs, isDigit c = true)
    (nonempty : cs ≠ []) :
    EndsSolid cs :=
  ⟨nonempty, fun c last => isBlank_of_isDigit (digits c (List.mem_of_getLast? last))⟩

theorem endsSolid_padDigits (width n : Nat) : EndsSolid (padDigits width n).toList :=
  endsSolid_of_digits isDigit_of_mem_padDigits (padDigits_ne_nil width n)

theorem endsSolid_hourMinuteText (hour minute : Nat) :
    EndsSolid (ClockTime.hourMinuteText hour minute).toList := by
  rw [ClockTime.hourMinuteText, String.toList_append]
  exact (endsSolid_padDigits 2 minute).append _

theorem endsSolid_text (t : ClockTime) : EndsSolid t.text.toList := by
  rw [ClockTime.text, String.toList_append, String.toList_ofList, ClockTime.point]
  split
  case isTrue =>
    rw [List.append_nil, String.toList_append]
    exact (endsSolid_padDigits 2 t.second).append _
  case isFalse some => exact ((endsSolid_of_digits t.digits some).append ['.']).append _

theorem endsSolid_offsetText {offset : Int} {zone : String} (written : OffsetText offset zone) :
    EndsSolid zone.toList := by
  cases written with
  | zero | lower => exact ⟨by decide, by simp [isBlank]⟩
  | ahead | behind =>
      rw [String.toList_append]
      exact (endsSolid_hourMinuteText _ _).append _

variable {d : Date} {after : Int} {tail : String}

theorem endsSolid_stamp (d : Date) (clock : ClockText after tail) :
    EndsSolid (d.text ++ tail).toList := by
  cases clock with
  | none =>
      rw [String.append_empty, Date.text, String.toList_append]
      exact (endsSolid_padDigits 2 d.day).append _
  | hourMinute =>
      rw [← String.append_assoc, String.toList_append]
      exact (endsSolid_hourMinuteText _ _).append _
  | time t =>
      rw [← String.append_assoc, String.toList_append]
      exact (endsSolid_text t).append _
  | zoned t separates written =>
      rw [← String.append_assoc, String.toList_append]
      exact (endsSolid_offsetText written).append _

theorem trimmed_stamp (d : Date) (clock : ClockText after tail) :
    Trimmed (d.text ++ tail).toList := by
  refine ⟨?_, (endsSolid_stamp d clock).2⟩
  rw [String.toList_append, Date.toList_text_append]
  exact LayoutItem.solid_padDigits 4 _ _

theorem no_arrow_padDigits (width n : Nat) : '>' ∉ (padDigits width n).toList := fun hmem =>
  Bool.false_ne_true (isDigit_of_mem_padDigits '>' hmem)

theorem no_arrow_hourMinuteText (hour minute : Nat) :
    '>' ∉ (ClockTime.hourMinuteText hour minute).toList := by
  simp [ClockTime.hourMinuteText, no_arrow_padDigits]

theorem no_arrow_text (t : ClockTime) : '>' ∉ t.text.toList := by
  have decimals : '>' ∉ ClockTime.point t.decimals := by
    rw [ClockTime.point]
    split
    · exact List.not_mem_nil
    · exact List.not_mem_cons_of_ne_of_not_mem (by decide) fun hmem =>
        Bool.false_ne_true (t.digits '>' hmem)
  simp [ClockTime.text, no_arrow_hourMinuteText, no_arrow_padDigits, decimals]

theorem no_arrow_offsetText {offset : Int} {zone : String} (written : OffsetText offset zone) :
    '>' ∉ zone.toList := by
  cases written with
  | zero | lower => decide
  | ahead | behind => simp [no_arrow_hourMinuteText]

theorem no_arrow_stamp (d : Date) (clock : ClockText after tail) :
    '>' ∉ (d.text ++ tail).toList := by
  have date : '>' ∉ d.text.toList := by simp [Date.text, no_arrow_padDigits]
  rw [String.toList_append, List.mem_append, not_or]
  refine ⟨date, ?_⟩
  cases clock with
  | none => decide
  | hourMinute separates => rcases separates with rfl | rfl <;> simp [no_arrow_hourMinuteText]
  | time t separates => rcases separates with rfl | rfl <;> simp [no_arrow_text]
  | zoned t separates written =>
      have zone : '>' ∉ _ := no_arrow_offsetText written
      rcases separates with rfl | rfl | rfl <;> simp [no_arrow_text, zone]

end Texts

end LogQuery.Calendar

namespace LogQuery.TimeRange

open Text Calendar

section

variable {text other : String} {now instant : Int} {range : TimeRange} {problem : Problem}

theorem resolveSide_of_resolve (arrowless : ¬['-', '>'] <:+: other.toList)
    (resolved : resolve now other = .ok range) :
    blank other = false ∧ resolveSide now other.toList = .ok range.start := by
  rw [resolve_alone now arrowless] at resolved
  cases side : resolveSide now other.toList with
  | error problem =>
      rw [side] at resolved
      cases resolved
  | ok instant =>
      rw [side] at resolved
      cases resolved
      refine ⟨?_, rfl⟩
      by_contra blanks
      rw [Bool.not_eq_false, blank_iff] at blanks
      rw [resolveSide, strip_of_blank blanks] at side
      cases side

theorem resolve_accepted (arrowless : ¬['-', '>'] <:+: text.toList) (solid : blank text = false)
    (accepted : resolveSide now text.toList = .ok instant) :
    resolve now text = .ok ⟨instant, now⟩ ∧
      (∀ rest, blank rest = true → resolve now (text ++ "->" ++ rest) = .ok ⟨instant, now⟩) ∧
      ∀ other range, ¬['-', '>'] <:+: other.toList → resolve now other = .ok range →
        resolve now (text ++ "->" ++ other) = .ok ⟨instant, range.start⟩ ∧
          resolve now (other ++ "->" ++ text) = .ok ⟨range.start, instant⟩ := by
  refine ⟨?_, fun rest blanks => ?_, fun other range unarrowed resolved => ?_⟩
  · rw [resolve_alone now arrowless, accepted]
    rfl
  · rw [resolve_arrow now arrowless, if_pos blanks, accepted]
    rfl
  · obtain ⟨written, side⟩ := resolveSide_of_resolve unarrowed resolved
    constructor
    · rw [resolve_arrow now arrowless, written, accepted, side]
      rfl
    · rw [resolve_arrow now unarrowed, solid, accepted, side]
      rfl

theorem resolve_refused (arrowless : ¬['-', '>'] <:+: text.toList) (solid : blank text = false)
    (refused : resolveSide now text.toList = .error problem) :
    resolve now text = .error problem ∧
    (∀ other, resolve now (text ++ "->" ++ other) = .error problem) ∧
      ∀ other range, ¬['-', '>'] <:+: other.toList → resolve now other = .ok range →
        resolve now (other ++ "->" ++ text) = .error problem := by
  refine ⟨?_, fun other => ?_, fun other range unarrowed resolved => ?_⟩
  · rw [resolve_alone now arrowless, refused]
    rfl
  · rw [resolve_arrow now arrowless, refused]
    split <;> rfl
  · obtain ⟨-, side⟩ := resolveSide_of_resolve unarrowed resolved
    rw [resolve_arrow now unarrowed, solid, refused, side]
    rfl

end

/-- A timestamp of a date that exists gives the milliseconds to its midnight with those from
there on, as start and as end. A date that does not exist makes an invalid time range in the same
texts. -/
theorem stamps_are_read :
    Date.dayNumber ⟨1970, 1, 1⟩ = 0 ∧
      (∀ d : Date, d.Valid → d.next.Valid ∧ d.next.dayNumber = d.dayNumber + 1) ∧
      ∀ (d : Date) (after : Int) (tail : String), d.Writable → ClockText after tail → ∀ now : Int,
        (d.Valid →
          resolve now (d.text ++ tail) = .ok ⟨d.dayNumber * 86400000 + after, now⟩ ∧
            (∀ rest, blank rest = true →
              resolve now (d.text ++ tail ++ "->" ++ rest) =
                .ok ⟨d.dayNumber * 86400000 + after, now⟩) ∧
            ∀ other range, ¬['-', '>'] <:+: other.toList → resolve now other = .ok range →
              resolve now (d.text ++ tail ++ "->" ++ other) =
                .ok ⟨d.dayNumber * 86400000 + after, range.start⟩ ∧
              resolve now (other ++ "->" ++ (d.text ++ tail)) =
                .ok ⟨range.start, d.dayNumber * 86400000 + after⟩) ∧
        (¬d.Valid → ∃ problem : Problem,
          problem.toQueryError =
              .invalidTimeRange ("'" ++ (d.text ++ tail) ++
                "' is neither a timestamp nor a duration") ∧
            resolve now (d.text ++ tail) = .error problem ∧
            (∀ other, resolve now (d.text ++ tail ++ "->" ++ other) = .error problem) ∧
            ∀ other range, ¬['-', '>'] <:+: other.toList → resolve now other = .ok range →
              resolve now (other ++ "->" ++ (d.text ++ tail)) = .error problem) := by
  refine ⟨rfl, fun d valid => Date.dayNumber_next valid,
    fun d after tail writable clock now => ?_⟩
  have trimmed := trimmed_stamp d clock
  have arrowless : ¬['-', '>'] <:+: (d.text ++ tail).toList := fun arrow =>
    no_arrow_stamp d clock (arrow.subset (by simp))
  have some : (d.text ++ tail).toList.isEmpty = false :=
    List.isEmpty_eq_false_iff.mpr (endsSolid_stamp d clock).1
  have solid : blank (d.text ++ tail) = false := by
    rw [← trim_isEmpty, trim_of_trimmed trimmed, Bool.eq_false_iff, Ne, String.isEmpty_iff,
      ← String.toList_inj]
    exact (endsSolid_stamp d clock).1
  have chars : (d.text ++ tail).toList = d.text.toList ++ tail.toList := String.toList_append
  constructor
  · intro valid
    have read := instant?_of_valid writable valid clock
    refine resolve_accepted arrowless solid ?_
    simp only [resolveSide, strip_eq_self trimmed, some, Bool.false_eq_true, if_false]
    rw [chars, read]
  · intro invalid
    have read := instant?_of_not_valid writable invalid tail.toList
    refine ⟨.unreadableSide (d.text ++ tail), rfl, resolve_refused arrowless solid ?_⟩
    simp only [resolveSide, strip_eq_self trimmed, some, Bool.false_eq_true, if_false,
      String.ofList_toList]
    rw [chars, read, Duration.millis?_date]

theorem stamps_are_read_leap_day :
    resolve 5 "2023-12-31" = .ok ⟨1703980800000, 5⟩ ∧
      resolve 5 "2024-02-29T23:30:00.25-01:30" = .ok ⟨1709254800250, 5⟩ ∧
      resolve 5 ("2023-12-31" ++ "->" ++ "2024-02-29T23:30:00.25-01:30") =
        .ok ⟨1703980800000, 1709254800250⟩ ∧
      ∃ problem : Problem,
        problem.toQueryError =
          .invalidTimeRange "'2023-02-29 10:30' is neither a timestamp nor a duration" ∧
          resolve 5 "2023-02-29 10:30" = .error problem ∧
          resolve 5 ("2023-12-31" ++ "->" ++ "2023-02-29 10:30") = .error problem := by
  let t : ClockTime := ⟨23, 30, 0, ['2', '5'], by decide, by decide, by decide, by simp [isDigit]⟩
  have zoned :=
    @ClockText.zoned 'T' _ _ t (.inl rfl) (@OffsetText.behind 1 30 (by decide) (by decide))
  have short := @ClockText.hourMinute ' ' 10 30 (.inr rfl) (by decide) (by decide)
  have eve : resolve 5 "2023-12-31" = .ok ⟨1703980800000, 5⟩ :=
    ((stamps_are_read.2.2 ⟨2023, 12, 31⟩ _ _
      ⟨by decide, by decide, by decide⟩ .none 5).1 (by decide)).1
  have arrowless : ¬['-', '>'] <:+: "2023-12-31".toList := by decide
  have leap :=
    (stamps_are_read.2.2 ⟨2024, 2, 29⟩ _ _
      ⟨by decide, by decide, by decide⟩ zoned 5).1 (by decide)
  obtain ⟨problem, error, alone, -, stop⟩ :=
    (stamps_are_read.2.2 ⟨2023, 2, 29⟩ _ _
      ⟨by decide, by decide, by decide⟩ short 5).2 (by decide)
  have texts :
      Date.text ⟨2024, 2, 29⟩ ++
        (String.singleton 'T' ++ t.text ++ ("-" ++ ClockTime.hourMinuteText 1 30)) =
        "2024-02-29T23:30:00.25-01:30" ∧
      Date.text ⟨2023, 2, 29⟩ ++ (String.singleton ' ' ++ ClockTime.hourMinuteText 10 30) =
        "2023-02-29 10:30" := by
    decide +kernel
  have instant : Date.dayNumber ⟨2024, 2, 29⟩ * 86400000 +
    (t.millis - -((1 * 60 + 30 : Nat) : Int) * 60000) =
      1709254800250 := by decide +kernel
  rw [texts.1, instant] at leap
  rw [texts.2] at error alone stop
  exact ⟨eve, leap.1, (leap.2.2 _ _ arrowless eve).2, problem, error, alone,
    stop _ _ arrowless eve⟩

end LogQuery.TimeRange
