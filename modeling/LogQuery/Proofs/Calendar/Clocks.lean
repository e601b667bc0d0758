import LogQuery.Proofs.Calendar.Dates
import Mathlib.Tactic.Ring

namespace LogQuery.Text

theorem valueFrom_eq_add (acc : Nat) (cs : List Char) :
    valueFrom acc cs = acc * 10 ^ cs.length + value cs := by
  induction cs generalizing acc with
  | nil => simp [value, valueFrom]
  | cons c cs ih =>
      have step (acc : Nat) : valueFrom acc (c :: cs) =
        valueFrom (acc * 10 + (digit? c).getD 0) cs := rfl
      rw [value, step, step, ih, ih (0 * 10 + _), List.length_cons]
      ring

theorem value_append (front back : List Char) :
    value (front ++ back) = value front * 10 ^ back.length + value back := by
  have parts : value (front ++ back) = valueFrom (value front) back := List.foldl_append
  rw [parts, valueFrom_eq_add]

theorem value_lt (cs : List Char) : value cs < 10 ^ cs.length := by
  induction cs using List.reverseRecOn with
  | nil => decide
  | append_singleton cs c ih =>
      have last : value [c] ≤ 9 := by
        change 0 * 10 + (digit? c).getD 0 ≤ 9
        unfold digit?
        split
        case isTrue digit =>
          have high : c.toNat ≤ 57 := by simpa [Char.le_def, UInt32.le_iff_toNat_le] using digit.2
          have zero : '0'.toNat = 48 := rfl
          simp only [Option.getD_some]
          omega
        case isFalse => decide
      rw [value_append, List.length_append, List.length_singleton, pow_succ]
      omega

end LogQuery.Text

namespace LogQuery.Calendar

open Text

/-- A time of day, with the decimals of its second. -/
structure ClockTime where
  hour : Nat
  minute : Nat
  second : Nat
  decimals : List Char
  hour_le : hour ≤ 23
  minute_le : minute ≤ 59
  second_le : second ≤ 59
  digits : ∀ c ∈ decimals, isDigit c = true

namespace ClockTime

/-- The whole milliseconds since midnight. -/
def millis (t : ClockTime) : Nat :=
  ((t.hour * 60 + t.minute) * 60 + t.second) * 1000 + value t.decimals *
    1000 / 10 ^ t.decimals.length

/-- The decimals of a second behind a point, which is left out with them. -/
def point (decimals : List Char) : List Char :=
  if decimals = [] then [] else '.' :: decimals

/-- Hour and minute with two digits each. -/
def hourMinuteText (hour minute : Nat) : String :=
  padDigits 2 hour ++ ":" ++ padDigits 2 minute

def text (t : ClockTime) : String :=
  hourMinuteText t.hour t.minute ++ ":" ++ padDigits 2 t.second ++
    String.ofList (point t.decimals)

end ClockTime

/-- The texts of an offset in minutes that is less than a day. -/
inductive OffsetText : Int → String → Prop where
  | zero : OffsetText 0 "Z"
  | lower : OffsetText 0 "z"
  | ahead {hours minutes : Nat} : hours ≤ 23 → minutes ≤ 59 →
      OffsetText (hours * 60 + minutes : Nat) ("+" ++ ClockTime.hourMinuteText hours minutes)
  | behind {hours minutes : Nat} : hours ≤ 23 → minutes ≤ 59 →
      OffsetText (-(hours * 60 + minutes : Nat)) ("-" ++ ClockTime.hourMinuteText hours minutes)

/-- Decimals are cut to milliseconds, be they more than nine or fewer. -/
theorem LayoutItem.nanosecondsOf_div (decimals : List Char) :
    LayoutItem.nanosecondsOf decimals / 1000000 =
      value decimals * 1000 / 10 ^ decimals.length := by
  rw [LayoutItem.nanosecondsOf]
  rcases Nat.le_total decimals.length 9 with few | many
  · have scale : 10 ^ decimals.length * 10 ^ (9 - decimals.length) = 1000000 * 1000 := by
      rw [← pow_add, Nat.add_sub_cancel' few]
      rfl
    calc value (decimals.take 9) * 10 ^ (9 - (decimals.take 9).length) / 1000000
      _ = value decimals *
        10 ^ (9 - decimals.length) / 1000000 := by rw [List.take_of_length_le few]
      _ = value decimals * 10 ^ (9 - decimals.length) * 1000 / (1000000 * 1000) :=
        (Nat.mul_div_mul_right _ _ (by decide)).symm
      _ = value decimals * 1000 * 10 ^ (9 - decimals.length) /
            (10 ^ decimals.length *
              10 ^ (9 - decimals.length)) := by rw [scale, Nat.mul_right_comm]
      _ = value decimals * 1000 / 10 ^ decimals.length :=
        Nat.mul_div_mul_right _ _ (Nat.pow_pos (by decide))
  · obtain ⟨front, back, rfl, width⟩ : ∃ front back, decimals = front ++ back ∧
        front.length = 9 :=
      ⟨_, _, (List.take_append_drop 9 decimals).symm, List.length_take_of_le many⟩
    have kept : (front ++ back).take 9 = front := by rw [← width, List.take_left]
    have dropped : value back / 10 ^ back.length = 0 := Nat.div_eq_of_lt (value_lt back)
    calc value ((front ++ back).take 9) * 10 ^ (9 - ((front ++ back).take 9).length) / 1000000
      _ = value front / 1000000 := by rw [kept, width, Nat.sub_self, pow_zero, Nat.mul_one]
      _ = (10 ^ back.length * value front + value back) / 10 ^ back.length / 1000000 := by
        rw [Nat.mul_add_div (Nat.pow_pos (by decide)), dropped, Nat.add_zero]
      _ = value (front ++ back) / (10 ^ back.length * 1000000) := by
        rw [value_append, Nat.div_div_eq_div_mul, Nat.mul_comm (value front)]
      _ = value (front ++ back) * 1000 / (10 ^ back.length * 1000000 * 1000) :=
        (Nat.mul_div_mul_right _ _ (by decide)).symm
      _ = value (front ++ back) * 1000 / 10 ^ (front ++ back).length := by
        rw [List.length_append, width, pow_add, Nat.mul_assoc, Nat.mul_comm (10 ^ back.length)]
        rfl

theorem ClockTime.toList_hourMinuteText_append (hour minute : Nat) (rest : List Char) :
    (hourMinuteText hour minute).toList ++ rest =
      (padDigits 2 hour).toList ++ ':' :: ((padDigits 2 minute).toList ++ rest) := by
  simp [hourMinuteText]

theorem ClockTime.toList_text_append (t : ClockTime) (rest : List Char) :
    t.text.toList ++ rest = (hourMinuteText t.hour t.minute).toList ++ ':' ::
    ((padDigits 2 t.second).toList ++
      (point t.decimals ++ rest)) := by
  simp [text]

theorem foldlM_hourMinute {hour minute : Nat} (hour_le : hour ≤ 23) (minute_le : minute ≤ 59)
    (target : Moment) (items : Layout) (rest : List Char) :
    (Layout.hourMinute ++ items).foldlM LayoutItem.read target
        ((ClockTime.hourMinuteText hour minute).toList ++ rest) =
      items.foldlM LayoutItem.read { target with hour := hour, minute := minute } rest := by
  rw [ClockTime.toList_hourMinuteText_append, Layout.hourMinute]
  simp only [List.cons_append, List.nil_append, List.foldlM_cons, LayoutItem.read,
    Scan.bind_apply, Option.bind_some, Scan.char_cons,
    LayoutItem.readBounded_padDigits (n := hour) ⟨Nat.zero_le _, hour_le⟩ (by omega),
    LayoutItem.readBounded_padDigits (n := minute) ⟨Nat.zero_le _, minute_le⟩ (by omega),
    Scan.pure_apply]

theorem readFraction_point {decimals rest : List Char} (digits : ∀ c ∈ decimals, isDigit c = true)
    (ends : EndsDigits rest) (solid : ∀ c ∈ rest.head?, c ≠ '.') :
    LayoutItem.readFraction (ClockTime.point decimals ++ rest) =
      some (LayoutItem.nanosecondsOf decimals, rest) := by
  rw [LayoutItem.readFraction, Scan.bind_apply, ClockTime.point]
  split
  case isTrue none =>
    rw [List.nil_append, Scan.optionalChar_of_ne solid, none]
    rfl
  case isFalse some =>
    rw [List.cons_append, Scan.optionalChar_cons]
    simp only [Option.bind_some, if_true, Scan.bind_apply,
      Scan.allDigits_append digits (List.length_pos_iff.mpr some) ends]
    rfl

def ClockTime.moment (t : ClockTime) (d : Date) : Moment :=
  { date := d, hour := t.hour, minute := t.minute, second := t.second
    nanosecond := LayoutItem.nanosecondsOf t.decimals }

theorem ClockTime.millis_moment (t : ClockTime) (d : Date) :
    (t.moment d).millis = d.dayNumber * 86400000 + t.millis := by
  rw [Moment.millis, moment, LayoutItem.nanosecondsOf_div, millis, dayMillis]

theorem complete?_time (d : Date) (t : ClockTime) :
    Scan.complete? ((Layout.time ++ [LayoutItem.fraction]).foldlM LayoutItem.read { date := d })
    t.text.toList = some (t.moment d) := by
  have second_le := t.second_le
  have fraction := @readFraction_point _ [] t.digits (by rintro _ ⟨⟩) (by rintro _ ⟨⟩)
  have text := t.toList_text_append []
  rw [List.append_nil] at text
  rw [Scan.complete?_eq_some_iff, text, Layout.time, List.append_assoc,
    foldlM_hourMinute t.hour_le t.minute_le]
  simp only [List.cons_append, List.nil_append, List.foldlM_cons, List.foldlM_nil,
    LayoutItem.read, Scan.bind_apply, Option.bind_some,
    LayoutItem.readBounded_padDigits (n := t.second) ⟨Nat.zero_le _,
      Nat.le_succ_of_le t.second_le⟩
      (by omega), Scan.char_cons, Scan.pure_apply, fraction]
  rfl

section

variable (d : Date) {hour minute : Nat} (hour_le : hour ≤ 23) (minute_le : minute ≤ 59)

include hour_le minute_le

theorem complete?_hourMinute :
    Scan.complete? (Layout.hourMinute.foldlM LayoutItem.read { date := d })
        (ClockTime.hourMinuteText hour minute).toList =
      some { date := d, hour := hour, minute := minute } := by
  have read := foldlM_hourMinute hour_le minute_le { date := d } [] []
  rw [List.append_nil, List.append_nil] at read
  rw [Scan.complete?_eq_some_iff, read]
  rfl

theorem complete?_time_hourMinute :
    Scan.complete? ((Layout.time ++ [LayoutItem.fraction]).foldlM LayoutItem.read { date := d })
      (ClockTime.hourMinuteText hour minute).toList = none := by
  have read :=
    foldlM_hourMinute hour_le minute_le { date := d } [.literal ':', .second, .fraction] []
  rw [List.append_nil] at read
  have none : (Layout.time ++ [LayoutItem.fraction]).foldlM LayoutItem.read { date := d }
      (ClockTime.hourMinuteText hour minute).toList = none := read
  rw [Scan.complete?, none]

end

theorem internetClock_time (d : Date) (t : ClockTime) {c : Char}
    (separates : c = 'T' ∨ c = 't' ∨ c = ' ') {rest : List Char} (ends : EndsDigits rest)
    (solid : ∀ c ∈ rest.head?, c ≠ '.') :
    internetClock d (c :: (t.text.toList ++ rest)) =
      (internetTimestamp.zone rest).map fun read => (⟨t.moment d, read.1⟩, read.2) := by
  obtain ⟨hour, minute, second, decimals, hour_le, minute_le, second_le, digits⟩ := t
  have known : (decide (c = 'T') || decide (c = 't') || decide (c = ' ')) = true := by
    simpa [or_assoc] using separates
  have fraction := readFraction_point digits ends solid
  rw [ClockTime.toList_text_append, ClockTime.toList_hourMinuteText_append, internetClock]
  simp only [Scan.bind_apply, Scan.next_cons, Option.bind_some, known, if_true, Scan.char_cons,
    fraction, Scan.twoDigits_padDigits (n := hour) (by omega) hour_le,
    Scan.twoDigits_padDigits (n := minute) (by omega) minute_le,
    Scan.twoDigits_padDigits (n := second) (by omega) (Nat.le_succ_of_le second_le),
    Scan.pure_apply]
  rw [Option.map_eq_bind]
  rfl

theorem internetClock_hourMinute (d : Date) {hour minute : Nat} (hour_le : hour ≤ 23)
    (minute_le : minute ≤ 59) {c : Char} (separates : c = 'T' ∨ c = ' ') :
    internetClock d (c :: (ClockTime.hourMinuteText hour minute).toList) = none := by
  have known : (decide (c = 'T') || decide (c = 't') || decide (c = ' ')) = true := by
    rcases separates with rfl | rfl <;> decide
  have text := ClockTime.toList_hourMinuteText_append hour minute []
  rw [List.append_nil] at text
  rw [text, internetClock]
  simp only [Scan.bind_apply, Scan.next_cons, Option.bind_some, known, if_true, Scan.char_cons,
    Scan.twoDigits_padDigits (n := hour) (by omega) hour_le,
    Scan.twoDigits_padDigits (n := minute) (by omega) minute_le]
  rfl

theorem zone_signed {sign : Char} {factor : Int}
    (signs : sign = '+' ∧ factor = 1 ∨ sign = '-' ∧ factor = -1) {hours minutes : Nat}
    (hours_le : hours ≤ 23) (minutes_le : minutes ≤ 59) :
    internetTimestamp.zone (sign :: (ClockTime.hourMinuteText hours minutes).toList) =
      some (factor * ((hours * 60 + minutes) * 60 : Nat), []) := by
  have text := ClockTime.toList_hourMinuteText_append hours minutes []
  rw [List.append_nil] at text
  have signed : signedOffset true true (sign :: (ClockTime.hourMinuteText hours minutes).toList) =
      some (factor * ((hours * 60 + minutes) * 60 : Nat), []) := by
    have known : offsetSign true (sign :: (ClockTime.hourMinuteText hours minutes).toList) =
        some (factor, (ClockTime.hourMinuteText hours minutes).toList) := by
      rcases signs with ⟨rfl, rfl⟩ | ⟨rfl, rfl⟩ <;> rfl
    rw [signedOffset, Scan.bind_apply, known, text]
    simp only [Option.bind_some, Scan.bind_apply,
      Scan.number_padDigits (n := hours) (by decide) (by omega)
      (Nat.le_refl 2), if_true, Scan.char_cons,
      Scan.twoDigits_padDigits (n := minutes) (by omega) minutes_le]
    rfl
  have small : (factor * ((hours * 60 + minutes) * 60 : Nat)).natAbs ≤ (23 * 60 + 59) * 60 := by
    rcases signs with ⟨-, rfl⟩ | ⟨-, rfl⟩ <;> omega
  rw [internetTimestamp.zone, Scan.bind_apply, Scan.peek, Option.bind_some, List.head?_cons]
  have chosen : (signedOffset true true >>= fun offset : Int =>
      if offset.natAbs ≤ (23 * 60 + 59) * 60 then pure offset else Scan.fail)
        (sign :: (ClockTime.hourMinuteText hours minutes).toList) =
      some (factor * ((hours * 60 + minutes) * 60 : Nat), []) := by
    rw [Scan.bind_apply, signed, Option.bind_some, if_pos small]
    rfl
  rcases signs with ⟨rfl, -⟩ | ⟨rfl, -⟩
  all_goals exact chosen

theorem zone_offsetText {offset : Int} {zone : String} (written : OffsetText offset zone) :
    internetTimestamp.zone zone.toList = some (offset * 60, []) := by
  cases written with
  | zero => rfl
  | lower => rfl
  | @ahead hours minutes hours_le minutes_le =>
      have chars : ("+" ++ ClockTime.hourMinuteText hours minutes).toList =
          '+' :: (ClockTime.hourMinuteText hours minutes).toList := by simp
      have seconds : ((hours * 60 + minutes : Nat) : Int) * 60 =
        1 * ((hours * 60 + minutes) * 60 : Nat) := by omega
      rw [chars, seconds]
      exact zone_signed (.inl ⟨rfl, rfl⟩) hours_le minutes_le
  | @behind hours minutes hours_le minutes_le =>
      have chars : ("-" ++ ClockTime.hourMinuteText hours minutes).toList =
          '-' :: (ClockTime.hourMinuteText hours minutes).toList := by simp
      have seconds : -((hours * 60 + minutes : Nat) : Int) * 60 =
          -1 * ((hours * 60 + minutes) * 60 : Nat) := by
        omega
      rw [chars, seconds]
      exact zone_signed (.inr ⟨rfl, rfl⟩) hours_le minutes_le

/-- An offset begins with a sign or a letter, and so it does not go on with the decimals before
it. -/
theorem OffsetText.endsDecimals {offset : Int} {zone : String}
    (written : OffsetText offset zone) :
    EndsDigits zone.toList ∧ ∀ c ∈ zone.toList.head?, c ≠ '.' := by
  obtain ⟨c, cs, chars, digit, point⟩ : ∃ c cs, zone.toList = c :: cs ∧
      isDigit c = false ∧ c ≠ '.' := by
    cases written with
    | zero | lower => exact ⟨_, _, rfl, by decide, by decide⟩
    | ahead | behind => exact ⟨_, _, by rw [String.toList_append]; rfl, by decide, by decide⟩
  rw [chars]
  constructor
  all_goals
    rintro _ ⟨⟩
    assumption

theorem OffsetText.lt_day {offset : Int} {zone : String} (written : OffsetText offset zone) :
    -1440 < offset ∧ offset < 1440 := by
  cases written <;> omega

theorem ClockTime.millis_lt_day (t : ClockTime) : t.millis < 86400000 := by
  have decimals : value t.decimals * 1000 / 10 ^ t.decimals.length < 1000 := by
    rw [Nat.div_lt_iff_lt_mul (Nat.pow_pos (by decide)), Nat.mul_comm]
    exact Nat.mul_lt_mul_of_pos_left (value_lt t.decimals) (by decide)
  have bounds := And.intro t.hour_le (And.intro t.minute_le t.second_le)
  rw [millis]
  omega

section Separators

variable (items : Layout) (target : Moment)

theorem complete?_letter (cs : List Char) :
    Scan.complete? (List.foldlM LayoutItem.read target (.literal 'T' :: items)) ('T' :: cs) =
      Scan.complete? (List.foldlM LayoutItem.read target items) cs := by
  rw [Scan.complete?, List.foldlM_cons]
  rfl

theorem complete?_letter_space (cs : List Char) :
    Scan.complete? (List.foldlM LayoutItem.read target (.literal 'T' :: items))
      (' ' :: cs) = none := by
  rw [Scan.complete?, List.foldlM_cons]
  rfl

theorem complete?_space {cs : List Char} (solid : ∀ c ∈ cs.head?, isBlank c = false) :
    Scan.complete? (List.foldlM LayoutItem.read target (.space :: items)) (' ' :: cs) =
      Scan.complete? (List.foldlM LayoutItem.read target items) cs := by
  have blanks : Scan.blanks (' ' :: cs) = some ((), cs) := by
    have skip : stripStart (' ' :: cs) = stripStart cs := rfl
    rw [Scan.blanks, skip, stripStart_eq_self solid]
  rw [Scan.complete?, List.foldlM_cons, LayoutItem.read, Scan.bind_apply, Scan.bind_apply, blanks]
  rfl

theorem complete?_space_letter {items : Layout} (begins : items.head? = some .hour)
    (cs : List Char) :
    Scan.complete? (List.foldlM LayoutItem.read target (.space :: items)) ('T' :: cs) = none := by
  obtain ⟨items, rfl⟩ := List.head?_eq_some_iff.mp begins
  rw [Scan.complete?, List.foldlM_cons]
  rfl

end Separators

end LogQuery.Calendar
