import LogQuery.Proofs.Calendar.Sides
import LogQuery.Proofs.Text.Joined
import LogQuery.Proofs.Text.Needed
import Mathlib.Algebra.GroupWithZero.Nat

/-!
Durations as they are written: numbers with units, which count back from the present instant. A
duration is read exactly, to the nanosecond, before it is cut to milliseconds, and it is read as
no timestamp.
-/

namespace LogQuery.Calendar

open Text

def TimeUnit.names : TimeUnit → List String
  | nanosecond => ["nanos", "nsec", "ns"]
  | microsecond => ["usec", "us", "µs"]
  | millisecond => ["millis", "msec", "ms"]
  | second => ["seconds", "second", "secs", "sec", "s"]
  | minute => ["minutes", "minute", "min", "mins", "m"]
  | hour => ["hours", "hour", "hr", "hrs", "h"]
  | day => ["days", "day", "d"]
  | week => ["weeks", "week", "wk", "wks", "w"]
  | month => ["months", "month", "M"]
  | year => ["years", "year", "yr", "yrs", "y"]

/-- The length of a unit in nanoseconds. A year has 365.25 days, and a month is close to its
twelfth part. -/
def TimeUnit.nanoseconds : TimeUnit → Nat
  | nanosecond => 1
  | microsecond => 1000
  | millisecond => 1000000
  | second => 1000000000
  | minute => 60 * 1000000000
  | hour => 3600 * 1000000000
  | day => 86400 * 1000000000
  | week => 604800 * 1000000000
  | month => 2630016 * 1000000000
  | year => 31557600 * 1000000000

section Needs

open Scan

theorem needs_internetTimestamp : Needs '-' internetTimestamp :=
  (within_number 4 4).needs_bind fun _ => (needs_char '-').bind _

theorem within_name? (names : List String) : Within (name? names) := by
  intro cs a rest read
  rw [name?] at read
  split at read
  all_goals cases read
  · exact List.drop_subset 3 cs
  · exact List.Subset.refl cs

theorem needs_mailTimestamp : Needs ':' mailTimestamp := by
  refine within_blanks.needs_bind fun _ =>
    (within_name? weekdayNames).needs_bind fun weekday => ?_
  dsimp only
  split
  case' isTrue => refine (within_char ',').needs_bind fun _ => ?_
  all_goals
    refine within_blanks.needs_bind fun _ => (within_number 1 2).needs_bind fun day => ?_
    refine within_someBlanks.needs_bind fun _ =>
      (within_name? monthNames).needs_bind fun month => ?_
    cases month with
    | none => exact fun _ _ => rfl
    | some month =>
        refine within_someBlanks.needs_bind fun _ =>
          (within_allDigits 2).needs_bind fun year => ?_
        refine within_someBlanks.needs_bind fun _ =>
          (within_twoDigits 23).needs_bind fun hour => ?_
        exact within_blanks.needs_bind fun _ => (needs_char ':').bind _

theorem within_readYear : Within LayoutItem.readYear := by
  refine within_blanks.bind fun _ => (within_optionalChar '-').bind fun negative => ?_
  cases negative
  · refine (within_optionalChar '+').bind fun positive => ?_
    cases positive
    · exact (within_number 1 4).bind fun _ => within_pure _
    · exact (within_allDigits 1).bind fun _ => within_pure _
  · exact (within_allDigits 1).bind fun _ => within_pure _

theorem needs_universalLayout (layout : Layout) (known : layout ∈ universalLayouts) :
    Needs '-' (layout.foldlM LayoutItem.read {}) := by
  have begins : ∃ items, layout = .year :: .literal '-' :: items := by
    simp only [universalLayouts, List.mem_cons, List.not_mem_nil, or_false] at known
    rcases known with rfl | rfl | rfl | rfl | rfl
    all_goals exact ⟨_, rfl⟩
  obtain ⟨items, rfl⟩ := begins
  rw [List.foldlM_cons]
  refine (within_readYear.bind fun _ => within_pure _).needs_bind fun m => ?_
  rw [List.foldlM_cons]
  exact ((needs_char '-').bind _).bind _

theorem instant?_of_not_mem {cs : List Char} (hyphen : '-' ∉ cs) (colon : ':' ∉ cs) :
    instant? cs = none := by
  have universal : universalLayouts.findSome? (fun layout =>
      (layout.read? cs).map Moment.millis) = none := by
    refine List.findSome?_eq_none_iff.mpr fun layout known => ?_
    rw [Layout.read?, complete?_of_needs (needs_universalLayout layout known) hyphen]
    rfl
  rw [instant?, zonedInstant?, zonedInstant?, complete?_of_needs needs_internetTimestamp hyphen,
    complete?_of_needs needs_mailTimestamp colon, universal]
  rfl

end Needs

namespace Duration

/-- A number with a unit. -/
structure Part where
  number : Nat
  unit : TimeUnit
deriving DecidableEq, Repr

def Part.nanoseconds (part : Part) : Nat :=
  part.number * part.unit.nanoseconds

/-- The length of some parts in nanoseconds. -/
def total (parts : List Part) : Nat :=
  (parts.map Part.nanoseconds).sum

/-- Whether products and sums fit 64 bits: a number of units, in nanoseconds for units below a
second and in seconds for the others; the nanoseconds below a second that are there with those
that a part adds; and the seconds of the whole. -/
structure Adds (parts : List Part) : Prop where
  products : ∀ part ∈ parts, part.number * part.unit.size ≤ 18446744073709551615
  sums : ∀ front part back, parts = front ++ part :: back → part.unit.belowSecond = true →
    total front % 1000000000 + part.nanoseconds ≤ 18446744073709551615
  seconds : total parts / 1000000000 ≤ 18446744073709551615

/-- Whether a duration stays in range, also as milliseconds, which fit 64 bits with a sign. -/
structure Fits (parts : List Part) : Prop extends Adds parts where
  millis : total parts / 1000000 ≤ 9223372036854775807

/-- The texts of some parts: for each of them digits and a name of the unit, with any blanks
among the digits and around them, and any blanks at the end. -/
inductive Written : List Part → List Char → Prop where
  | nil {blanks : List Char} : (∀ c ∈ blanks, isBlank c = true) → Written [] blanks
  | cons {part : Part} {parts : List Part} {number rest : List Char} {name : String} :
      (∀ c ∈ number, isDigit c = true ∨ isBlank c = true) → number.filter isDigit ≠ [] →
      value (number.filter isDigit) = part.number → name ∈ part.unit.names → Written parts rest →
      Written (part :: parts) (number ++ name.toList ++ rest)

section Units

variable {unit : TimeUnit} {name : String}

theorem ofName?_of_mem_names (hname : name ∈ unit.names) : TimeUnit.ofName? name = some unit := by
  have all : ∀ name ∈ unit.names, TimeUnit.ofName? name = some unit := by cases unit <;> decide
  exact all name hname

theorem isUnitLetter_of_mem_names (hname : name ∈ unit.names) :
    ∀ c ∈ name.toList, isUnitLetter c = true := by
  have all : ∀ name ∈ unit.names, name.toList.all isUnitLetter = true := by cases unit <;> decide
  exact List.all_eq_true.mp (all name hname)

theorem isUnitLetter_of_digit_or_blank {c : Char} (either : isDigit c = true ∨ isBlank c = true) :
    isUnitLetter c = false := by
  have letters : c.isAlpha = (decide (c.val ≥ 'A'.val ∧ c.val ≤ 'Z'.val) ||
      (decide (c.val ≥ 'a'.val) && decide (c.val ≤ 'z'.val))) := rfl
  have other : c.isAlpha = false ∧ c ≠ 'µ' := by
    simp only [isDigit, isBlank, Bool.or_eq_true, Bool.and_eq_true, beq_iff_eq, decide_eq_true_eq,
      Char.le_def, UInt32.le_iff_toNat_le, Char.toNat_val] at either
    simp only [letters, Bool.or_eq_false_iff, ge_iff_le, Bool.decide_and, Bool.and_eq_false_iff,
      decide_eq_false_iff_not, UInt32.le_iff_toNat_le, Char.toNat_val]
    rw [Ne, ← Char.toNat_inj]
    simp at either ⊢
    omega
  rw [isUnitLetter, other.1, beq_false_of_ne other.2]
  rfl

theorem name_ne_nil (hname : name ∈ unit.names) : name.toList ≠ [] := by
  have all : ∀ name ∈ unit.names, name.toList ≠ [] := by cases unit <;> decide
  exact all name hname

theorem nanoseconds_eq (unit : TimeUnit) :
    unit.nanoseconds = if unit.belowSecond then unit.size else unit.size * 1000000000 := by
  cases unit <;> rfl

theorem size_pos (unit : TimeUnit) : 0 < unit.size := by
  cases unit <;> decide

end Units

section Reading

variable {part : Part} {parts : List Part} {number name rest cs : List Char}

/-- Whether a text does not go on with a letter of a unit. -/
def EndsUnit (rest : List Char) : Prop :=
  ∀ c ∈ rest.head?, isUnitLetter c = false

theorem Written.endsUnit (written : Written parts cs) : EndsUnit cs := by
  cases written with
  | nil blanks => exact fun c first =>
    isUnitLetter_of_digit_or_blank (.inr (blanks c (List.mem_of_head? first)))
  | @cons part parts number rest name chars some same named written =>
      obtain ⟨c, cs, rfl⟩ := List.exists_cons_of_ne_nil (mt (congrArg (List.filter isDigit)) some)
      rintro _ ⟨⟩
      exact isUnitLetter_of_digit_or_blank (chars c List.mem_cons_self)

theorem spacedDigits_append (chars : ∀ c ∈ number, isDigit c = true ∨ isBlank c = true)
    (stops : ∀ c ∈ rest.head?, ¬(isDigit c = true ∨ isBlank c = true)) :
    spacedDigits (number ++ rest) = (number.filter isDigit, rest) := by
  induction number with
  | nil =>
      cases rest with
      | nil => rfl
      | cons c rest =>
          obtain ⟨digit, blank⟩ := not_or.mp (stops c rfl)
          simp [spacedDigits, digit, blank]
  | cons c number ih =>
      obtain ⟨first, others⟩ := List.forall_mem_cons.mp chars
      rw [List.cons_append, spacedDigits, ih others, List.filter_cons]
      by_cases digit : isDigit c = true
      · simp [digit]
      · simp [digit, first.resolve_left digit]

/-- Adds one part to a length of time. -/
def plus (sum : Span) (part : Part) : Option Span :=
  (part.unit.times part.number).bind sum.add

theorem addPart?_written {name : String} (sum : Span)
    (chars : ∀ c ∈ number, isDigit c = true ∨ isBlank c = true)
    (some : number.filter isDigit ≠ []) (same : value (number.filter isDigit) = part.number)
    (named : name ∈ part.unit.names) (ends : EndsUnit rest) :
    addPart? sum (number ++ name.toList ++ rest) =
      (plus sum part).map fun sum => (sum, rest) := by
  obtain ⟨c, cs, letters⟩ := List.exists_cons_of_ne_nil (name_ne_nil named)
  have letter : isUnitLetter c = true :=
    isUnitLetter_of_mem_names named c (letters ▸ List.mem_cons_self)
  have digits : spacedDigits (number ++ (name.toList ++ rest)) =
      (number.filter isDigit, name.toList ++ rest) := by
    refine spacedDigits_append chars ?_
    rw [letters]
    rintro _ ⟨⟩ either
    rw [isUnitLetter_of_digit_or_blank either] at letter
    cases letter
  have whole : pointAndDecimals? (name.toList ++ rest) = .some (none, name.toList ++ rest) := by
    rw [letters, List.cons_append, pointAndDecimals?]
    rintro _ ⟨⟩
    cases letter
  obtain ⟨taken, left⟩ := run_append (isUnitLetter_of_mem_names named) ends
  rw [List.append_assoc, addPart?, digits, plus]
  simp only [List.isEmpty_eq_false_iff.mpr some, Bool.false_eq_true, if_false, same]
  by_cases fits : fitsWord part.number = true
  · rw [asWord?, if_pos fits]
    simp only [whole, taken, left, String.ofList_toList, ofName?_of_mem_names named,
      Option.bind_eq_bind, Option.bind_some, Option.map_eq_bind, Option.bind_assoc]
    rfl
  · have product : ¬fitsWord (part.number * part.unit.size) = true := by
      have grows := Nat.le_mul_of_pos_right part.number (size_pos part.unit)
      rw [fitsWord_iff] at fits ⊢
      omega
    have none : part.unit.times part.number =
      none := by rw [TimeUnit.times, asWord?, if_neg product]; rfl
    rw [asWord?, if_neg fits, none]
    rfl

theorem Written.all_isBlank_iff (written : Written parts cs) :
    cs.all isBlank = true ↔ parts = [] := by
  rw [List.all_eq_true]
  cases written with
  | nil blanks => exact iff_of_true blanks rfl
  | @cons part parts number rest name chars some same named written =>
      refine iff_of_false (fun blanks => some ?_) (List.cons_ne_nil part parts)
      refine List.filter_eq_nil_iff.mpr fun c hmem digit => ?_
      have blank := blanks c (List.mem_append_left _ (List.mem_append_left _ hmem))
      rw [isBlank_of_isDigit digit] at blank
      cases blank

theorem addParts?_written (written : Written parts cs) (nonempty : parts ≠ []) {limit : Nat}
    (enough : parts.length ≤ limit) (sum : Span) :
    addParts? limit sum cs = parts.foldlM plus sum := by
  induction written generalizing limit sum with
  | nil => exact absurd rfl nonempty
  | @cons part parts number rest name chars some same named written ih =>
      obtain _ | limit := limit
      · cases enough
      rw [addParts?, addPart?_written sum chars some same named written.endsUnit,
        List.foldlM_cons]
      simp only [Option.bind_eq_bind, Option.bind_map, Function.comp_def, written.all_isBlank_iff]
      refine congrArg (Option.bind (plus sum part)) (funext fun sum => ?_)
      split
      case isTrue last =>
        rw [last]
        rfl
      case isFalse more => exact ih more (Nat.le_of_succ_le_succ enough) sum

theorem Written.length_le (written : Written parts cs) : parts.length ≤ cs.length := by
  induction written with
  | nil => exact Nat.zero_le _
  | cons chars some same named written ih =>
      have letters := List.length_pos_iff.mpr (name_ne_nil named)
      simp only [List.length_cons, List.length_append]
      omega

theorem Written.exists_letter (written : Written parts cs) (nonempty : parts ≠ []) :
    ∃ c ∈ cs, isUnitLetter c = true := by
  cases written with
  | nil => exact absurd rfl nonempty
  | cons chars some same named written =>
      obtain ⟨c, hmem⟩ := List.exists_mem_of_ne_nil _ (name_ne_nil named)
      exact ⟨c, List.mem_append_left _ (List.mem_append_right _ hmem),
        isUnitLetter_of_mem_names named c hmem⟩

theorem span?_written (written : Written parts cs) (nonempty : parts ≠ []) :
    span? cs = parts.foldlM plus ⟨0, 0⟩ := by
  have other : cs ≠ ['0'] := by
    rintro rfl
    obtain ⟨c, hmem, letter⟩ := written.exists_letter nonempty
    rw [List.mem_singleton.mp hmem] at letter
    revert letter
    decide
  rw [span?, if_neg other,
    addParts?_written written nonempty (Nat.le_succ_of_le written.length_le)]

end Reading

section Sums

variable {parts : List Part}

/-- The length of time of some nanoseconds. -/
def spanOf (nanoseconds : Nat) : Span :=
  ⟨nanoseconds / 1000000000, nanoseconds % 1000000000⟩

theorem asWord?_eq (n : Nat) : asWord? n = if n ≤ 18446744073709551615 then some n else none := by
  simp only [asWord?, fitsWord_iff]

theorem add_spanOf (sum seconds nanoseconds : Nat) :
    (spanOf sum).add ⟨seconds, nanoseconds⟩ =
      if sum % 1000000000 + nanoseconds ≤ 18446744073709551615 ∧
          (sum + (seconds * 1000000000 + nanoseconds)) / 1000000000 ≤ 18446744073709551615 then
        some (spanOf (sum + (seconds * 1000000000 + nanoseconds)))
      else none := by
  have carried : sum / 1000000000 + (seconds + (sum % 1000000000 + nanoseconds) / 1000000000) =
      (sum + (seconds * 1000000000 + nanoseconds)) / 1000000000 := by omega
  have left : (sum % 1000000000 + nanoseconds) % 1000000000 =
      (sum + (seconds * 1000000000 + nanoseconds)) % 1000000000 := by omega
  by_cases low : sum % 1000000000 + nanoseconds ≤ 18446744073709551615
  · simp only [Span.add, spanOf, asWord?_eq, low, if_true, Option.bind_eq_bind, Option.bind_some,
      carried, left, true_and]
    split <;> rfl
  · simp only [Span.add, spanOf, asWord?_eq, low, if_false, false_and]
    rfl

theorem plus_spanOf (sum : Nat) (part : Part) :
    plus (spanOf sum) part =
      if part.number * part.unit.size ≤ 18446744073709551615 ∧
          (part.unit.belowSecond = true →
            sum % 1000000000 + part.nanoseconds ≤ 18446744073709551615) ∧
          (sum + part.nanoseconds) / 1000000000 ≤ 18446744073709551615 then
        some (spanOf (sum + part.nanoseconds))
      else none := by
  rw [plus, TimeUnit.times, asWord?_eq, Part.nanoseconds, nanoseconds_eq, mul_ite,
    ← Nat.mul_assoc]
  generalize part.number * part.unit.size = product
  by_cases fits : product ≤ 18446744073709551615
  swap
  · rw [if_neg fits, if_neg fun range => fits range.1]
    rfl
  rw [if_pos fits]
  cases part.unit.belowSecond with
  | false =>
      have small : sum % 1000000000 ≤ 18446744073709551615 := by omega
      simpa [fits, small] using add_spanOf sum product 0
  | true => simpa [fits] using add_spanOf sum 0 product

theorem total_append (front back : List Part) :
    total (front ++ back) = total front + total back := by
  rw [total, List.map_append, List.sum_append, total, total]

theorem total_singleton (part : Part) : total [part] = part.nanoseconds := by
  simp [total]

theorem adds_nil : Adds [] :=
  ⟨by simp, by simp, by simp [total]⟩

theorem adds_concat_iff (parts : List Part) (part : Part) :
    Adds (parts ++ [part]) ↔ Adds parts ∧ part.number * part.unit.size ≤ 18446744073709551615 ∧
      (part.unit.belowSecond = true →
        total parts % 1000000000 + part.nanoseconds ≤ 18446744073709551615) ∧
      (total parts + part.nanoseconds) / 1000000000 ≤ 18446744073709551615 := by
  have whole : total (parts ++ [part]) =
    total parts + part.nanoseconds := by rw [total_append, total_singleton]
  constructor
  · rintro ⟨products, sums, seconds⟩
    rw [whole] at seconds
    rw [List.forall_mem_append, List.forall_mem_singleton] at products
    refine ⟨⟨products.1, fun front part' back split => ?_, by omega⟩, products.2,
      sums parts part [] rfl, seconds⟩
    exact sums front part' (back ++ [part]) (by rw [split, List.append_assoc, List.cons_append])
  · rintro ⟨⟨products, sums, -⟩, product, sum, seconds⟩
    refine ⟨List.forall_mem_append.mpr ⟨products, List.forall_mem_singleton.mpr product⟩, ?_,
      whole ▸ seconds⟩
    intro front part' back split
    rcases List.eq_nil_or_concat back with rfl | ⟨back, last, rfl⟩
    · obtain ⟨rfl, same⟩ := List.append_inj' split rfl
      cases same
      exact sum
    · rw [List.concat_eq_append, ← List.cons_append, ← List.append_assoc] at split
      exact sums front part' back (List.append_inj' split rfl).1

/-- Additions come to the total, as long as they stay in range, and fail otherwise. -/
theorem foldlM_plus_eq_some_iff (parts : List Part) (sum : Span) :
    parts.foldlM plus ⟨0, 0⟩ = some sum ↔ Adds parts ∧ sum = spanOf (total parts) := by
  induction parts using List.reverseRecOn generalizing sum with
  | nil => simp [adds_nil, total, spanOf, eq_comm]
  | append_singleton parts part ih =>
      have last (before : Span) : [part].foldlM plus before = plus before part := by
        simp only [List.foldlM_cons, List.foldlM_nil, bind_pure]
      rw [List.foldlM_append, adds_concat_iff, total_append, total_singleton, Option.bind_eq_bind,
        Option.bind_eq_some_iff]
      simp only [ih, last]
      constructor
      · rintro ⟨_, ⟨front, rfl⟩, added⟩
        rw [plus_spanOf] at added
        split at added
        case isTrue range => exact ⟨⟨front, range⟩, (Option.some.inj added).symm⟩
        case isFalse => cases added
      · rintro ⟨⟨front, range⟩, rfl⟩
        exact ⟨_, ⟨front, rfl⟩, (plus_spanOf _ part).trans (if_pos range)⟩

theorem millis_spanOf (nanoseconds : Nat) :
    (spanOf nanoseconds).millis = nanoseconds / 1000000 := by
  simp only [Span.millis, spanOf]
  omega

/-- A text gives a duration exactly if its parts stay in range: their total, cut to milliseconds
once. -/
theorem millis?_written {parts : List Part} {cs : List Char} (written : Written parts cs)
    (nonempty : parts ≠ []) (millis : Nat) :
    millis? cs = some millis ↔ Fits parts ∧ total parts / 1000000 = millis := by
  rw [millis?, span?_written written nonempty, Option.filter_eq_some_iff]
  simp only [Option.map_eq_some_iff, foldlM_plus_eq_some_iff, fitsInt64_iff]
  constructor
  · rintro ⟨⟨_, ⟨adds, rfl⟩, rfl⟩, -, fits⟩
    rw [millis_spanOf] at fits ⊢
    exact ⟨⟨adds, by omega⟩, rfl⟩
  · rintro ⟨⟨adds, fits⟩, rfl⟩
    exact ⟨⟨_, ⟨adds, rfl⟩, millis_spanOf _⟩, by omega, by omega⟩

end Sums

section Sides

variable {parts : List Part} {cs : List Char}

theorem Written.chars (written : Written parts cs) :
    ∀ c ∈ cs, isDigit c = true ∨ isBlank c = true ∨ isUnitLetter c = true := by
  induction written with
  | nil blanks => exact fun c hmem => .inr (.inl (blanks c hmem))
  | cons chars some same named written ih =>
      simp only [List.forall_mem_append]
      refine ⟨⟨fun c hmem => (chars c hmem).imp_right .inl, fun c hmem => ?_⟩, ih⟩
      exact .inr (.inr (isUnitLetter_of_mem_names named c hmem))

theorem Written.not_mem (written : Written parts cs) {c : Char}
    (other : isDigit c = false ∧ isBlank c = false ∧
    isUnitLetter c = false) : c ∉ cs := by
  intro hmem
  have kind := written.chars c hmem
  simp [other] at kind

theorem filter_isDigit_stripStart (cs : List Char) :
    (Text.stripStart cs).filter isDigit = cs.filter isDigit := by
  have blanks : (cs.takeWhile isBlank).filter isDigit = [] := by
    refine List.filter_eq_nil_iff.mpr fun c hmem digit => ?_
    have blank := List.mem_takeWhile_imp hmem
    rw [isBlank_of_isDigit digit] at blank
    cases blank
  have whole : (cs.takeWhile isBlank ++ Text.stripStart cs).filter isDigit = cs.filter isDigit :=
    congrArg (List.filter isDigit) List.takeWhile_append_dropWhile
  rwa [List.filter_append, blanks] at whole

theorem Written.stripStart (written : Written parts cs) : Written parts (stripStart cs) := by
  cases written with
  | nil blanks =>
      rw [Text.stripStart, List.dropWhile_eq_nil_iff.mpr blanks]
      exact .nil (by simp)
  | @cons part parts number rest name chars some same named written =>
      have kept :
          Text.stripStart (number ++ name.toList ++ rest) = Text.stripStart number ++
            name.toList ++ rest := by
        obtain ⟨c, hmem, digit⟩ :=
          List.exists_mem_of_ne_nil _ some |>.imp fun c => List.mem_filter.mp
        obtain ⟨front, back, rfl⟩ := List.append_of_mem hmem
        simp only [List.append_assoc, List.cons_append,
          stripStart_append_cons (isBlank_of_isDigit digit)]
      rw [← filter_isDigit_stripStart] at some same
      rw [kept]
      exact .cons (fun c hmem => chars c ((List.dropWhile_suffix isBlank).subset hmem))
        some same named written

theorem Written.stripEnd (written : Written parts cs) : Written parts (stripEnd cs) := by
  induction written with
  | nil blanks =>
      rw [stripEnd_eq_nil_iff.mpr blanks]
      exact .nil (by simp)
  | @cons part parts number rest name chars some same named written ih =>
      obtain ⟨letters, c, last⟩ :=
        (List.eq_nil_or_concat name.toList).resolve_left (name_ne_nil named)
      rw [List.concat_eq_append] at last
      have solid : isBlank c = false := by
        by_contra blank
        have letter :=
          isUnitLetter_of_mem_names named c (last ▸ List.mem_append_right _ List.mem_cons_self)
        rw [isUnitLetter_of_digit_or_blank (.inr (by simpa using blank))] at letter
        cases letter
      have kept : Text.stripEnd (number ++ name.toList ++ rest) = number ++ name.toList ++
          Text.stripEnd rest := by
        rw [last]
        simpa using stripEnd_append_cons solid (number ++ letters) rest
      rw [kept]
      exact .cons chars some same named ih

theorem Written.strip (written : Written parts cs) : Written parts (strip cs) :=
  written.stripStart.stripEnd

theorem Written.instant?_eq_none (written : Written parts cs) : instant? cs = none :=
  instant?_of_not_mem (written.not_mem (by decide)) (written.not_mem (by decide))

end Sides

end Duration

end LogQuery.Calendar

namespace LogQuery.TimeRange

open Text Calendar Calendar.Duration

section

variable {parts : List Duration.Part} {text : String}

theorem resolveSide_eq_ok_iff {cs : List Char} (written : Written parts cs)
    (nonempty : parts ≠ []) (now instant : Int) :
    resolveSide now cs = .ok instant ↔ Fits parts ∧
    before now (total parts / 1000000) = instant := by
  have stripped := written.strip
  have some : (strip cs).isEmpty = false := by
    obtain ⟨c, hmem, -⟩ := stripped.exists_letter nonempty
    exact List.isEmpty_eq_false_iff.mpr (List.ne_nil_of_mem hmem)
  have length := millis?_written stripped nonempty
  rw [resolveSide]
  simp only [some, Bool.false_eq_true, if_false, stripped.instant?_eq_none]
  cases read : Duration.millis? (strip cs) with
  | none =>
      have outside : ¬Fits parts := fun fits => by
        have reads := (length _).mpr ⟨fits, rfl⟩
        rw [read] at reads
        cases reads
      simp [outside]
  | some millis =>
      obtain ⟨fits, rfl⟩ := (length millis).mp read
      simp [fits]

theorem arrowless_of_written (written : Written parts text.toList) :
    ¬['-', '>'] <:+: text.toList := fun arrow =>
  written.not_mem (by decide) (arrow.subset List.mem_cons_self)

theorem fitsInt64_before {now : Int} (fits : fitsInt64 now = true) (millis : Nat) :
    fitsInt64 (before now millis) = true := by
  rw [fitsInt64_iff] at fits ⊢
  rw [before, int64Min]
  omega

end

/-- The instant before `now` by some parts, in whole milliseconds, or the earliest one of 64
bits. -/
def back (now : Int) (parts : List Duration.Part) : Int :=
  max (-9223372036854775808) (now - (total parts / 1000000 : Nat))

/-- Durations on the sides of an expression count back from the present instant, cut to
milliseconds once. Whether one is accepted does not depend on that instant, and none is read as a
timestamp. -/
theorem durations_count_back (now : Int) :
    (∀ (first second : List Duration.Part) (start stop : String), first ≠ [] → second ≠ [] →
      Fits first → Fits second → Written first start.toList → Written second stop.toList →
      resolve now (start ++ "->" ++ stop) = .ok ⟨back now first, back now second⟩ ∧
        resolve now start = .ok ⟨back now first, now⟩ ∧
        (∀ rest, blank rest = true →
          resolve now (start ++ "->" ++ rest) = .ok ⟨back now first, now⟩) ∧
        (fitsInt64 now = true → fitsInt64 (back now first) = true ∧
          fitsInt64 (back now second) = true)) ∧
      (∀ (parts : List Duration.Part) (text : String), parts ≠ [] → Written parts text.toList →
        ((∃ range, resolve now text = .ok range) ↔ Fits parts) ∧
        instant? (strip text.toList) = none) ∧
      ∀ expression later, (∃ range, resolve now expression = .ok range) ↔
        ∃ range, resolve later expression = .ok range := by
  refine ⟨
    fun first second start stop first_ne second_ne first_fits second_fits hstart hstop => ?_,
    fun parts text nonempty written => ⟨?_, written.strip.instant?_eq_none⟩,
    fun expression later => ?_⟩
  · have arrowless := arrowless_of_written hstart
    have start_eq := (resolveSide_eq_ok_iff hstart first_ne now _).mpr ⟨first_fits, rfl⟩
    have stop_eq := (resolveSide_eq_ok_iff hstop second_ne now _).mpr ⟨second_fits, rfl⟩
    have solid : blank stop = false := by
      rw [Bool.eq_false_iff, Ne, blank, hstop.all_isBlank_iff]
      exact second_ne
    refine ⟨?_, ?_, fun rest blanks => ?_, fun fits =>
      ⟨fitsInt64_before fits _, fitsInt64_before fits _⟩⟩
    · rw [resolve_arrow now arrowless, solid, start_eq, stop_eq]
      rfl
    · rw [resolve_alone now arrowless, start_eq]
      rfl
    · rw [resolve_arrow now arrowless, if_pos blanks, start_eq]
      rfl
  · rw [resolve_alone now (arrowless_of_written written)]
    have accepted := resolveSide_eq_ok_iff written nonempty now
    constructor
    · rintro ⟨range, resolved⟩
      cases side : resolveSide now text.toList with
      | error problem =>
          rw [side] at resolved
          cases resolved
      | ok instant => exact ((accepted instant).mp side).1
    · intro fits
      exact ⟨_, congrArg (Except.map _) ((accepted _).mpr ⟨fits, rfl⟩)⟩
  · rcases resolve_uniform expression with ⟨problem, refused⟩ | ⟨range, accepted⟩
    · simp only [refused]
    · exact iff_of_true ⟨_, accepted now⟩ ⟨_, accepted later⟩

theorem durations_count_back_submillisecond :
    resolve 10000000 ("1h 30 min" ++ "->" ++ "600us 4 00usec ") = .ok ⟨4600000, 9999999⟩ ∧
      resolve 10000000 "1h 30 min" = .ok ⟨4600000, 10000000⟩ := by
  let first : List Duration.Part := [⟨1, .hour⟩, ⟨30, .minute⟩]
  let second : List Duration.Part := [⟨600, .microsecond⟩, ⟨400, .microsecond⟩]
  have first_fits : Fits first :=
    ⟨(adds_concat_iff [⟨1, .hour⟩] _).mpr ⟨(adds_concat_iff [] _).mpr ⟨adds_nil, by decide⟩,
      by decide⟩, by decide⟩
  have second_fits : Fits second :=
    ⟨(adds_concat_iff [⟨600, .microsecond⟩] _).mpr
      ⟨(adds_concat_iff [] _).mpr ⟨adds_nil, by decide⟩, by decide⟩, by decide⟩
  have written (number : List Char) (name : String) {rest : List Char} {part : Duration.Part}
      {parts : List Duration.Part}
      (checked : number.all (fun c => isDigit c || isBlank c) = true ∧
        number.filter isDigit ≠ [] ∧
        value (number.filter isDigit) = part.number ∧
        name ∈ part.unit.names) (written : Written parts rest) :
      Written (part :: parts) (number ++ name.toList ++ rest) :=
    .cons (by simpa using checked.1) checked.2.1 checked.2.2.1 checked.2.2.2 written
  have none : Written [] [] := .nil (by simp)
  have blank : Written [] [' '] := .nil (by simp [isBlank])
  have start : Written first "1h 30 min".toList :=
    written ['1'] "h" (by decide) (written [' ', '3', '0', ' '] "min" (by decide) none)
  have stop : Written second "600us 4 00usec ".toList :=
    written ['6', '0', '0'] "us" (by decide)
      (written [' ', '4', ' ', '0', '0'] "usec" (by decide) blank)
  have read :=
    (durations_count_back 10000000).1 first second _ _ (by simp [first]) (by simp [second])
      first_fits second_fits start stop
  have instants : back 10000000 first = 4600000 ∧ back 10000000 second = 9999999 := by decide
  rw [instants.1, instants.2] at read
  exact ⟨read.1, read.2.1⟩

end LogQuery.TimeRange
