import LogQuery.Proofs.Json.Strings
import LogQuery.Proofs.Text.Digits
import Mathlib.Data.List.TakeWhile

namespace LogQuery.Json

open Text

/-- Whether a text goes on as it does behind a value: with a comma, a bracket, a brace or a new
line, or not at all. -/
def Closes (rest : List Char) : Prop :=
  ∀ c ∈ rest.head?, c = ',' ∨ c = ']' ∨ c = '\x7d' ∨ c = '\n'

theorem closes_nil : Closes [] :=
  nofun

theorem Closes.not_digit {rest : List Char} (closes : Closes rest) :
    ∀ c ∈ rest.head?, isDigit c = false := by
  intro c head
  rcases closes c head with rfl | rfl | rfl | rfl <;> rfl

namespace Reader

variable {negative : Bool} {significand : Nat} {exponent : Int} {number : Numeral}
  {cs left rest : List Char}

theorem takeWhile_append (closes : Closes rest) (cs : List Char) :
    (cs ++ rest).takeWhile isDigit = cs.takeWhile isDigit ∧
      (cs ++ rest).dropWhile isDigit = cs.dropWhile isDigit ++ rest := by
  induction cs with
  | nil =>
      cases rest with
      | nil => exact ⟨rfl, rfl⟩
      | cons c rest =>
          have other := closes.not_digit c rfl
          simp [other]
  | cons c cs ih => cases digit : isDigit c <;> simp [digit, ih]

theorem digits_apply (cs : List Char) :
    digits cs = .ok (cs.takeWhile isDigit, cs.dropWhile isDigit) :=
  rfl

theorem skipDigits_append (closes : Closes rest) {c : Char} (digit : isDigit c = true)
    (cs : List Char) :
    skipDigits (c :: (cs ++ rest)) = .ok ((), cs.dropWhile isDigit ++ rest) := by
  have taken : (discard digits : Reader Unit) (c :: (cs ++ rest)) =
      .ok ((), cs.dropWhile isDigit ++ rest) := by
    refine discard_apply (a := c :: cs.takeWhile isDigit) ?_
    have split := takeWhile_append closes (c :: cs)
    rw [digits_apply, ← List.cons_append, split.1, split.2]
    simp [digit]
  simp [skipDigits, digit, taken]

theorem realOf_eq_ok (reads : realOf negative significand exponent cs = .ok (number, left)) :
    left = cs ∧ ∀ others, realOf negative significand exponent others = .ok (number, others) := by
  unfold realOf at reads ⊢
  cases found : floatOf? significand exponent with
  | none => simp only [found] at reads; cases reads
  | some x =>
      simp only [found] at reads ⊢
      cases reads
      exact ⟨rfl, fun others => rfl⟩

/-! ### Exponents -/

/-- The sign of an exponent, which says whether it is negative, and what stands behind it. -/
def signed (cs : List Char) : Bool × List Char :=
  if cs.head? = some '+' then (false, cs.tail)
  else if cs.head? = some '-' then (true, cs.tail)
  else (false, cs)

theorem signed_append (closes : Closes rest) (cs : List Char) :
    signed (cs ++ rest) = ((signed cs).1, (signed cs).2 ++ rest) := by
  cases cs with
  | nil =>
      have plus : rest.head? ≠ some '+' := fun head => by simpa using closes '+' head
      have minus : rest.head? ≠ some '-' := fun head => by simpa using closes '-' head
      simp [signed, plus, minus]
  | cons c cs =>
      simp only [signed, List.cons_append, List.head?_cons, List.tail_cons]
      by_cases plus : some c = some '+'
      · simp [plus]
      · by_cases minus : some c = some '-' <;> simp [plus, minus]

/-- The exponent of a number, from behind its sign. -/
def exponentDigits (negative : Bool) (significand : Nat) (exponent : Int) (down : Bool) :
    Reader Numeral := do
  let first ← next .endInValue
  if !isDigit first then failHere .invalidNumber
  let cs ← digits
  let power := Text.value (first :: cs)
  if power > 2147483647 then
    if significand ≠ 0 ∧ !down then failHere .numberOutOfRange
    else return .real (if negative then -0.0 else 0.0)
  else realOf negative significand (if down then exponent - power else exponent + power)

theorem exponentPart_cons {c : Char} (either : c = 'e' ∨ c = 'E') (cs : List Char) :
    exponentPart negative significand exponent (c :: cs) =
      exponentDigits negative significand exponent (signed cs).1 (signed cs).2 := by
  cases cs with
  | nil => rcases either with rfl | rfl <;> rfl
  | cons sign cs =>
      by_cases plus : sign = '+'
      · subst plus
        rcases either with rfl | rfl <;> rfl
      · by_cases minus : sign = '-'
        · subst minus
          rcases either with rfl | rfl <;> rfl
        · rcases either with rfl | rfl <;>
            simp [exponentPart, exponentDigits, signed, plus, minus]

theorem skipExponent_cons {c : Char} (either : c = 'e' ∨ c = 'E') (cs : List Char) :
    skipExponent (c :: cs) = skipDigits (signed cs).2 := by
  cases cs with
  | nil => rcases either with rfl | rfl <;> rfl
  | cons sign cs =>
      by_cases plus : sign = '+'
      · subst plus
        rcases either with rfl | rfl <;> rfl
      · by_cases minus : sign = '-'
        · subst minus
          rcases either with rfl | rfl <;> rfl
        · rcases either with rfl | rfl <;> simp [skipExponent, signed, plus, minus]

theorem exponentPart_of_ne (other : ∀ c ∈ cs.head?, c ≠ 'e' ∧ c ≠ 'E') :
    exponentPart negative significand exponent cs = realOf negative significand exponent cs := by
  cases cs with
  | nil => rfl
  | cons c cs =>
      obtain ⟨small, large⟩ := other c rfl
      simp [exponentPart, small, large]

theorem skipExponent_of_ne (other : ∀ c ∈ cs.head?, c ≠ 'e' ∧ c ≠ 'E') :
    skipExponent cs = .ok ((), cs) := by
  cases cs with
  | nil => rfl
  | cons c cs =>
      obtain ⟨small, large⟩ := other c rfl
      simp [skipExponent, small, large]

theorem exponentDigits_append {down : Bool}
    (reads : exponentDigits negative significand exponent down cs = .ok (number, left))
    (closes : Closes rest) :
    exponentDigits negative significand exponent down (cs ++ rest) = .ok (number, left ++ rest) ∧
      skipDigits (cs ++ rest) = .ok ((), left ++ rest) := by
  cases cs with
  | nil => cases reads
  | cons c cs =>
      cases digit : isDigit c with
      | false =>
          simp [exponentDigits, digit] at reads
      | true =>
          -- what is read depends on the digits in front alone, and all that is behind them is
          -- left
          have shape (ds : List Char) :
              exponentDigits negative significand exponent down (c :: ds) =
                (if 2147483647 < Text.value (c :: ds.takeWhile isDigit) then
                if significand ≠ 0 ∧ !down then failHere .numberOutOfRange
                else pure (.real (if negative then -0.0 else 0.0))
              else realOf negative significand
                (if down then exponent - Text.value (c :: ds.takeWhile isDigit)
                else exponent + Text.value (c :: ds.takeWhile isDigit)) : Reader Numeral)
                (ds.dropWhile isDigit) := by
            simp [exponentDigits, digit, digits_apply]
          have split := takeWhile_append closes cs
          rw [List.cons_append, shape, split.1, split.2, skipDigits_append closes digit]
          rw [shape] at reads
          by_cases large : 2147483647 < Text.value (c :: cs.takeWhile isDigit)
          · rw [if_pos large] at reads ⊢
            by_cases far : significand ≠ 0 ∧ (!down) = true
            · rw [if_pos far] at reads
              cases reads
            · rw [if_neg far] at reads ⊢
              cases reads
              exact ⟨rfl, rfl⟩
          · rw [if_neg large] at reads ⊢
            obtain ⟨rfl, again⟩ := realOf_eq_ok reads
            exact ⟨again _, rfl⟩

theorem exponentPart_append
    (reads : exponentPart negative significand exponent cs = .ok (number, left))
    (closes : Closes rest) :
    exponentPart negative significand exponent (cs ++ rest) = .ok (number, left ++ rest) ∧
      skipExponent (cs ++ rest) = .ok ((), left ++ rest) := by
  by_cases other : ∀ c ∈ cs.head?, c ≠ 'e' ∧ c ≠ 'E'
  · have behind : ∀ c ∈ (cs ++ rest).head?, c ≠ 'e' ∧ c ≠ 'E' := by
      cases cs with
      | nil =>
          intro c head
          rcases closes c head with rfl | rfl | rfl | rfl <;> decide
      | cons c cs => exact other
    rw [exponentPart_of_ne other] at reads
    obtain ⟨rfl, again⟩ := realOf_eq_ok reads
    rw [exponentPart_of_ne behind, skipExponent_of_ne behind]
    exact ⟨again _, rfl⟩
  · cases cs with
    | nil => exact absurd nofun other
    | cons c cs =>
        have either : c = 'e' ∨ c = 'E' := by simpa [or_iff_not_imp_left] using other
        rw [exponentPart_cons either] at reads
        rw [List.cons_append, exponentPart_cons either, skipExponent_cons either,
          signed_append closes]
        exact exponentDigits_append reads closes

/-! ### Decimals and whole numbers -/

theorem decimalPart_append
    (reads : decimalPart negative significand exponent cs = .ok (number, left))
    (closes : Closes rest) :
    decimalPart negative significand exponent (cs ++ rest) = .ok (number, left ++ rest) ∧
      (skipDigits >>= fun _ => skipExponent) (cs ++ rest) = .ok ((), left ++ rest) := by
  have shape (ds : List Char) (some : ds.takeWhile isDigit ≠ []) :
      decimalPart negative significand exponent ds =
        exponentPart negative (takeWord significand (ds.takeWhile isDigit)).1
          (exponent - (takeWord significand (ds.takeWhile isDigit)).2)
            (ds.dropWhile isDigit) := by
    simp [decimalPart, digits_apply, some]
  have split := takeWhile_append closes cs
  by_cases none : cs.takeWhile isDigit = []
  · rw [decimalPart, bind_apply, digits_apply] at reads
    cases behind : cs.dropWhile isDigit <;> simp [none, behind] at reads
  · rw [shape cs none] at reads
    rw [shape (cs ++ rest) (by rw [split.1]; exact none), split.1, split.2]
    obtain ⟨again, skips⟩ := exponentPart_append reads closes
    refine ⟨again, ?_⟩
    cases cs with
    | nil => exact absurd rfl none
    | cons c cs =>
        cases digit : isDigit c with
        | false => simp [digit] at none
        | true =>
            rw [bind_apply, List.cons_append, skipDigits_append closes digit]
            simpa [digit] using skips

/-- A number without decimals and exponent. -/
def wholeNumber (negative : Bool) (significand dropped : Nat) : Reader Numeral :=
  if dropped > 0 then realOf negative significand dropped
  else if !negative then return .integer significand
  else if significand ≠ 0 ∧ fitsInt64 (-significand) then return .integer (-significand)
  else return .real (-significand.toUInt64.toFloat)

/-- What stands behind the whole part of a number. -/
def wholeTail (negative : Bool) (significand dropped : Nat) : Reader Numeral := do
  match ← peek with
  | some '.' => skip; decimalPart negative significand dropped
  | some 'e' | some 'E' => exponentPart negative significand dropped
  | _ => wholeNumber negative significand dropped

/-- Skips what stands behind the whole part of a number. -/
def skipTail : Reader Unit := do
  match ← peek with
  | some '.' => do skip; skipDigits
  | _ => pure ()
  skipExponent

/-- Skips a number from behind its sign. -/
def skipUnsigned : Reader Unit := do
  match ← peek with
  | some '0' =>
    skip
    match ← peek with
    | some c => if isDigit c then failAtNext .invalidNumber
    | none => pure ()
  | _ => skipDigits
  skipTail

theorem skipNumber_eq :
    skipNumber = (do
      match ← peek with
      | some '-' => do skip; skipUnsigned
      | _ => skipUnsigned : Reader Unit) := by
  rfl

theorem numeralTail_cons {c : Char} (digit : isDigit c = true)
    (zeros : ¬(c = '0' ∧ cs.takeWhile isDigit ≠ [])) :
    numeralTail negative (c :: cs) =
      wholeTail negative (takeWord 0 (c :: cs.takeWhile isDigit)).1
        ((cs.takeWhile isDigit).length + 1 - (takeWord 0 (c :: cs.takeWhile isDigit)).2)
        (cs.dropWhile isDigit) := by
  have alone : (decide (c = '0') && !(cs.takeWhile isDigit).isEmpty) =
    false := by simpa using zeros
  simp only [numeralTail, bind_apply, next_cons, ok_bind, digit, digits_apply, if_apply, alone]
  rfl

theorem skipUnsigned_cons {c : Char} (digit : isDigit c = true)
    (zeros : ¬(c = '0' ∧ cs.takeWhile isDigit ≠ [])) :
    skipUnsigned (c :: cs) = skipTail (cs.dropWhile isDigit) := by
  by_cases zero : c = '0'
  · subst zero
    cases cs with
    | nil => rfl
    | cons d cs =>
        have other : isDigit d = false := by
          cases digit : isDigit d with
          | false => rfl
          | true => simp [digit] at zeros
        simp [skipUnsigned, other]
  · have skips := skipDigits_append closes_nil digit cs
    simp only [List.append_nil] at skips
    simp [skipUnsigned, zero, skips]

theorem wholeNumber_eq_ok {dropped : Nat}
    (reads : wholeNumber negative significand dropped cs = .ok (number, left)) :
    left = cs ∧
    ∀ others, wholeNumber negative significand dropped others = .ok (number, others) := by
  unfold wholeNumber at reads ⊢
  by_cases far : dropped > 0
  · simp only [if_pos far] at reads ⊢
    exact realOf_eq_ok reads
  · simp only [if_neg far] at reads ⊢
    by_cases plain : (!negative) = true
    · simp only [if_pos plain] at reads ⊢
      cases reads
      exact ⟨rfl, fun others => rfl⟩
    · simp only [if_neg plain] at reads ⊢
      by_cases fits : significand ≠ 0 ∧ fitsInt64 (-significand) = true
      · simp only [if_pos fits] at reads ⊢
        cases reads
        exact ⟨rfl, fun others => rfl⟩
      · simp only [if_neg fits] at reads ⊢
        cases reads
        exact ⟨rfl, fun others => rfl⟩

theorem wholeTail_of_ne {dropped : Nat} (other : ∀ c ∈ cs.head?, c ≠ '.' ∧ c ≠ 'e' ∧ c ≠ 'E') :
    wholeTail negative significand dropped cs = wholeNumber negative significand dropped cs := by
  cases cs with
  | nil => rfl
  | cons c cs =>
      obtain ⟨point, small, large⟩ := other c rfl
      simp [wholeTail, point, small, large]

theorem wholeTail_cons {dropped : Nat} {c : Char} (either : c = 'e' ∨ c = 'E') (cs : List Char) :
    wholeTail negative significand dropped (c :: cs) =
      exponentPart negative significand dropped (c :: cs) := by
  rcases either with rfl | rfl <;> rfl

theorem skipTail_of_ne (other : ∀ c ∈ cs.head?, c ≠ '.') : skipTail cs = skipExponent cs := by
  cases cs with
  | nil => rfl
  | cons c cs => simp [skipTail, other c rfl]

theorem wholeTail_append {dropped : Nat}
    (reads : wholeTail negative significand dropped cs = .ok (number, left))
    (closes : Closes rest) :
    wholeTail negative significand dropped (cs ++ rest) = .ok (number, left ++ rest) ∧
      skipTail (cs ++ rest) = .ok ((), left ++ rest) := by
  -- neither a point nor an exponent comes next, with the rest behind it or without
  have whole {cs : List Char} (other : ∀ c ∈ cs.head?, c ≠ '.' ∧ c ≠ 'e' ∧ c ≠ 'E')
      (behind : ∀ c ∈ (cs ++ rest).head?, c ≠ '.' ∧ c ≠ 'e' ∧ c ≠ 'E')
      (reads : wholeTail negative significand dropped cs = .ok (number, left)) :
      wholeTail negative significand dropped (cs ++ rest) = .ok (number, left ++ rest) ∧
        skipTail (cs ++ rest) = .ok ((), left ++ rest) := by
    rw [wholeTail_of_ne other] at reads
    obtain ⟨rfl, again⟩ := wholeNumber_eq_ok reads
    rw [wholeTail_of_ne behind, skipTail_of_ne fun c head => (behind c head).1,
      skipExponent_of_ne fun c head => (behind c head).2]
    exact ⟨again _, rfl⟩
  cases cs with
  | nil =>
      refine whole nofun (fun c head => ?_) reads
      rcases closes c head with rfl | rfl | rfl | rfl <;> decide
  | cons c cs =>
      by_cases point : c = '.'
      · subst point
        exact decimalPart_append reads closes
      · by_cases either : c = 'e' ∨ c = 'E'
        · rw [wholeTail_cons either] at reads
          rw [List.cons_append, wholeTail_cons either, skipTail_of_ne (by simpa using point)]
          exact exponentPart_append reads closes
        · have other : ∀ d ∈ (c :: cs).head?, d ≠ '.' ∧ d ≠ 'e' ∧ d ≠ 'E' := by
            simpa [point] using either
          exact whole other other reads

theorem numeralTail_append (reads : numeralTail negative cs = .ok (number, left))
    (closes : Closes rest) :
    numeralTail negative (cs ++ rest) = .ok (number, left ++ rest) ∧
      skipUnsigned (cs ++ rest) = .ok ((), left ++ rest) := by
  cases cs with
  | nil => cases reads
  | cons c cs =>
      cases digit : isDigit c with
      | false => simp [numeralTail, digit] at reads
      | true =>
          have split := takeWhile_append closes cs
          by_cases zeros : c = '0' ∧ cs.takeWhile isDigit ≠ []
          · simp only [numeralTail, bind_apply, next_cons, ok_bind, digit, digits_apply,
              if_apply] at reads
            simp [zeros] at reads
          · rw [numeralTail_cons digit zeros] at reads
            rw [List.cons_append, numeralTail_cons digit (by rwa [split.1]),
              skipUnsigned_cons digit (by rwa [split.1]), split.1, split.2]
            exact wholeTail_append reads closes

theorem numeral_append (reads : numeral cs = .ok (number, left)) (closes : Closes rest) :
    numeral (cs ++ rest) = .ok (number, left ++ rest) ∧
      skipNumber (cs ++ rest) = .ok ((), left ++ rest) := by
  cases cs with
  | nil => cases reads
  | cons c cs =>
      by_cases minus : c = '-'
      · subst minus
        exact numeralTail_append reads closes
      · have shape (ds : List Char) : numeral (c :: ds) = numeralTail false (c :: ds) := by
          simp [numeral, minus]
        rw [shape] at reads
        rw [List.cons_append, shape, skipNumber_eq, bind_apply, peek_apply, ok_bind]
        simpa [minus] using numeralTail_append reads closes

theorem numeral_begins (reads : numeral cs = .ok (number, left)) :
    ∃ c ds, cs = c :: ds ∧ (c = '-' ∨ isDigit c = true) := by
  cases cs with
  | nil => cases reads
  | cons c cs =>
      refine ⟨c, cs, rfl, ?_⟩
      by_contra other
      simp only [not_or, Bool.not_eq_true] at other
      simp [numeral, numeralTail, other.1, other.2] at reads

/-! ### Integers -/

theorem takeWord_of_fits {acc : Nat} {ds : List Char}
    (fits : fitsWord (valueFrom acc ds) = true) :
    takeWord acc ds = (valueFrom acc ds, ds.length) := by
  induction ds generalizing acc with
  | nil => rfl
  | cons d ds ih =>
      have longer : valueFrom acc (d :: ds) = valueFrom (acc * 10 + (digit? d).getD 0) ds := rfl
      rw [longer] at fits ⊢
      have within : fitsWord (acc * 10 + (digit? d).getD 0) = true := by
        have grows := le_valueFrom (acc * 10 + (digit? d).getD 0) ds
        simp only [fitsWord, decide_eq_true_eq] at fits ⊢
        omega
      simp [takeWord, within, ih fits]

theorem numeralTail_toDigits {n : Nat} (fits : fitsWord n = true) :
    numeralTail negative (Nat.toDigits 10 n) = wholeNumber negative n 0 [] := by
  have digits := @isDigit_of_mem_toDigits n
  have number := value_toDigits n
  have front (some : 0 < n) := head?_toDigits some
  cases chars : Nat.toDigits 10 n with
  | nil => exact absurd chars Nat.toDigits_ne_nil
  | cons c cs =>
      rw [chars] at digits number front
      obtain ⟨digit, others⟩ := List.forall_mem_cons.mp digits
      have taken : cs.takeWhile isDigit = cs := List.takeWhile_eq_self_iff.mpr others
      have dropped : cs.dropWhile isDigit = [] := List.dropWhile_eq_nil_iff.mpr others
      have zeros : ¬(c = '0' ∧ cs.takeWhile isDigit ≠ []) := by
        -- a zero in front is the whole numeral
        rintro ⟨rfl, more⟩
        have zero : n = 0 := Nat.eq_zero_of_not_pos fun some => front some rfl
        rw [zero, Nat.toDigits_zero] at chars
        cases chars
        exact more rfl
      rw [numeralTail_cons digit zeros, taken, dropped,
        takeWord_of_fits (by rwa [← Text.value, number]),
        List.length_cons, Nat.sub_self, ← Text.value, number]
      rfl

/-- Whether an integer is one of 64 bits, with a sign or without. -/
def Fits64 (n : Int) : Prop :=
  fitsInt64 n = true ∨ Shape.fitsUnsigned n = true

theorem numeral_toString {n : Int} (fits : Fits64 n) :
    numeral (toString n).toList = .ok (.integer n, []) := by
  rw [Fits64, fitsInt64_iff, Shape.fitsUnsigned, Bool.and_eq_true, decide_eq_true_iff,
    fitsWord_iff] at fits
  cases n with
  | ofNat m =>
      have word : fitsWord m = true := by
        rw [fitsWord_iff]
        simp only [Int.ofNat_eq_natCast, Int.toNat_natCast] at fits
        omega
      have written : (toString (Int.ofNat m)).toList = Nat.toDigits 10 m := by
        simp [Int.toString_eq_repr, Int.repr, Nat.repr]
      have shape : numeral (Nat.toDigits 10 m) = numeralTail false (Nat.toDigits 10 m) := by
        cases chars : Nat.toDigits 10 m with
        | nil => rfl
        | cons c cs =>
            have digit : isDigit c = true :=
              isDigit_of_mem_toDigits c (chars ▸ List.mem_cons_self)
            have minus : c ≠ '-' := by
              rintro rfl
              cases digit
            simp [numeral, minus]
      rw [written, shape, numeralTail_toDigits word]
      rfl
  | negSucc m =>
      have word : fitsWord (m + 1) = true := by
        rw [fitsWord_iff]
        omega
      have small : m + 1 ≠ 0 ∧ fitsInt64 (-(m + 1 : Nat)) = true := by
        rw [fitsInt64_iff]
        omega
      have written : (toString (Int.negSucc m)).toList = '-' :: Nat.toDigits 10 (m + 1) := by
        simp [Int.toString_eq_repr, Int.repr, Nat.repr]
      have behind : numeral ('-' :: Nat.toDigits 10 (m + 1)) =
          numeralTail true (Nat.toDigits 10 (m + 1)) :=
        rfl
      rw [written, behind, numeralTail_toDigits word, wholeNumber, if_neg (by decide),
        if_neg (by decide), if_pos small]
      rfl

end Reader

end LogQuery.Json
