import LogQuery.Text.Scan
import Mathlib.Algebra.Group.Nat.Defs
import Mathlib.Data.List.Basic

namespace LogQuery.Text

/-- Whether a text does not go on with a digit. -/
def EndsDigits (rest : List Char) : Prop :=
  ∀ c ∈ rest.head?, isDigit c = false

theorem isDigit_eq (c : Char) : isDigit c = c.isDigit := by
  simp only [isDigit, Char.isDigit, Char.le_def]

theorem digit?_of_isDigit {c : Char} (digit : isDigit c = true) :
    digit? c = some (c.toNat - '0'.toNat) := by
  simp only [isDigit, Bool.and_eq_true, decide_eq_true_eq] at digit
  exact if_pos digit

theorem valueFrom_eq {cs : List Char} (digits : ∀ c ∈ cs, isDigit c = true) (acc : Nat) :
    valueFrom acc cs = Nat.ofDigitChars 10 cs acc := by
  induction cs generalizing acc with
  | nil => rfl
  | cons c cs ih =>
      obtain ⟨first, others⟩ := List.forall_mem_cons.mp digits
      rw [Nat.ofDigitChars_cons, ← ih others, Nat.mul_comm]
      change valueFrom (acc * 10 + (digit? c).getD 0) cs = _
      rw [digit?_of_isDigit first]
      rfl

theorem isDigit_of_mem_toDigits {n : Nat} : ∀ c ∈ Nat.toDigits 10 n, isDigit c = true := by
  intro c hmem
  rw [isDigit_eq]
  exact Nat.isDigit_of_mem_toDigits (by decide) (by decide) hmem

theorem value_toDigits (n : Nat) : value (Nat.toDigits 10 n) = n := by
  rw [value, valueFrom_eq isDigit_of_mem_toDigits, Nat.ofDigitChars_ten_toDigits]

theorem fitsWord_iff {n : Nat} : fitsWord n = true ↔ n ≤ 18446744073709551615 := by
  rw [fitsWord, decide_eq_true_iff, wordMax]

theorem fitsInt64_iff {n : Int} :
    fitsInt64 n = true ↔ -9223372036854775808 ≤ n ∧ n ≤ 9223372036854775807 := by
  rw [fitsInt64, Bool.and_eq_true, decide_eq_true_iff, decide_eq_true_iff, int64Min, int64Max]

theorem head?_toDigits {n : Nat} (some : 0 < n) : (Nat.toDigits 10 n).head? ≠ .some '0' := by
  induction n using Nat.strongRecOn with
  | ind n ih =>
      rw [Nat.toDigits_eq_if (by decide)]
      split
      case isTrue small =>
        have nonzero : ∀ d < 10, 0 < d → Nat.digitChar d ≠ '0' := by decide
        simpa using nonzero n small some
      case isFalse large =>
        rw [List.head?_append_of_ne_nil _ Nat.toDigits_ne_nil]
        exact ih (n / 10) (by omega) (by omega)

theorem le_valueFrom (acc : Nat) (ds : List Char) : acc ≤ valueFrom acc ds := by
  induction ds generalizing acc with
  | nil => exact Nat.le_refl acc
  | cons d ds ih =>
      have rest := ih (acc * 10 + (digit? d).getD 0)
      rw [valueFrom, List.foldl_cons, ← valueFrom]
      omega

theorem toList_padDigits (width n : Nat) :
    (padDigits width n).toList =
      List.replicate (width - (Nat.toDigits 10 n).length) '0' ++ Nat.toDigits 10 n := by
  simp [padDigits, ← String.length_toList]

theorem isDigit_of_mem_padDigits {width n : Nat} :
    ∀ c ∈ (padDigits width n).toList, isDigit c = true := by
  intro c hmem
  rw [toList_padDigits, List.mem_append, List.mem_replicate] at hmem
  rcases hmem with ⟨-, rfl⟩ | hmem
  · rfl
  · exact isDigit_of_mem_toDigits c hmem

theorem value_padDigits (width n : Nat) : value (padDigits width n).toList = n := by
  rw [value, valueFrom_eq isDigit_of_mem_padDigits, toList_padDigits, Nat.ofDigitChars_append,
    Nat.ofDigitChars_replicate_zero, Nat.mul_zero, Nat.ofDigitChars_ten_toDigits]

theorem length_padDigits {width n : Nat} (some : 0 < width) (fits : n < 10 ^ width) :
    (padDigits width n).toList.length = width := by
  have short := (Nat.length_toDigits_le_iff (b := 10) (by decide) some).mpr fits
  rw [toList_padDigits, List.length_append, List.length_replicate]
  omega

theorem padDigits_ne_nil (width n : Nat) : (padDigits width n).toList ≠ [] := by
  simp [toList_padDigits, Nat.toDigits_ne_nil]

theorem exists_padDigits_eq (width n : Nat) :
    ∃ c cs, (padDigits width n).toList = c :: cs ∧ isDigit c = true := by
  obtain ⟨c, cs, same⟩ := List.exists_cons_of_ne_nil (padDigits_ne_nil width n)
  exact ⟨c, cs, same, isDigit_of_mem_padDigits c (same ▸ List.mem_cons_self)⟩

theorem isBlank_of_isDigit {c : Char} (digit : isDigit c = true) : isBlank c = false := by
  have bounds : 48 ≤ c.toNat ∧ c.toNat ≤ 57 := by
    simpa [isDigit, Char.le_def, UInt32.le_iff_toNat_le] using digit
  simp only [isBlank]
  grind

namespace Scan

variable {α β : Type}

theorem bind_apply (scan : Scan α) (next : α → Scan β) (cs : List Char) :
    (scan >>= next) cs = (scan cs).bind fun read => next read.1 read.2 :=
  rfl

theorem pure_apply (a : α) (cs : List Char) : (pure a : Scan α) cs = some (a, cs) :=
  rfl

theorem next_cons (c : Char) (cs : List Char) : next (c :: cs) = some (c, cs) :=
  rfl

@[simp] theorem char_cons (c : Char) (cs : List Char) : char c (c :: cs) = some ((), cs) := by
  simp [char]

theorem optionalChar_cons (c : Char) (cs : List Char) :
    optionalChar c (c :: cs) = some (true, cs) := by
  simp [optionalChar]

theorem optionalChar_of_ne {c : Char} {cs : List Char} (other : ∀ d ∈ cs.head?, d ≠ c) :
    optionalChar c cs = some (false, cs) := by
  cases cs with
  | nil => rfl
  | cons d cs => simp [optionalChar, other d rfl]

theorem blanks_of_solid {cs : List Char} (solid : ∀ c ∈ cs.head?, isBlank c = false) :
    blanks cs = some ((), cs) := by
  rw [blanks, stripStart_eq_self solid]

theorem splitDigits_append {limit : Nat} {ds rest : List Char}
    (digits : ∀ d ∈ ds, isDigit d = true) (short : ds.length ≤ limit)
    (ends : ds.length = limit ∨ EndsDigits rest) :
    splitDigits limit (ds ++ rest) = (ds, rest) := by
  induction ds generalizing limit with
  | nil =>
      cases limit with
      | zero => simp [splitDigits]
      | succ limit =>
          have ends : EndsDigits rest := ends.resolve_left (by simp)
          cases rest with
          | nil => rfl
          | cons c cs => simp [splitDigits, ends c rfl]
  | cons d ds ih =>
      obtain ⟨first, others⟩ := List.forall_mem_cons.mp digits
      cases limit with
      | zero => cases short
      | succ limit =>
          have tail := ih others (Nat.le_of_succ_le_succ short)
            (ends.imp_left Nat.succ.inj)
          rw [List.cons_append, splitDigits, if_pos first, tail]

theorem digits_append {least most : Nat} {ds rest : List Char}
    (written : ∀ d ∈ ds, isDigit d = true) (enough : least ≤ ds.length) (short : ds.length ≤ most)
    (ends : ds.length = most ∨ EndsDigits rest) :
    digits least most (ds ++ rest) = some (ds, rest) := by
  rw [digits, splitDigits_append written short ends]
  exact if_pos enough

theorem allDigits_append {least : Nat} {ds rest : List Char}
    (written : ∀ d ∈ ds, isDigit d = true) (enough : least ≤ ds.length) (ends : EndsDigits rest) :
    allDigits least (ds ++ rest) = some (ds, rest) :=
  digits_append written enough (by simp) (.inr ends)

theorem number_append {least most : Nat} {ds rest : List Char}
    (written : ∀ d ∈ ds, isDigit d = true) (enough : least ≤ ds.length) (short : ds.length ≤ most)
    (ends : ds.length = most ∨ EndsDigits rest) :
    number least most (ds ++ rest) = some (value ds, rest) := by
  rw [number, bind_apply, digits_append written enough short ends]
  rfl

theorem number_padDigits {least most n : Nat} (some : 0 < most) (fits : n < 10 ^ most)
    (enough : least ≤ most) (rest : List Char) :
    number least most ((padDigits most n).toList ++ rest) = .some (n, rest) := by
  have width := length_padDigits some fits
  rw [number_append isDigit_of_mem_padDigits (by omega) (by omega) (.inl width), value_padDigits]

theorem number_of_not_digit {least most : Nat} {cs : List Char} (needed : 0 < least)
    (ends : EndsDigits cs) : number least most cs = none := by
  have none : splitDigits most cs = ([], cs) := by
    simpa using @splitDigits_append most [] cs (by simp) (by simp) (.inr ends)
  rw [number, bind_apply, digits, none]
  simp [Nat.ne_of_gt needed]

theorem twoDigits_padDigits {most n : Nat} (fits : n < 100) (bound : n ≤ most)
    (rest : List Char) :
    twoDigits most ((padDigits 2 n).toList ++ rest) = .some (n, rest) := by
  rw [twoDigits, bind_apply, number_padDigits (by decide) fits (Nat.le_refl 2)]
  simp [bound, pure_apply]

end Scan

end LogQuery.Text
