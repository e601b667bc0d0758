import LogQuery.Text.Numeral

namespace LogQuery.Text

/-- Whether a text writes an integer of 32 bits: digits, behind a sign or not. -/
def WritesInt32 (text : List Char) (n : Int) : Prop :=
  ∃ sign digits, text = sign ++ digits ∧ digits ≠ [] ∧ (∀ d ∈ digits, isDigit d = true) ∧
    ((sign = [] ∨ sign = ['+']) ∧ n = value digits ∨ sign = ['-'] ∧ n = -(value digits : Int)) ∧
    -2147483648 ≤ n ∧ n ≤ 2147483647

theorem not_writesInt32_nil (n : Int) : ¬WritesInt32 [] n := by
  rintro ⟨sign, digits, chars, some, -⟩
  exact some (List.append_eq_nil_iff.mp chars.symm).2

theorem unsigned?_eq_some_iff {cs : List Char} {v : Nat} :
    unsigned? cs = some v ↔ cs ≠ [] ∧ (∀ d ∈ cs, isDigit d = true) ∧ v = value cs := by
  rw [← List.all_eq_true, unsigned?]
  cases cs with
  | nil => simp
  | cons c cs => cases (c :: cs).all isDigit <;> simp [eq_comm]

theorem integer?_minus (cs : List Char) :
    integer? ('-' :: cs) = (unsigned? cs).map fun v => -Int.ofNat v := by
  rw [integer?]
  cases unsigned? cs <;> rfl

theorem integer?_of_unsigned {cs : List Char} (plus : ∀ digits, cs ≠ '+' :: digits)
    (minus : ∀ digits, cs ≠ '-' :: digits) : integer? cs = (unsigned? cs).map Int.ofNat := by
  unfold integer?
  split
  · exact absurd rfl (plus _)
  · exact absurd rfl (minus _)
  · rfl

theorem integer?_eq_some_iff {cs : List Char} {n : Int} :
    integer? cs = some n ↔ ∃ sign digits, cs = sign ++ digits ∧ digits ≠ [] ∧
      (∀ d ∈ digits, isDigit d = true) ∧
      ((sign = [] ∨ sign = ['+']) ∧ n = value digits ∨ sign = ['-'] ∧
        n = -(value digits : Int)) := by
  have unsigned {digits : List Char} {f : Nat → Int} :
      (unsigned? digits).map f = some n ↔
        digits ≠ [] ∧ (∀ d ∈ digits, isDigit d = true) ∧ n = f (value digits) := by
    simp only [Option.map_eq_some_iff, unsigned?_eq_some_iff, and_assoc]
    constructor
    · rintro ⟨v, some, all, rfl, rfl⟩
      exact ⟨some, all, rfl⟩
    · rintro ⟨some, all, rfl⟩
      exact ⟨_, some, all, rfl, rfl⟩
  constructor
  · intro read
    by_cases plus : ∃ digits, cs = '+' :: digits
    · obtain ⟨digits, rfl⟩ := plus
      obtain ⟨some, all, same⟩ := unsigned.mp read
      exact ⟨['+'], digits, rfl, some, all, .inl ⟨.inr rfl, same⟩⟩
    by_cases minus : ∃ digits, cs = '-' :: digits
    · obtain ⟨digits, rfl⟩ := minus
      rw [integer?_minus] at read
      obtain ⟨some, all, same⟩ := unsigned.mp read
      exact ⟨['-'], digits, rfl, some, all, .inr ⟨rfl, same⟩⟩
    rw [integer?_of_unsigned (not_exists.mp plus) (not_exists.mp minus)] at read
    obtain ⟨some, all, same⟩ := unsigned.mp read
    exact ⟨[], cs, rfl, some, all, .inl ⟨.inl rfl, same⟩⟩
  · rintro ⟨sign, digits, rfl, some, all, (⟨rfl | rfl, rfl⟩ | ⟨rfl, rfl⟩)⟩
    · have unlike {c : Char} (other : isDigit c = false)
          (rest : List Char) : digits ≠ c :: rest := by
        rintro rfl
        simp [other] at all
      rw [List.nil_append, integer?_of_unsigned (unlike (by decide)) (unlike (by decide))]
      exact unsigned.mpr ⟨some, all, rfl⟩
    · exact unsigned.mpr ⟨some, all, rfl⟩
    · rw [List.singleton_append, integer?_minus]
      exact unsigned.mpr ⟨some, all, rfl⟩

theorem int32?_eq_some_iff {s : String} {n : Int} :
    int32? s = some n ↔ WritesInt32 s.toList n := by
  have fits : fitsInt32 n = true ↔ -2147483648 ≤ n ∧ n ≤ 2147483647 := by simp [fitsInt32]
  rw [int32?, Option.filter_eq_some_iff, integer?_eq_some_iff, fits]
  constructor
  · rintro ⟨⟨sign, digits, chars, some, all, known⟩, range⟩
    exact ⟨sign, digits, chars, some, all, known, range⟩
  · rintro ⟨sign, digits, chars, some, all, known, range⟩
    exact ⟨⟨sign, digits, chars, some, all, known⟩, range⟩

end LogQuery.Text
