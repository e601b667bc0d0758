namespace LogQuery.Keyed

variable {κ α : Type} [BEq κ]

/-- Gives a key a value, in place of an old one. -/
def put (key : κ) (value : α) (pairs : List (κ × α)) : List (κ × α) :=
  (key, value) :: pairs.filter fun pair => pair.1 != key

def erase (key : κ) (pairs : List (κ × α)) : List (κ × α) :=
  pairs.filter fun pair => pair.1 != key

variable [LawfulBEq κ]

theorem lookup_cons_of_ne {key other : κ} (h : other ≠ key) (value : α) (pairs : List (κ × α)) :
    List.lookup other ((key, value) :: pairs) = pairs.lookup other := by
  have differ : (other == key) = false := by simpa using h
  simp [List.lookup_cons, differ]

theorem lookup_erase_self (key : κ) (pairs : List (κ × α)) :
    (erase key pairs).lookup key = none := by
  induction pairs with
  | nil => rfl
  | cons pair pairs ih =>
    obtain ⟨name, value⟩ := pair
    unfold erase at ih ⊢
    by_cases h : name = key
    · simpa [h] using ih
    · rw [List.filter_cons_of_pos (by simpa using h), lookup_cons_of_ne (Ne.symm h), ih]

theorem lookup_erase_of_ne {key other : κ} (h : other ≠ key) (pairs : List (κ × α)) :
    (erase key pairs).lookup other = pairs.lookup other := by
  induction pairs with
  | nil => rfl
  | cons pair pairs ih =>
    obtain ⟨name, value⟩ := pair
    unfold erase at ih ⊢
    by_cases hk : name = key
    · rw [List.filter_cons_of_neg (by simpa using hk), ih, lookup_cons_of_ne (hk ▸ h)]
    · rw [List.filter_cons_of_pos (by simpa using hk)]
      simp only [List.lookup_cons, ih]

theorem lookup_put_self (key : κ) (value : α) (pairs : List (κ × α)) :
    (put key value pairs).lookup key = some value := by
  simp [put]

theorem lookup_put_of_ne {key other : κ} (h : other ≠ key) (value : α) (pairs : List (κ × α)) :
    (put key value pairs).lookup other = pairs.lookup other :=
  (lookup_cons_of_ne h value _).trans (lookup_erase_of_ne h pairs)

end LogQuery.Keyed
