import LogQuery.Text.Blank
import LogQuery.Text.Case
import Mathlib.Tactic.Common

namespace LogQuery.Text

open CaseData

theorem number_of_ofNat_eq {n : Nat} {c : Char} (some : c ≠ Char.ofNat 0)
    (same : Char.ofNat n = c) :
    n = c.toNat := by
  by_cases valid : n.isValidChar
  · rw [← same, Char.ofNat, dif_pos valid]
    rfl
  · rw [Char.ofNat, dif_neg valid] at same
    exact absurd same.symm some

theorem eq_or_exists_run {runs : List (Nat × Nat × Nat × Int)} {n m : Nat}
    (mapped : mapByRuns runs n = m) :
    n = m ∨ ∃ run ∈ runs, run.1 ≤ n ∧ n ≤ run.2.1 ∧ (n + run.2.2.2).toNat = m := by
  unfold mapByRuns at mapped
  split at mapped
  · next first last stride shift found =>
      have within := List.find?_some found
      simp only [Bool.and_eq_true, decide_eq_true_eq] at within
      exact .inr ⟨_, List.mem_of_find?_eq_some found, within.1.1, within.1.2, mapped⟩
  · exact .inl mapped

/-- The characters that fold to a letter are those that a run leads to it, and perhaps itself. -/
theorem toNat_of_foldCase_eq {c d : Char} {others : List Nat} (some : 0 < d.toNat)
    (runs : ∀ run ∈ foldingRuns, (run.1 : Int) ≤ d.toNat - run.2.2.2 →
      d.toNat - run.2.2.2 ≤ run.2.1 →
      (d.toNat - run.2.2.2).toNat ∈ others) (folds : foldCase c = d) :
    c.toNat = d.toNat ∨ c.toNat ∈ others := by
  have nonzero : d ≠ Char.ofNat 0 := by
    rintro rfl
    exact absurd some (by decide)
  rcases eq_or_exists_run (number_of_ofNat_eq nonzero folds) with
    same | ⟨run, hmem, first, last, leads⟩
  · exact .inl same
  · have known := runs run hmem (by omega) (by omega)
    have number : ((d.toNat : Int) - run.2.2.2).toNat = c.toNat := by omega
    exact .inr (number ▸ known)

theorem eq_of_sameLetter_a {c : Char} (same : sameLetter c 'a' = true) : c = 'a' ∨ c = 'A' := by
  have folds : foldCase c = 'a' := by
    rw [sameLetter, beq_iff_eq] at same
    exact same.trans (by decide)
  have numbers := @toNat_of_foldCase_eq c 'a' [65] (by decide) (by decide +kernel) folds
  rw [List.mem_singleton] at numbers
  exact numbers.imp Char.toNat_inj.mp Char.toNat_inj.mp

theorem eq_of_sameLetter_s {c : Char} (same : sameLetter c 's' = true) :
    c = 's' ∨ c = 'S' ∨ c = 'ſ' := by
  have folds : foldCase c = 's' := by
    rw [sameLetter, beq_iff_eq] at same
    exact same.trans (by decide)
  have numbers := @toNat_of_foldCase_eq c 's' [83, 383] (by decide) (by decide +kernel) folds
  rw [List.mem_cons, List.mem_singleton] at numbers
  exact numbers.imp Char.toNat_inj.mp (Or.imp Char.toNat_inj.mp Char.toNat_inj.mp)

section Ascii

variable {c : Char} {cs : List Char}

theorem toNat_lt_of_toLower (ascii : c.toLower.toNat < 128) : c.toNat < 128 := by
  by_cases upper : c.val ≥ 'A'.val ∧ c.val ≤ 'Z'.val
  · have bound : c.toNat ≤ 90 := upper.2
    omega
  · have same : c.toLower = c := dif_neg upper
    rwa [same] at ascii

theorem lowercaseChar_of_ascii (ascii : c.toNat < 128) : lowercaseChar c = [c.toLower] := by
  have table : ∀ n < 128,
    lowercaseChar (Char.ofNat n) = [(Char.ofNat n).toLower] := by decide +kernel
  rw [← Char.ofNat_toNat c]
  exact table c.toNat ascii

theorem isBlank_toLower (c : Char) : isBlank c.toLower = isBlank c := by
  have table : ∀ n < 128,
    isBlank (Char.ofNat n).toLower = isBlank (Char.ofNat n) := by decide +kernel
  by_cases ascii : c.toNat < 128
  · rw [← Char.ofNat_toNat c]
    exact table c.toNat ascii
  · have same : c.toLower = c := by
      refine dif_neg fun upper => ?_
      have bound : c.toNat ≤ 90 := upper.2
      omega
    rw [same]

theorem lowercaseFrom_of_ascii (ascii : ∀ c ∈ cs, c.toNat < 128) (before : List Char) :
    lowercaseFrom before cs = cs.map Char.toLower := by
  induction cs generalizing before with
  | nil => rfl
  | cons c cs ih =>
      obtain ⟨first, others⟩ := List.forall_mem_cons.mp ascii
      have plain : c.toNat ≠ 0x3A3 := by omega
      rw [lowercaseFrom, if_neg plain, lowercaseChar_of_ascii first, ih others, List.map_cons,
        List.singleton_append]

theorem lowercaseFrom_eq {word : List Char} (lower : cs.map Char.toLower = word)
    (ascii : ∀ c ∈ word, c.toNat < 128) : lowercaseFrom [] cs = word := by
  rw [lowercaseFrom_of_ascii _ [], lower]
  intro c hmem
  apply toNat_lt_of_toLower
  apply ascii
  rw [← lower]
  exact List.mem_map_of_mem hmem

end Ascii

end LogQuery.Text
