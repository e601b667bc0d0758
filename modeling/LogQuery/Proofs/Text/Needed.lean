import LogQuery.Proofs.Text.Digits

/-!
Characters that a scan needs. What a scan leaves over is made of characters that were there, so
that a text without a character that is taken at some point cannot be read beyond it.
-/

namespace LogQuery.Text.Scan

variable {α β : Type}

/-- Whether a scan leaves only characters over that the text had. -/
def Within (scan : Scan α) : Prop :=
  ∀ cs a rest, scan cs = some (a, rest) → rest ⊆ cs

/-- Whether a scan fails on every text without the character. -/
def Needs (c : Char) (scan : Scan α) : Prop :=
  ∀ cs, c ∉ cs → scan cs = none

theorem needs_char (c : Char) : Needs c (char c) := by
  intro cs absent
  cases cs with
  | nil => rfl
  | cons d cs => exact if_neg fun same => absent (List.mem_cons.mpr (.inl same.symm))

theorem Needs.bind {c : Char} {scan : Scan α} (needs : Needs c scan) (next : α → Scan β) :
    Needs c (scan >>= next) := by
  intro cs absent
  rw [bind_apply, needs cs absent, Option.bind_none]

theorem Within.needs_bind {c : Char} {scan : Scan α} (within : Within scan) {next : α → Scan β}
    (needs : ∀ a, Needs c (next a)) : Needs c (scan >>= next) := by
  intro cs absent
  rw [bind_apply]
  cases read : scan cs with
  | none => rfl
  | some found => exact needs found.1 found.2 fun hmem => absent (within cs _ _ read hmem)

theorem Within.bind {scan : Scan α} (within : Within scan) {next : α → Scan β}
    (further : ∀ a, Within (next a)) : Within (scan >>= next) := by
  intro cs b rest read
  rw [bind_apply, Option.bind_eq_some_iff] at read
  obtain ⟨⟨a, left⟩, first, second⟩ := read
  exact List.Subset.trans (further a left b rest second) (within cs a left first)

theorem within_pure (a : α) : Within (pure a : Scan α) := by
  rintro cs _ _ ⟨⟩
  exact List.Subset.refl cs

theorem within_fail : Within (fail : Scan α) := by
  rintro cs a rest ⟨⟩

theorem within_char (c : Char) : Within (char c) := by
  intro cs a rest read
  cases cs with
  | nil => cases read
  | cons d cs =>
      rw [char] at read
      split at read
      · cases read
        exact List.subset_cons_self d _
      · cases read

theorem within_optionalChar (c : Char) : Within (optionalChar c) := by
  intro cs a rest read
  cases cs with
  | nil =>
      cases read
      exact List.Subset.refl []
  | cons d cs =>
      rw [optionalChar] at read
      split at read
      · cases read
        exact List.subset_cons_self d _
      · cases read
        exact List.Subset.refl _

theorem within_blanks : Within blanks := by
  rintro cs _ _ ⟨⟩
  exact (List.dropWhile_suffix isBlank).subset

theorem within_someBlanks : Within someBlanks := by
  intro cs a rest read
  cases cs with
  | nil => cases read
  | cons d cs =>
      rw [someBlanks] at read
      split at read
      · cases read
        exact List.Subset.trans (List.dropWhile_suffix isBlank).subset
          (List.subset_cons_self d cs)
      · cases read

theorem splitDigits_subset (limit : Nat) (cs : List Char) : (splitDigits limit cs).2 ⊆ cs := by
  induction cs generalizing limit with
  | nil => cases limit <;> exact List.Subset.refl []
  | cons c cs ih =>
      cases limit with
      | zero => exact List.Subset.refl _
      | succ limit =>
          rw [splitDigits]
          split
          · exact List.Subset.trans (ih limit) (List.subset_cons_self c cs)
          · exact List.Subset.refl _

theorem within_digits (least most : Nat) : Within (digits least most) := by
  intro cs a rest read
  have read : (if least ≤
    (splitDigits most cs).1.length then some (splitDigits most cs) else none) =
      some (a, rest) := read
  split at read
  · have left := splitDigits_subset most cs
    rw [Option.some.inj read] at left
    exact left
  · cases read

theorem within_allDigits (least : Nat) : Within (allDigits least) :=
  fun cs => within_digits least cs.length cs

theorem within_number (least most : Nat) : Within (number least most) :=
  (within_digits least most).bind fun _ => within_pure _

theorem within_twoDigits (most : Nat) : Within (twoDigits most) := by
  refine (within_number 2 2).bind fun n => ?_
  split
  · exact within_pure n
  · exact within_fail

theorem complete?_of_needs {c : Char} {scan : Scan α} (needs : Needs c scan) {cs : List Char}
    (absent : c ∉ cs) :
    complete? scan cs = none := by
  rw [complete?, needs cs absent]

end LogQuery.Text.Scan
