import LogQuery.TimeRange
import LogQuery.Proofs.Text.Blank
import Mathlib.Data.List.Infix

namespace LogQuery.Text

theorem cutAtFirst_eq_none_iff {needle : List Char} (some : needle ≠ []) {cs : List Char} :
    cutAtFirst needle cs = none ↔ ¬needle <:+: cs := by
  induction cs with
  | nil => simp [cutAtFirst, some]
  | cons c cs ih =>
      rw [List.infix_cons_iff, not_or, ← ih, cutAtFirst, ← List.isPrefixOf_iff_prefix]
      split <;> simp_all

/-- The text before the first arrow has none, even where it ends as an arrow begins. -/
theorem cutAtFirst_arrow {front : List Char} (arrowless : ¬['-', '>'] <:+: front)
    (back : List Char) :
    cutAtFirst ['-', '>'] (front ++ '-' :: '>' :: back) = some (front, back) := by
  induction front with
  | nil => simp [cutAtFirst]
  | cons c front ih =>
      rw [List.infix_cons_iff, not_or] at arrowless
      have other : ¬['-', '>'].isPrefixOf (c :: (front ++ '-' :: '>' :: back)) = true := by
        rw [List.isPrefixOf_iff_prefix]
        cases front with
        | nil => simp
        | cons d front => simpa using arrowless.1
      rw [List.cons_append, cutAtFirst, if_neg other, ih arrowless.2]
      rfl

end LogQuery.Text

namespace LogQuery.TimeRange

open Text Calendar

variable {side other : List Char} {start stop : String}

theorem resolveSide_congr (now : Int) (same : strip side = strip other) :
    resolveSide now side = resolveSide now other := by
  rw [resolveSide, resolveSide, same]

theorem resolve_alone (now : Int) (arrowless : ¬['-', '>'] <:+: start.toList) :
    resolve now start = (resolveSide now start.toList).map fun instant => ⟨instant, now⟩ := by
  have inside : strip start.toList <:+: start.toList :=
    (stripEnd_prefix_self _).isInfix.trans (List.dropWhile_suffix isBlank).isInfix
  have uncut : cutAtFirst ['-', '>'] (strip start.toList) = none :=
    (cutAtFirst_eq_none_iff (by simp)).mpr fun arrow => arrowless (arrow.trans inside)
  have stripped : resolveSide now (strip start.toList) = resolveSide now start.toList :=
    resolveSide_congr now (strip_strip _)
  rw [resolve, sides, uncut]
  simp only [stripped, Option.map_none]
  rfl

theorem resolve_arrow (now : Int) (arrowless : ¬['-', '>'] <:+: start.toList) (stop : String) :
    resolve now (start ++ "->" ++ stop) =
      if blank stop then (resolveSide now start.toList).map fun instant => ⟨instant, now⟩
      else do return ⟨← resolveSide now start.toList, ← resolveSide now stop.toList⟩ := by
  have chars : (start ++ "->" ++ stop).toList = start.toList ++ '-' :: '>' ::
    stop.toList := by simp
  have stripped : strip (start.toList ++ '-' :: '>' :: stop.toList) =
      stripStart start.toList ++ '-' :: '>' :: stripEnd stop.toList := by
    have arrow : stripEnd ('>' :: stop.toList) = '>' :: stripEnd stop.toList :=
      stripEnd_append_cons (by decide) [] stop.toList
    rw [strip, stripStart_append_cons (by decide), stripEnd_append_cons (by decide), arrow]
  have front : ¬['-', '>'] <:+: stripStart start.toList := fun arrow =>
    arrowless (arrow.trans (List.dropWhile_suffix isBlank).isInfix)
  have start : resolveSide now (stripStart start.toList) = resolveSide now start.toList :=
    resolveSide_congr now (strip_stripStart _)
  have stop' : resolveSide now (strip stop.toList) = resolveSide now stop.toList :=
    resolveSide_congr now (strip_strip _)
  have empty : strip stop.toList = [] ↔ blank stop = true := by
    rw [← trim_isEmpty, trim, String.isEmpty_iff, ← String.toList_inj, String.toList_ofList]
    rfl
  rw [resolve, chars, stripped, sides, cutAtFirst_arrow front]
  simp only [start, Option.map_some, strip_stripEnd]
  by_cases blanks : blank stop = true
  · rw [empty.mpr blanks, if_pos blanks]
    rfl
  · obtain ⟨c, cs, some⟩ := List.exists_cons_of_ne_nil (mt empty.mp blanks)
    rw [some] at stop' ⊢
    rw [if_neg blanks]
    simp only [stop']

/-- Whether a side is accepted, and why it is not, does not depend on the present instant. -/
theorem resolveSide_uniform (side : List Char) :
    (∃ problem, ∀ now, resolveSide now side = .error problem) ∨
      ∃ instant : Int → Int, ∀ now, resolveSide now side = .ok (instant now) := by
  simp only [resolveSide]
  split
  · exact .inl ⟨_, fun _ => rfl⟩
  · split
    · exact .inr ⟨_, fun _ => rfl⟩
    · split
      · exact .inr ⟨_, fun _ => rfl⟩
      · exact .inl ⟨_, fun _ => rfl⟩

theorem resolve_uniform (expression : String) :
    (∃ problem, ∀ now, resolve now expression = .error problem) ∨
      ∃ range : Int → TimeRange, ∀ now, resolve now expression = .ok (range now) := by
  unfold resolve
  generalize sides (strip expression.toList) = parts
  obtain ⟨start, stop?⟩ := parts
  dsimp only
  generalize stop?.map strip = stop?
  rcases resolveSide_uniform start with ⟨problem, refused⟩ | ⟨instant, accepted⟩
  · simp only [refused]
    exact .inl ⟨problem, fun _ => rfl⟩
  simp only [accepted]
  match stop? with
  | none | some [] => exact .inr ⟨_, fun _ => rfl⟩
  | some (c :: cs) =>
      rcases resolveSide_uniform (c :: cs) with ⟨problem, refused⟩ | ⟨instant', accepted'⟩
      · simp only [refused]
        exact .inl ⟨problem, fun _ => rfl⟩
      · simp only [accepted']
        exact .inr ⟨_, fun _ => rfl⟩

end LogQuery.TimeRange
