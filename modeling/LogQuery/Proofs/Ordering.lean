import Mathlib.Data.List.Basic

namespace LogQuery

variable {α : Type} {le : α → α → Bool}
    (trans : ∀ a b c, le a b = true → le b c = true → le a c = true)
  (total : ∀ a b, (le a b || le b a) = true)

include trans total

/-- What is equal to an element stands in a sorted list as it stood before. -/
theorem filter_mergeSort (l : List α) (a : α) :
    (l.mergeSort le).filter (fun b => le a b && le b a) = l.filter fun b => le a b && le b a := by
  have alike : (l.filter fun b => le a b && le b a).Pairwise fun b c => le b c = true := by
    refine List.pairwise_of_forall_mem_list fun b hb c hc => ?_
    simp only [List.mem_filter, Bool.and_eq_true] at hb hc
    exact trans b a c hb.2.2 hc.2.1
  have sorted := (List.sublist_mergeSort trans total alike List.filter_sublist).filter
    fun b => le a b && le b a
  simp only [List.filter_filter, Bool.and_self] at sorted
  exact (sorted.eq_of_length ((List.mergeSort_perm l le).filter _).length_eq.symm).symm

/-- A list is sorted, and of two equal elements the one comes first that did so before. -/
theorem pairwise_mergeSort_of_pairwise {r : α → α → Prop} {l : List α} (before : l.Pairwise r) :
    (l.mergeSort le).Pairwise fun a b => le a b = true ∧ (le b a = true → r a b) := by
  refine (List.pairwise_mergeSort trans total l).and (List.pairwise_iff_forall_sublist.mpr ?_)
  intro a b both back
  have forth : le a b = true :=
    List.pairwise_iff_forall_sublist.mp (List.pairwise_mergeSort trans total l) both
  have self : le a a = true := trans a b a forth back
  have kept := both.filter fun c => le a c && le c a
  rw [filter_mergeSort trans total] at kept
  have same : [a, b].filter (fun c => le a c && le c a) = [a, b] := by
    simp [self, forth, back]
  rw [same] at kept
  exact List.pairwise_iff_forall_sublist.mp before (kept.trans List.filter_sublist)

end LogQuery
