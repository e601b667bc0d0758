import LogQuery.Text.Lines
import Mathlib.Data.List.Basic

namespace LogQuery.Text

variable {α : Type} [BEq α] [LawfulBEq α]

/-- Whether `found` holds what `all` holds, each once and in the order in which it first stands
there. -/
structure FirstOccurrences (all found : List α) : Prop where
  mem_iff : ∀ a, a ∈ found ↔ a ∈ all
  ordered : found.Pairwise fun a b => all.idxOf a < all.idxOf b

theorem mem_distinct {a : α} {as : List α} : a ∈ distinct as ↔ a ∈ as := by
  induction as with
  | nil => rfl
  | cons b as ih =>
      rw [distinct, List.mem_cons, List.mem_cons, List.mem_filter, ih]
      by_cases same : a = b <;> simp [same]

theorem contains_distinct (as : List α) (a : α) : (distinct as).contains a = as.contains a := by
  rw [Bool.eq_iff_iff, List.contains_iff_mem, List.contains_iff_mem, mem_distinct]

theorem nodup_distinct (as : List α) : (distinct as).Nodup := by
  induction as with
  | nil => exact .nil
  | cons a as ih =>
      refine List.nodup_cons.mpr ⟨?_, ih.filter _⟩
      intro hmem
      simp at hmem

theorem distinct_of_nodup {as : List α} (once : as.Nodup) : distinct as = as := by
  induction as with
  | nil => rfl
  | cons a as ih =>
      rw [List.nodup_cons] at once
      have others : ∀ b ∈ as, (!(b == a)) = true := by
        intro b hmem
        have differ : b ≠ a := fun same => once.1 (same ▸ hmem)
        simpa using differ
      rw [distinct, ih once.2, List.filter_eq_self.mpr others]

theorem firstOccurrences_distinct (as : List α) : FirstOccurrences as (distinct as) := by
  refine ⟨fun a => mem_distinct, ?_⟩
  induction as with
  | nil => exact .nil
  | cons a as ih =>
      have later {b : α} (hmem : b ∈ (distinct as).filter fun b => !(b == a)) :
          (a :: as).idxOf b = as.idxOf b + 1 := by
        apply List.idxOf_cons_ne
        rintro rfl
        simp at hmem
      rw [distinct, List.pairwise_cons]
      constructor
      · intro b hmem
        rw [later hmem, List.idxOf_cons_self]
        exact Nat.succ_pos _
      · apply (ih.filter _).imp_of_mem
        intro b c hb hc before
        rw [later hb, later hc]
        exact Nat.succ_lt_succ before

theorem idxOf_filter_lt_iff (p : α → Bool) {a b : α} (ha : p a = true) (hb : p b = true)
    (as : List α) : (as.filter p).idxOf a < (as.filter p).idxOf b ↔ as.idxOf a < as.idxOf b := by
  induction as with
  | nil => rfl
  | cons c as ih =>
      by_cases first : c = a
      · subst first
        rw [List.filter_cons_of_pos ha, List.idxOf_cons_self, List.idxOf_cons_self]
        by_cases same : c = b
        · subst same
          rw [List.idxOf_cons_self, List.idxOf_cons_self]
        · simp [List.idxOf_cons_ne _ same]
      · by_cases second : c = b
        · subst second
          simp [List.filter_cons_of_pos hb]
        · rw [List.idxOf_cons_ne as first, List.idxOf_cons_ne as second,
            Nat.succ_lt_succ_iff, ← ih]
          cases accepted : p c with
          | true =>
              rw [List.filter_cons_of_pos accepted, List.idxOf_cons_ne _ first,
                List.idxOf_cons_ne _ second, Nat.succ_lt_succ_iff]
          | false => rw [List.filter_cons_of_neg (by simp [accepted])]

theorem distinct_filter (p : α → Bool) (as : List α) :
    distinct (as.filter p) = (distinct as).filter p := by
  induction as with
  | nil => rfl
  | cons a as ih =>
      cases accepted : p a with
      | true => simp only [List.filter_cons, accepted, distinct, ih, if_true, List.filter_comm p]
      | false =>
          have others : ∀ b ∈ distinct as, p b = (p b && !(b == a)) := by
            intro b _
            by_cases same : b = a <;> simp [same, accepted]
          rw [List.filter_cons_of_neg (by simp [accepted]), ih, distinct,
            List.filter_cons_of_neg (by simp [accepted]), List.filter_filter]
          exact List.filter_congr others

theorem distinct_append (as bs : List α) :
    distinct (as ++ bs) = distinct as ++ (distinct bs).filter fun b => !as.contains b := by
  induction as with
  | nil => simp [distinct]
  | cons a as ih =>
      have further : (fun b => !(a :: as).contains b) = fun b => !(b == a) && !as.contains b := by
        funext b
        simp
      rw [List.cons_append, distinct, ih, distinct, List.filter_append, List.filter_filter,
        further, List.cons_append]

theorem distinct_concat_of_mem {as : List α} {a : α} (known : a ∈ as) :
    distinct (as ++ [a]) = distinct as := by
  simp [distinct_append, distinct, known]

theorem distinct_concat_of_not_mem {as : List α} {a : α} (new : a ∉ as) :
    distinct (as ++ [a]) = distinct as ++ [a] := by
  have fresh : [a].filter (fun b => !as.contains b) = [a] := by
    simp [new]
  rw [distinct_append, distinct, distinct, List.filter_nil, fresh]

end LogQuery.Text
