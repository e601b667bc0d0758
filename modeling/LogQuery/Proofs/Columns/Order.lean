import LogQuery.Columns
import LogQuery.Proofs.Text.Distinct
import Mathlib.Data.List.Nodup

namespace LogQuery.Columns

open Text

variable {columns : Columns} {observed : List String} {name : String}

def declaredIn (columns : Columns) (observed : List String) : List String :=
  columns.names.filter observed.contains

theorem mem_declaredIn :
    name ∈ columns.declaredIn observed ↔ name ∈ columns.names ∧ name ∈ observed := by
  rw [declaredIn, List.mem_filter, List.contains_iff_mem]

theorem order_eq (once : observed.Nodup) :
    columns.order observed = columns.declaredIn observed ++
      observed.filter fun name => !(columns.declaredIn observed).contains name := by
  rw [order, distinct_of_nodup (once.filter _)]
  rfl

theorem mem_order : name ∈ columns.order observed ↔ name ∈ observed := by
  change name ∈ columns.declaredIn observed ++
    distinct (observed.filter fun name => !(columns.declaredIn observed).contains name) ↔ _
  rw [List.mem_append, mem_distinct, List.mem_filter]
  constructor
  · rintro (declared | ⟨hmem, -⟩)
    · exact (mem_declaredIn.mp declared).2
    · exact hmem
  · intro hmem
    by_cases declared : name ∈ columns.declaredIn observed
    · exact .inl declared
    · exact .inr ⟨hmem, by simpa using declared⟩

theorem count_order (once : observed.Nodup) (hmem : name ∈ observed) :
    (columns.order observed).count name = max 1 (columns.names.count name) := by
  have front : (columns.declaredIn observed).count name = columns.names.count name :=
    List.count_filter (by simpa using hmem)
  rw [order_eq once, List.count_append, front]
  by_cases declared : name ∈ columns.declaredIn observed
  · have behind : name ∉ observed.filter fun name =>
        !(columns.declaredIn observed).contains name := by
      simp [declared]
    have positive : 0 < columns.names.count name :=
      List.count_pos_iff.mpr (mem_declaredIn.mp declared).1
    rw [List.count_eq_zero.mpr behind]
    omega
  · have undeclared : columns.names.count name = 0 := by
      rw [← front, List.count_eq_zero]
      exact declared
    have behind : (observed.filter fun name =>
        !(columns.declaredIn observed).contains name).count name = 1 := by
      rw [List.count_filter (by simpa using declared), List.count_eq_one_of_mem once hmem]
    omega

/-- The columns come in the order in which the query declares them, and the others behind them.
None is shown twice if and only if the query declares none twice. -/
theorem declared_columns_lead (query : String) (once : observed.Nodup) :
    let columns := ofQuery query
    let shown := columns.order observed
    shown = columns.declaredIn observed ++
      observed.filter (fun name => !(columns.declaredIn observed).contains name) ∧
    (∀ name, name ∈ shown ↔ name ∈ observed) ∧
    (∀ name ∈ observed, shown.count name = max 1 (columns.names.count name)) ∧
    (shown.Perm observed ↔ ∀ name ∈ observed, columns.names.count name ≤ 1) := by
  intro columns shown
  have counted : ∀ name ∈ observed, shown.count name = max 1 (columns.names.count name) :=
    fun _ hmem => count_order once hmem
  refine ⟨order_eq once, fun _ => mem_order, counted, ?_⟩
  constructor
  · intro perm name hmem
    have same := perm.count_eq name
    rw [counted name hmem, List.count_eq_one_of_mem once hmem] at same
    omega
  · intro atMost
    rw [List.perm_iff_count]
    intro name
    by_cases hmem : name ∈ observed
    · rw [counted name hmem, List.count_eq_one_of_mem once hmem]
      have := atMost name hmem
      omega
    · rw [List.count_eq_zero.mpr hmem, List.count_eq_zero]
      exact fun shows => hmem (mem_order.mp shows)

theorem declared_columns_lead_aliased :
    let observed := ["@timestamp", "@message", "level", "msg"]
    let shown := (ofQuery "fields level, @message as msg | fields x").order observed
    observed.Nodup ∧ shown = ["level", "msg", "@timestamp", "@message"] ∧
      shown.Perm observed := by
  intro observed shown
  have once : observed.Nodup := by decide
  have lead := declared_columns_lead "fields level, @message as msg | fields x" once
  exact ⟨once, by decide +kernel, lead.2.2.2.mpr (by decide +kernel)⟩

/-- A column that is declared twice is shown twice. -/
theorem shows_column_twice :
    let observed := ["b", "a"]
    let shown := (ofQuery "fields a, a").order observed
    observed.Nodup ∧ shown = ["a", "a", "b"] ∧ ¬shown.Perm observed := by
  decide +kernel

end LogQuery.Columns
