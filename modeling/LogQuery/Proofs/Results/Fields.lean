import LogQuery.Results.Aggregate
import LogQuery.Results.FieldSet
import LogQuery.Proofs.Text.Distinct
import Mathlib.Data.Finset.Dedup
import Mathlib.Data.Finset.Card

namespace LogQuery

theorem Aggregate.nodup_fieldNames (snapshots : List Snapshot) :
    (Aggregate.ofSnapshots snapshots).fieldNames.Nodup :=
  Text.nodup_distinct _

namespace Aggregate

open Text

variable {name : String}

/-- The cells of all rows, one behind the other. -/
def cells (result : Aggregate) : List Cell :=
  result.rows.flatten

theorem fieldNames_eq (snapshots : List Snapshot) :
    (ofSnapshots snapshots).fieldNames =
      distinct (((ofSnapshots snapshots).cells.map Cell.field).filter fun name =>
        name != pointerField) := by
  rw [cells, List.map_flatten, List.filter_flatten, List.map_map]
  rfl

theorem mem_fieldNames {snapshots : List Snapshot} :
    name ∈ (ofSnapshots snapshots).fieldNames ↔
      name ≠ pointerField ∧ ∃ row ∈ (ofSnapshots snapshots).rows, ∃ cell ∈ row,
      cell.field = name := by
  rw [fieldNames_eq, mem_distinct, List.mem_filter, bne_iff_ne, and_comm, List.mem_map]
  simp only [cells, List.mem_flatten]
  constructor
  · rintro ⟨shown, cell, ⟨row, row_mem, cell_mem⟩, named⟩
    exact ⟨shown, row, row_mem, cell, cell_mem, named⟩
  · rintro ⟨shown, row, row_mem, cell, cell_mem, named⟩
    exact ⟨shown, cell, ⟨row, row_mem, cell_mem⟩, named⟩

/-- The pointers that stand between the shown cells do not change which of two names occurs
first. -/
theorem fieldNames_ordered (snapshots : List Snapshot) :
    let fields := (ofSnapshots snapshots).cells.map Cell.field
    (ofSnapshots snapshots).fieldNames.Pairwise fun a b => fields.idxOf a < fields.idxOf b := by
  intro fields
  have ordered :=
    (firstOccurrences_distinct (fields.filter fun name => name != pointerField)).ordered
  rw [← fieldNames_eq] at ordered
  apply ordered.imp_of_mem
  intro a b ha hb before
  exact (idxOf_filter_lt_iff (fun name => name != pointerField)
    (bne_iff_ne.mpr (mem_fieldNames.mp ha).1)
    (bne_iff_ne.mpr (mem_fieldNames.mp hb).1) fields).mp before

theorem fieldNames_append (first second : List Snapshot) :
    (ofSnapshots (first ++ second)).fieldNames = (ofSnapshots first).fieldNames ++
      (ofSnapshots second).fieldNames.filter fun name =>
        !(ofSnapshots first).fieldNames.contains name := by
  simp only [ofSnapshots, List.flatMap_append, distinct_append, contains_distinct]

/-- The field names are those of the cells other than the pointers, each once and in the order in
which they first stand in a cell. -/
theorem fields_by_first_occurrence (first second : List Snapshot) :
    let result := ofSnapshots (first ++ second)
    let fields := result.cells.map Cell.field
    let merged := (ofSnapshots first).fieldNames ++
      (ofSnapshots second).fieldNames.filter fun name =>
        !(ofSnapshots first).fieldNames.contains name
    result.fieldNames.Nodup ∧
    (∀ name, name ∈ result.fieldNames ↔
      name ≠ "@ptr" ∧ ∃ row ∈ result.rows, ∃ cell ∈ row, cell.field = name) ∧
    (result.fieldNames.Pairwise fun a b => fields.idxOf a < fields.idxOf b) ∧
    result.fieldNames = merged ∧
    ∀ row ∈ result.rows, ∀ cell ∈ row, cell.field ≠ "@ptr" → cell.field ∈ merged := by
  intro result fields merged
  have same : result.fieldNames = merged := fieldNames_append first second
  refine ⟨nodup_fieldNames _, fun name => mem_fieldNames, fieldNames_ordered _, same, ?_⟩
  intro row row_mem cell cell_mem shown
  rw [← same, mem_fieldNames]
  exact ⟨shown, row, row_mem, cell, cell_mem, rfl⟩

theorem fields_by_first_occurrence_repeated :
    let row (names : List String) : Row := names.map fun name => ⟨name, "x"⟩
    let first : List Snapshot := [⟨"east", [row ["@ptr", "b", "b"], row ["a"]]⟩]
    let second : List Snapshot := [⟨"west", []⟩, ⟨"east", [row ["a", "c", "@ptr", "b"]]⟩]
    let merged := (ofSnapshots first).fieldNames ++
      (ofSnapshots second).fieldNames.filter fun name =>
        !(ofSnapshots first).fieldNames.contains name
    row ["a", "c", "@ptr", "b"] ∈ (ofSnapshots (first ++ second)).rows ∧
    Cell.mk "c" "x" ∈ row ["a", "c", "@ptr", "b"] ∧ "c" ≠ "@ptr" ∧ "c" ∈ merged ∧
    (ofSnapshots (first ++ second)).fieldNames = ["b", "a", "c"] := by
  intro row first second merged
  have row_mem : row ["a", "c", "@ptr", "b"] ∈ (ofSnapshots (first ++ second)).rows := by decide
  have cell_mem : Cell.mk "c" "x" ∈ row ["a", "c", "@ptr", "b"] := by decide
  obtain ⟨_, _, _, same, covered⟩ := fields_by_first_occurrence first second
  exact ⟨row_mem, cell_mem,
    by decide, covered _ row_mem _ cell_mem (by decide), same.trans (by decide)⟩

end Aggregate

namespace FieldSet

variable {previous current : List String}

/-- The lengths need not be compared: lists without repetition that hold the same names are
equally long. -/
theorem changed_eq_false_iff (hprevious : previous.Nodup) (hcurrent : current.Nodup) :
    changed (some previous) current = false ↔ previous.toFinset = current.toFinset := by
  have names : previous.toFinset = current.toFinset ↔
      previous ⊆ current ∧ current ⊆ previous := by
    rw [Finset.Subset.antisymm_iff]
    simp only [List.subset_def, Finset.subset_iff, List.mem_toFinset]
  have lengths (same : previous.toFinset = current.toFinset) : previous.length =
      current.length := by
    rw [← List.toFinset_card_of_nodup hprevious, same, List.toFinset_card_of_nodup hcurrent]
  have unfolded : changed (some previous) current = false ↔
      previous.length = current.length ∧ previous ⊆ current ∧ current ⊆ previous := by
    simp [changed, List.subset_def]
  rw [unfolded, ← names]
  exact ⟨And.right, fun same => ⟨lengths same, same⟩⟩

theorem changed_iff {previous? : Option (List String)}
    (hprevious : ∀ previous ∈ previous?, previous.Nodup) (hcurrent : current.Nodup) :
    changed previous? current = true ↔
      previous?.map List.toFinset ≠ some current.toFinset := by
  cases previous? with
  | none => simp [changed]
  | some previous =>
      rw [← Bool.not_eq_false, changed_eq_false_iff (hprevious previous rfl) hcurrent]
      simp

end FieldSet

end LogQuery
