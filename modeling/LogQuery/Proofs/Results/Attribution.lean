import LogQuery.Results.Aggregate
import Mathlib.Algebra.GroupWithZero.Nat
import Mathlib.Logic.ExistsUnique

namespace LogQuery

namespace Snapshot

def rowCount (snapshot : Snapshot) : ℕ :=
  snapshot.rows.length

/-- Whether `index` is that of row number `offset` of snapshot number `j`, where the rows of all
snapshots are counted through from zero. -/
def FallsIn (snapshots : List Snapshot) (index j offset : ℕ) : Prop :=
  ∃ snapshot, snapshots[j]? = some snapshot ∧ offset < snapshot.rowCount ∧
    index = ((snapshots.take j).map rowCount).sum + offset

variable {snapshot : Snapshot} {snapshots : List Snapshot} {index j offset : ℕ}

theorem fallsIn_cons_zero :
    FallsIn (snapshot :: snapshots) index 0 offset ↔
      index < snapshot.rowCount ∧ offset = index := by
  simp only [FallsIn, List.getElem?_cons_zero, List.take_zero, List.map_nil,
    List.sum_nil, zero_add]
  constructor
  · rintro ⟨_, ⟨⟩, within, rfl⟩
    exact ⟨within, rfl⟩
  · rintro ⟨within, rfl⟩
    exact ⟨snapshot, rfl, within, rfl⟩

theorem fallsIn_cons_succ :
    FallsIn (snapshot :: snapshots) index (j + 1) offset ↔
      snapshot.rowCount ≤ index ∧ FallsIn snapshots (index - snapshot.rowCount) j offset := by
  simp only [FallsIn, List.getElem?_cons_succ, List.take_succ_cons, List.map_cons, List.sum_cons]
  constructor
  · rintro ⟨present, present_at, within, rfl⟩
    exact ⟨by omega, present, present_at, within, by omega⟩
  · rintro ⟨behind, present, present_at, within, rest⟩
    exact ⟨present, present_at, within, by omega⟩

theorem FallsIn.lt_sum (h : FallsIn snapshots index j offset) :
    index < (snapshots.map rowCount).sum := by
  induction snapshots generalizing index j with
  | nil =>
      obtain ⟨_, present, _⟩ := h
      cases present
  | cons snapshot snapshots ih =>
      rw [List.map_cons, List.sum_cons]
      cases j with
      | zero => exact Nat.lt_add_right _ (fallsIn_cons_zero.mp h).1
      | succ j =>
          obtain ⟨behind, rest⟩ := fallsIn_cons_succ.mp h
          have := ih rest
          omega

theorem existsUnique_fallsIn (within : index < (snapshots.map rowCount).sum) :
    ∃! place : ℕ × ℕ, FallsIn snapshots index place.1 place.2 := by
  induction snapshots generalizing index with
  | nil => cases within
  | cons snapshot snapshots ih =>
      rw [List.map_cons, List.sum_cons] at within
      by_cases here : index < snapshot.rowCount
      -- the first snapshot has the index, and those behind it have none so low
      · refine ⟨(0, index), fallsIn_cons_zero.mpr ⟨here, rfl⟩, ?_⟩
        rintro ⟨j, offset⟩ falls
        cases j with
        | zero => exact Prod.ext rfl (fallsIn_cons_zero.mp falls).2
        | succ j =>
            have := (fallsIn_cons_succ.mp falls).1
            omega
      · obtain ⟨⟨j, offset⟩, falls, only⟩ := @ih (index - snapshot.rowCount) (by omega)
        refine ⟨(j + 1, offset), fallsIn_cons_succ.mpr ⟨by omega, falls⟩, ?_⟩
        rintro ⟨i, start⟩ other
        cases i with
        | zero => exact absurd (fallsIn_cons_zero.mp other).1 here
        | succ i =>
            have same := only (i, start) (fallsIn_cons_succ.mp other).2
            simpa using same

end Snapshot

namespace Aggregate

open Snapshot

variable {snapshots : List Snapshot} {index j offset : ℕ}

theorem sum_regions (snapshots : List Snapshot) :
    ((ofSnapshots snapshots).regions.map Prod.snd).sum = (ofSnapshots snapshots).rowCount := by
  rw [rowCount, ofSnapshots, List.length_flatMap, List.map_map]
  rfl

theorem sum_rowCount (snapshots : List Snapshot) :
    (snapshots.map Snapshot.rowCount).sum = (ofSnapshots snapshots).rowCount :=
  List.length_flatMap.symm

theorem attributed_of_fallsIn (falls : FallsIn snapshots index j offset) :
    ∃ snapshot, snapshots[j]? = some snapshot ∧
      (ofSnapshots snapshots).rows[index]? = snapshot.rows[offset]? ∧
      (ofSnapshots snapshots).regionOf index = some snapshot.region := by
  induction snapshots generalizing index j with
  | nil =>
      obtain ⟨_, present, _⟩ := falls
      cases present
  | cons snapshot snapshots ih =>
      have rows : (ofSnapshots (snapshot :: snapshots)).rows =
          snapshot.rows ++ (ofSnapshots snapshots).rows := rfl
      have region : (ofSnapshots (snapshot :: snapshots)).regionOf index =
          if index < snapshot.rowCount then some snapshot.region
          else (ofSnapshots snapshots).regionOf (index - snapshot.rowCount) := rfl
      rw [rows, region]
      cases j with
      | zero =>
          obtain ⟨here, rfl⟩ := fallsIn_cons_zero.mp falls
          exact ⟨snapshot, rfl, List.getElem?_append_left here, if_pos here⟩
      | succ j =>
          obtain ⟨behind, rest⟩ := fallsIn_cons_succ.mp falls
          obtain ⟨present, present_at, row, found⟩ := ih rest
          refine ⟨present, present_at, ?_, ?_⟩
          · rw [List.getElem?_append_right behind]
            exact row
          · rw [if_neg (Nat.not_lt.mpr behind), found]

theorem locate_eq_none {regions : List (String × ℕ)} (past : (regions.map Prod.snd).sum ≤ index) :
    locate regions index = none := by
  induction regions generalizing index with
  | nil => rfl
  | cons region regions ih =>
      rw [List.map_cons, List.sum_cons] at past
      rw [locate, if_neg (by omega), ih (by omega)]

/-- Each index of a row falls in one snapshot at one offset, and there stand both the row of that
index and the region it is said to be from. -/
theorem rows_are_attributed (snapshots : List Snapshot) :
    let result := ofSnapshots snapshots
    result.rows = (snapshots.map Snapshot.rows).flatten ∧
    (result.regions.map Prod.snd).sum = result.rowCount ∧
    (∀ index < result.rowCount, ∃! place : ℕ × ℕ, FallsIn snapshots index place.1 place.2) ∧
    (∀ index j offset, FallsIn snapshots index j offset → index < result.rowCount ∧
      ∃ snapshot, snapshots[j]? = some snapshot ∧ result.rows[index]? = snapshot.rows[offset]? ∧
        result.regionOf index = some snapshot.region) ∧
    ∀ index, result.rowCount ≤ index → result.regionOf index = none := by
  intro result
  refine ⟨List.flatMap_def, sum_regions snapshots, ?_, ?_, ?_⟩
  · intro index within
    rw [← sum_rowCount] at within
    exact existsUnique_fallsIn within
  · intro index j offset falls
    have within := falls.lt_sum
    rw [sum_rowCount] at within
    exact ⟨within, attributed_of_fallsIn falls⟩
  · intro index past
    exact locate_eq_none (Nat.le_trans (Nat.le_of_eq (sum_regions snapshots)) past)

theorem rows_are_attributed_empty_between :
    let row (value : String) : Row := [⟨"@message", value⟩]
    let snapshots : List Snapshot :=
      [⟨"east", [row "a"]⟩, ⟨"west", []⟩, ⟨"east", [row "b", row "c"]⟩, ⟨"west", []⟩]
    let result := ofSnapshots snapshots
    FallsIn snapshots 2 2 1 ∧ 2 < result.rowCount ∧ result.rows[2]? = some (row "c") ∧
    result.regionOf 2 = some "east" ∧ result.rowCount ≤ 3 ∧ result.regionOf 3 = none := by
  intro row snapshots result
  have falls : FallsIn snapshots 2 2 1 := ⟨⟨"east", [row "b", row "c"]⟩, rfl, by decide, rfl⟩
  obtain ⟨_, _, _, attributed, past⟩ := rows_are_attributed snapshots
  obtain ⟨within, snapshot, here, stands, region⟩ := attributed 2 2 1 falls
  cases here
  exact ⟨falls, within, stands, region, by decide, past 3 (by decide)⟩

end Aggregate

end LogQuery
