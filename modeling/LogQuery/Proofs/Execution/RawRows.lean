import LogQuery.Proofs.Execution.Polling
import Mathlib.Data.List.Basic

namespace LogQuery

/-- The row that is made of a row of the service: the cells that have a name, or the values under
the names of the columns if no cell has one. -/
def RawCell.row (columns : Columns) (cells : List RawCell) : Row :=
  if cells.any fun cell => cell.field?.isSome then
    cells.filterMap fun cell => cell.field?.map fun field => ⟨field, cell.value?.getD ""⟩
  else
    List.zipWith Cell.mk columns.names (cells.map fun cell => cell.value?.getD "")

theorem RawCell.row_of_areValues {columns : Columns} {cells : List RawCell}
    (values : areValues cells = true) :
    row columns cells = Row.ofValues columns.names (cells.map value) := by
  have unnamed : (cells.any fun cell => cell.field?.isSome) = false := by
    have all := (Bool.and_eq_true _ _ ▸ values).2
    rw [List.any_eq_false]
    intro cell hmem
    simpa using List.all_eq_true.mp all cell hmem
  rw [row, if_neg (by simp [unnamed])]
  rfl

/-- A row without cells is not one of bare values, and is left empty. -/
theorem RawCell.row_of_not_areValues {columns : Columns} {cells : List RawCell}
    (named : areValues cells = false) : row columns cells = cells.filterMap named? := by
  by_cases some : cells.any fun cell => cell.field?.isSome
  · rw [row, if_pos some]
    rfl
  · have all : cells.all fun cell => cell.field?.isNone := by
      simpa [List.all_eq_true] using some
    have empty : cells = [] := by simpa [areValues, all] using named
    subst empty
    simp [row]

/-- Results as the service gives them. -/
structure RawPage where
  status : QueryStatus
  rows : List (List RawCell)
  statistics? : Option Statistics

namespace RawPage

def page (raw : RawPage) : ResultsPage :=
  .ofRawRows raw.status raw.rows raw.statistics?

/-- The rows with those that are bare values behind the others. -/
def valuesLast (raw : RawPage) : List (List RawCell) :=
  (raw.rows.filter fun cells => !RawCell.areValues cells) ++ raw.rows.filter RawCell.areValues

theorem valuesLast_perm (raw : RawPage) : raw.valuesLast.Perm raw.rows := by
  have split := List.filter_append_perm (fun cells => !RawCell.areValues cells) raw.rows
  simpa [valuesLast] using split

theorem valuesLast_eq_rows {raw : RawPage} (ordered : raw.rows.Pairwise fun earlier later =>
    RawCell.areValues earlier → RawCell.areValues later) : raw.valuesLast = raw.rows := by
  obtain ⟨status, rows, statistics?⟩ := raw
  change (rows.filter fun cells => !RawCell.areValues cells) ++
    rows.filter RawCell.areValues = rows
  induction rows with
  | nil => rfl
  | cons cells rows ih =>
      obtain ⟨first, others⟩ := List.pairwise_cons.mp ordered
      by_cases values : RawCell.areValues cells = true
      · -- all that comes behind a row of values is one, too
        have all : ∀ later ∈ rows, RawCell.areValues later = true :=
          fun later hmem => first later hmem values
        have none : rows.filter (fun cells => !RawCell.areValues cells) = [] :=
          List.filter_eq_nil_iff.mpr fun later hmem => by simp [all later hmem]
        rw [List.filter_cons_of_neg (by simp [values]), List.filter_cons_of_pos values, none,
          List.filter_eq_self.mpr all]
        rfl
      · rw [List.filter_cons_of_pos (by simpa using values), List.filter_cons_of_neg values]
        exact congrArg (List.cons cells) (ih others)

end RawPage

namespace RegionPoll

theorem receive_rows (columns : Columns) (poll : RegionPoll) (raw : RawPage) :
    (poll.receive columns raw.page).rows = raw.valuesLast.map (RawCell.row columns) := by
  have named : ∀ cells ∈ raw.rows.filter fun cells => !RawCell.areValues cells,
      RawCell.row columns cells = cells.filterMap RawCell.named? := fun cells hmem =>
    RawCell.row_of_not_areValues (by simpa using List.of_mem_filter hmem)
  have valued : ∀ cells ∈ raw.rows.filter RawCell.areValues,
      RawCell.row columns cells = Row.ofValues columns.names (cells.map RawCell.value) :=
    fun cells hmem => RawCell.row_of_areValues (List.of_mem_filter hmem)
  rw [RawPage.valuesLast, List.map_append, List.map_congr_left named, List.map_congr_left valued]
  simp [receive, RawPage.page, ResultsPage.ofRawRows, Columns.nameRows, Function.comp_def]

/-- A round in which no call fails gives the pages in turn to the regions that have not
settled. -/
theorem receiveAll_of_pages (columns : Columns) {polls : List RegionPoll}
    {pages : List ResultsPage} (full : pages.length = (unsettled polls).length) :
    ∃ received, receiveAll columns polls (pages.map .ok) = .ok received ∧
      ∀ (i : Nat) (poll : RegionPoll), polls[i]? = some poll → poll.settled = false →
        ∃ page ∈ pages[(unsettled (polls.take i)).length]?,
          received[i]? = some (poll.receive columns page) := by
  induction polls generalizing pages with
  | nil => exact ⟨[], rfl, by simp⟩
  | cons first polls ih =>
      by_cases settled : first.settled
      · rw [unsettled_cons_of_settled polls settled] at full
        obtain ⟨received, hreceived, regions⟩ := ih full
        refine ⟨first :: received, ?_, ?_⟩
        · rw [receiveAll_of_settled columns settled, hreceived]
          rfl
        · intro i poll hpoll running
          cases i with
          | zero =>
              cases hpoll
              rw [settled] at running
              cases running
          | succ i =>
              rw [List.take_succ_cons, unsettled_cons_of_settled _ settled]
              exact regions i poll hpoll running
      · rw [unsettled_cons polls settled] at full
        cases pages with
        | nil => cases full
        | cons page pages =>
            obtain ⟨received, hreceived, regions⟩ := ih (Nat.succ.inj full)
            refine ⟨first.receive columns page :: received, ?_, ?_⟩
            · rw [List.map_cons, receiveAll, if_neg settled, hreceived]
              rfl
            · intro i poll hpoll running
              cases i with
              | zero =>
                  cases hpoll
                  exact ⟨page, rfl, rfl⟩
              | succ i =>
                  rw [List.take_succ_cons, unsettled_cons _ settled]
                  exact regions i poll hpoll running

end RegionPoll

namespace Polling

/-- The rows that are kept of a region are those of its answer, one for each. The rows of bare
values come last, and apart from that all rows keep their order. -/
theorem keeps_every_row (polling : Polling) (answers : List RawPage)
    (full : answers.length = polling.unsettled.length) :
    ∃ received, polling.receive (answers.map fun raw => .ok raw.page) = .ok received ∧
      ∀ (i : Nat) (poll : RegionPoll), polling.regions[i]? = some poll → poll.settled = false →
        ∃ raw ∈ answers[(RegionPoll.unsettled (polling.regions.take i)).length]?,
          ∃ after, received.regions[i]? = some after ∧ after.query = poll.query ∧
            after.snapshot.rows = raw.valuesLast.map (RawCell.row polling.columns) ∧
            after.snapshot.rows.Perm (raw.rows.map (RawCell.row polling.columns)) ∧
            ((raw.rows.Pairwise fun earlier later =>
                RawCell.areValues earlier → RawCell.areValues later) →
              after.snapshot.rows = raw.rows.map (RawCell.row polling.columns)) := by
  have asked : (answers.map RawPage.page).length =
      (RegionPoll.unsettled polling.regions).length := by
    rw [List.length_map, full]
    rfl
  obtain ⟨regions, hregions, each⟩ := RegionPoll.receiveAll_of_pages polling.columns asked
  refine ⟨{ polling with regions, rounds := polling.rounds + 1 }, ?_, ?_⟩
  · rw [List.map_map] at hregions
    have same : (fun raw : RawPage => (Except.ok raw.page : Except CallFailure ResultsPage)) =
        Except.ok ∘ RawPage.page := rfl
    rw [receive, same, hregions]
    rfl
  · intro i poll hpoll running
    obtain ⟨page, hpage, after⟩ := each i poll hpoll running
    rw [List.getElem?_map] at hpage
    obtain ⟨raw, hraw, rfl⟩ := Option.map_eq_some_iff.mp hpage
    have rows : (poll.receive polling.columns raw.page).snapshot.rows =
        raw.valuesLast.map (RawCell.row polling.columns) := poll.receive_rows polling.columns raw
    refine ⟨raw, hraw, poll.receive polling.columns raw.page, after, rfl, rows, ?_, ?_⟩
    · rw [rows]
      exact raw.valuesLast_perm.map _
    · intro ordered
      rw [rows, RawPage.valuesLast_eq_rows ordered]

theorem keeps_every_row_values_between :
    let polling : Polling := {
      regions := [⟨⟨⟨"p", "a"⟩, "1"⟩, .complete, [], none⟩, .start ⟨⟨"p", "b"⟩, "2"⟩]
      columns := .ofQuery "fields n"
      shown? := none
      rounds := 1 }
    let answer : RawPage :=
      ⟨.running, [[⟨some "n", some "1"⟩], [⟨none, some "2"⟩, ⟨none, none⟩], []], none⟩
    [answer].length = polling.unsettled.length ∧
      ∃ received, polling.receive [.ok answer.page] = .ok received ∧
        ∃ after, received.regions[1]? = some after ∧
          after.snapshot.rows = [[⟨"n", "1"⟩], [], [⟨"n", "2"⟩]] := by
  intro polling answer
  have full : [answer].length = polling.unsettled.length := by decide
  obtain ⟨received, hreceived, each⟩ := keeps_every_row polling [answer] full
  obtain ⟨raw, hraw, after, hafter, -, rows, -⟩ := each 1 (.start ⟨⟨"p", "b"⟩, "2"⟩) rfl rfl
  cases hraw
  refine ⟨full, received, hreceived, after, hafter, rows.trans ?_⟩
  decide +kernel

/-- A row of values that the service gives first is not kept first. -/
theorem moves_values_behind :
    let polling := Polling.start (.ofQuery "") none [⟨⟨"p", "a"⟩, "1"⟩]
    let answer : RawPage := ⟨.complete, [[⟨none, some "x"⟩], [⟨some "a", some "1"⟩]], none⟩
    (polling.receive [.ok answer.page]).map (fun received =>
      received.regions.map RegionPoll.rows) ≠
      .ok [answer.rows.map (RawCell.row polling.columns)] := by
  decide +kernel

end Polling

end LogQuery
