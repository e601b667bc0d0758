import LogQuery.Proofs.Execution.Submission
import LogQuery.Proofs.Results.Fields
import LogQuery.Service.Unreachable

namespace LogQuery

theorem Exchange.update?_eq_some_iff {exchange : Exchange} {result : Aggregate} {changed : Bool} :
    exchange.update? = some (result, changed) ↔
      exchange = ⟨.report (.results result changed), ()⟩ := by
  constructor
  · intro h
    unfold update? at h
    split at h
    · cases h
      rfl
    · cases h
  · rintro rfl
    rfl

/-- The rows that were told last. -/
def lastUpdate? (transcript : List Exchange) : Option Aggregate :=
  (transcript.filterMap Exchange.update?).getLast?.map Prod.fst

/-- The field names of the rows that were told last, or those of the query if none have been
told. -/
def currentNames? (seed? : Option (List String)) (transcript : List Exchange) :
    Option (List String) :=
  ((lastUpdate? transcript).map Aggregate.fieldNames).or seed?

/-- Whether every update tells by comparison with the columns of the view if its field names are
new. -/
def Flagged (seed? : Option (List String)) (transcript : List Exchange) : Prop :=
  ∀ before result changed later,
    transcript = before ++ ⟨.report (.results result changed), ()⟩ :: later →
      result.fieldNames.Nodup ∧
      changed = FieldSet.changed (rebuilt seed? before) result.fieldNames

section

variable {seed? : Option (List String)} {transcript before later : List Exchange}

theorem currentNames?_append_of_update? {exchange : Exchange} {result : Aggregate}
    {changed : Bool} (h : exchange.update? = some (result, changed)) :
    currentNames? seed? (transcript ++ [exchange]) = some result.fieldNames := by
  simp [currentNames?, lastUpdate?, List.filterMap_append, h]

theorem currentNames?_append_of_none {exchange : Exchange} (h : exchange.update? = none) :
    currentNames? seed? (transcript ++ [exchange]) = currentNames? seed? transcript := by
  simp [currentNames?, lastUpdate?, List.filterMap_append, h]

theorem rebuilt_append_of_update? {exchange : Exchange} {result : Aggregate} {changed : Bool}
    (h : exchange.update? = some (result, changed)) :
    rebuilt seed? (transcript ++ [exchange]) =
      if changed then some result.fieldNames else rebuilt seed? transcript := by
  rw [rebuilt_append, rebuilt, List.foldl_cons, List.foldl_nil, h]
  cases changed <;> rfl

theorem rebuilt_append_of_none {exchange : Exchange} (h : exchange.update? = none) :
    rebuilt seed? (transcript ++ [exchange]) = rebuilt seed? transcript := by
  rw [rebuilt_append, rebuilt, List.foldl_cons, List.foldl_nil, h]

theorem rebuilt_of_lastUpdate?_eq_none (h : lastUpdate? transcript = none) :
    rebuilt seed? transcript = seed? := by
  induction transcript using List.reverseRecOn with
  | nil => rfl
  | append_singleton earlier exchange ih =>
      simp only [lastUpdate?, List.filterMap_append, List.getLast?_append, Option.map_eq_none_iff,
        Option.or_eq_none_iff] at h
      rw [rebuilt_append_of_none (by simpa using h.1)]
      exact ih (by simp [lastUpdate?, h.2])

theorem Flagged.of_append (h : Flagged seed? (before ++ later)) : Flagged seed? before := by
  rintro earlier result changed more rfl
  exact h earlier result changed (more ++ later) (by simp)

/-- A view that builds its columns anew only when it is told to always has those of the rows that
it was told last. -/
theorem Flagged.rebuilt (seeded : ∀ names ∈ seed?, names.Nodup)
    (flagged : Flagged seed? transcript) :
    (∀ names ∈ rebuilt seed? transcript, names.Nodup) ∧
      (rebuilt seed? transcript).map List.toFinset =
        (currentNames? seed? transcript).map List.toFinset := by
  -- From the end: whether an update is flagged depends on what the view has by then.
  induction transcript using List.reverseRecOn with
  | nil => exact ⟨seeded, rfl⟩
  | append_singleton earlier exchange ih =>
      obtain ⟨nodup, same⟩ := ih flagged.of_append
      cases update : exchange.update? with
      | none =>
          rw [currentNames?_append_of_none update, rebuilt_append_of_none update]
          exact ⟨nodup, same⟩
      | some told =>
          obtain ⟨result, changed⟩ := told
          obtain ⟨nodup', hchanged⟩ :=
            flagged earlier result changed [] (by rw [Exchange.update?_eq_some_iff.mp update])
          rw [currentNames?_append_of_update? update, rebuilt_append_of_update? update]
          cases changed with
          | true => exact ⟨by simpa using nodup', rfl⟩
          | false =>
              have unchanged := (FieldSet.changed_iff nodup nodup').not.mp (by simp [← hchanged])
              exact ⟨nodup, not_not.mp unchanged⟩

theorem Flagged.iff (seeded : ∀ names ∈ seed?, names.Nodup) (flagged : Flagged seed? transcript)
    {result : Aggregate} {changed : Bool}
    (split : transcript = before ++ ⟨.report (.results result changed), ()⟩ :: later) :
    changed = true ↔
      (currentNames? seed? before).map List.toFinset ≠ some result.fieldNames.toFinset := by
  obtain ⟨nodup', rfl⟩ := flagged before result changed later split
  rw [split] at flagged
  obtain ⟨nodup, same⟩ := flagged.of_append.rebuilt seeded
  rw [← same]
  exact FieldSet.changed_iff nodup nodup'

end

namespace Execution

section

variable {execution : Execution} {logGroups : List RegionLogGroups} {columns : Columns}
  {seed? : Option (List String)} {queries : List StartedQuery}
    {transcript before later : List Exchange}
  {stage : Stage}
  (h : execution.Polls logGroups (.start columns seed? queries) transcript stage)

include h

/-- Rows are told right behind a round in which no call has failed and the check that follows
it. -/
theorem Polls.updates {result : Aggregate} {changed : Bool}
    (split : transcript = before ++ ⟨.report (.results result changed), ()⟩ :: later) :
    (∃ earlier asked answers,
      before = earlier ++ [⟨.results asked, answers⟩, ⟨.cancelled, false⟩] ∧
      (List.ofFn answers).all Except.isOk) ∧
    ∃ received, Tracks columns seed? queries before received ∧
      result = received.aggregate ∧ changed = received.fieldsChanged := by
  obtain ⟨earlier, polling, answers, received, rfl, polls, hreceived, -, told⟩ := h.tells split
  exact ⟨⟨earlier, _, answers, rfl, Polling.isOk_of_receive_ok hreceived⟩, received,
    polls.stands.tracks.checked hreceived false, told⟩

theorem Polls.flagged : Flagged seed? transcript := by
  intro before result changed later split
  obtain ⟨-, received, tracks, rfl, rfl⟩ := h.updates split
  refine ⟨Aggregate.nodup_fieldNames _, ?_⟩
  rw [Polling.fieldsChanged, tracks.shown]

/-- Behind a round in which no call has failed it is asked whether to stop. If not, rows are told
exactly if there are any. -/
theorem Polls.answers {asked : List StartedQuery}
    {answers : Fin asked.length → Except CallFailure ResultsPage}
    (split : transcript = before ++ ⟨.results asked, answers⟩ :: later)
    (ok : ∀ i, (answers i).isOk) :
    ∃ told behind, later = ⟨.cancelled, told⟩ :: behind ∧
      ((∃ result changed more, behind = ⟨.report (.results result changed), ()⟩ :: more) ↔
        told = false ∧
        ∃ region ∈ Heard.after (queries.map .nothing) (before ++ [⟨.results asked, answers⟩]),
          region.rows columns ≠ []) := by
  obtain ⟨rest, more, polling, reached, rfl, polls, round, next⟩ := h.asks split
  cases round with
  | failed answers e received =>
      obtain ⟨i, failure, fails, -⟩ := Polling.first_of_receive_error received
      have succeeds := ok i
      rw [fails] at succeeds
      cases succeeds
  | stopped answers received hreceived =>
      obtain rfl : more = [] := by
        rcases next with ⟨none, -⟩ | ⟨next, same⟩
        · exact none
        · cases same
      exact ⟨true, [], rfl, by simp⟩
  | shown answers received hreceived exchanges stage waits =>
      refine ⟨false, received.told ++ exchanges ++ more, rfl, ?_⟩
      have tracks := polls.stands.tracks.receive hreceived
      rw [← tracks.hasRows]
      unfold Polling.told
      split
      · rename_i rows
        exact iff_of_true ⟨_, _, _, rfl⟩ ⟨rfl, rows⟩
      · rename_i none
        refine iff_of_false ?_ fun rows => none rows.2
        rintro ⟨result, changed, behind, split⟩
        cases waits with
        | stopped => cases split
        | carriesOn => cases split
        | settled settled =>
            -- A query that has settled makes no more calls.
            rcases next with ⟨rfl, -⟩ | ⟨next, same⟩
            · cases split
            · cases same

end

/-- How what is told of the rows of a query goes with the rounds in which it is asked for them. -/
structure Updates (columns : Columns) (seed? : Option (List String)) (queries : List StartedQuery)
    (transcript : List Exchange) : Prop where
  told : ∀ before asked answers later, transcript = before ++ ⟨.results asked, answers⟩ :: later →
    (∀ i, (answers i).isOk) →
      ∃ told behind, later = ⟨.cancelled, told⟩ :: behind ∧
        ((∃ result changed more, behind = ⟨.report (.results result changed), ()⟩ :: more) ↔
          told = false ∧
          ∃ region ∈ Heard.after (queries.map .nothing) (before ++ [⟨.results asked, answers⟩]),
            region.rows columns ≠ [])
  preceded : ∀ before result changed later,
    transcript = before ++ ⟨.report (.results result changed), ()⟩ :: later →
      ∃ earlier asked answers,
      before = earlier ++ [⟨.results asked, answers⟩, ⟨.cancelled, false⟩] ∧
        ∀ i, (answers i).isOk
  merged : ∀ before result changed later,
    transcript = before ++ ⟨.report (.results result changed), ()⟩ :: later →
      result =
        .ofSnapshots ((Heard.after (queries.map .nothing) before).map (Heard.snapshot columns))
  flagged : ∀ before result changed later,
    transcript = before ++ ⟨.report (.results result changed), ()⟩ :: later →
      (changed = true ↔
        (currentNames? seed? before).map List.toFinset ≠ some result.fieldNames.toFinset)
  /-- A view that builds its columns anew only when it is told to always has those of the rows
  that it was told last. -/
  current : ∀ before later, transcript = before ++ later →
    (rebuilt seed? before).map List.toFinset = (currentNames? seed? before).map List.toFinset

theorem Polls.follow {execution : Execution} {logGroups : List RegionLogGroups}
    {columns : Columns} {seed? : Option (List String)} {queries : List StartedQuery}
    {transcript : List Exchange} {stage : Stage}
    (h : execution.Polls logGroups (.start columns seed? queries) transcript stage)
    (seeded : ∀ names ∈ seed?, names.Nodup) : Updates columns seed? queries transcript where
  told before asked answers later := h.answers
  preceded before result changed later split := by
    obtain ⟨⟨earlier, asked, answers, hbefore, ok⟩, -⟩ := h.updates split
    exact ⟨earlier, asked, answers, hbefore, fun i =>
      List.all_eq_true.mp ok (answers i) (List.mem_ofFn.mpr ⟨i, rfl⟩)⟩
  merged before result changed later split := by
    obtain ⟨-, received, tracks, rfl, -⟩ := h.updates split
    exact tracks.aggregate
  flagged before result changed later split := h.flagged.iff seeded split
  current before later split := by
    have flagged := h.flagged
    rw [split] at flagged
    exact (flagged.of_append.rebuilt seeded).2

theorem Stands.fieldNames {logGroups : List RegionLogGroups} {columns : Columns}
    {seed? : Option (List String)} {queries : List StartedQuery} {transcript : List Exchange}
    {report : Report}
    (h : Stands logGroups columns seed? queries transcript (.ended (.ok report))) :
    report.fieldNames? = rebuilt seed? transcript := by
  cases h with
  | completed polling tracks => exact tracks.shown
  | canceled polling tracks => exact tracks.shown

variable {σ : Type} (execution : Execution) (service : Service σ)

theorem Submits.unpolled {found : List RegionLogGroups} {regions : List String}
    {already : List StartedQuery} {prelude exchanges : List Exchange}
    {outcome : Except QueryError (List StartedQuery)}
    (h : execution.Submits found regions already exchanges outcome)
    (calls : ∀ exchange ∈ prelude, exchange.call.prepares) :
    ∀ exchange ∈ prelude ++ ⟨.report (.logGroups found), ()⟩ :: exchanges,
    ¬exchange.call.polls := by
  rw [List.forall_mem_append, List.forall_mem_cons]
  refine ⟨fun exchange hmem => ?_, Bool.false_ne_true, fun exchange hmem => ?_⟩
  · exact (Call.not_polls_of_prepares (calls exchange hmem)).1
  · exact (h.not_polls execution exchange hmem).1

/-- Where the query starts and is over after a round, with a row. -/
def oneRow : Service Unit where
  answer state
    | .startQuery .. => (.ok "1", state)
    | .results _ =>
      (fun _ => .ok {
        status := .complete
        rows := [[⟨"b", "2"⟩]]
        valueRows := []
        statistics? := none }, state)
    | c => (Unreachable.answer (m := Id) (fun _ => .ok ()) (fun _ => ()) c, state)

end Execution

end LogQuery
