import LogQuery.Execution.Polling

namespace LogQuery

theorem bind_eq_ok {ε α β : Type} {x : Except ε α} {f : α → Except ε β} {value : β}
    (h : (x >>= f) = .ok value) : ∃ a, x = .ok a ∧ f a = .ok value := by
  cases x with
  | error e => cases h
  | ok a => exact ⟨a, rfl, h⟩

theorem bind_pure_eq_error {ε α β : Type} {x : Except ε α} {f : α → β} {e : ε}
    (h : (do return f (← x)) = Except.error e) : x = .error e := by
  cases x with
  | error e => cases h; rfl
  | ok a => cases h

theorem not_all_isOk {ε α : Type} {n : Nat} {answers : Fin n → Except ε α} {i : Fin n} {e : ε}
    (fails : answers i = .error e) : ¬(List.ofFn answers).all Except.isOk := by
  intro all
  have ok := List.all_eq_true.mp all (answers i) (List.mem_ofFn.mpr ⟨i, rfl⟩)
  rw [fails] at ok
  cases ok

namespace RegionPoll

theorem receiveAll_query {columns : Columns} {polls received : List RegionPoll}
    {answers : List (Except CallFailure ResultsPage)}
    (h : receiveAll columns polls answers = .ok received) :
    received.map query = polls.map query := by
  induction polls generalizing answers received with
  | nil =>
      cases h
      rfl
  | cons poll polls ih =>
      unfold receiveAll at h
      split at h
      · obtain ⟨rest, hrest, h⟩ := bind_eq_ok h
        cases h
        exact congrArg (List.cons poll.query) (ih hrest)
      · cases answers with
        | nil =>
            cases h
            rfl
        | cons answer answers =>
            cases answer with
            | error failure => cases h
            | ok page =>
                obtain ⟨rest, hrest, h⟩ := bind_eq_ok h
                cases h
                exact congrArg (List.cons poll.query) (ih hrest)

def unsettled (polls : List RegionPoll) : List StartedQuery :=
  (polls.filter fun poll => !poll.settled).map query

theorem unsettled_cons_of_settled {poll : RegionPoll} (polls : List RegionPoll)
    (settled : poll.settled) : unsettled (poll :: polls) = unsettled polls := by
  simp [unsettled, settled]

theorem unsettled_cons {poll : RegionPoll} (polls : List RegionPoll) (running : ¬poll.settled) :
    unsettled (poll :: polls) = poll.query :: unsettled polls := by
  simp [unsettled, running]

theorem receiveAll_of_settled (columns : Columns) {poll : RegionPoll} (settled : poll.settled)
    (polls : List RegionPoll) (answers : List (Except CallFailure ResultsPage)) :
    receiveAll columns (poll :: polls) answers =
      (do return poll :: (← receiveAll columns polls answers)) := by
  rw [receiveAll.eq_def]
  exact if_pos settled

/-- A round that fails fails with its first failure. -/
theorem first_of_receiveAll_error {columns : Columns} {polls : List RegionPoll}
    {answers : List (Except CallFailure ResultsPage)} {e : QueryError}
    (h : receiveAll columns polls answers = .error e) :
    ∃ (pages : List ResultsPage) (failure : CallFailure)
        (behind : List (Except CallFailure ResultsPage)) (query : StartedQuery),
      answers = pages.map .ok ++ .error failure :: behind ∧
      (unsettled polls)[pages.length]? = some query ∧
      e = .queryPoll query.site.region query.id failure.message := by
  induction polls generalizing answers with
  | nil => cases h
  | cons poll polls ih =>
      by_cases settled : poll.settled
      · rw [receiveAll_of_settled columns settled] at h
        rw [unsettled_cons_of_settled polls settled]
        exact ih (bind_pure_eq_error h)
      · rw [unsettled_cons polls settled]
        rcases answers with _ | ⟨failure | page, answers⟩ <;> rw [receiveAll, if_neg settled] at h
        · cases h
        · cases h
          exact ⟨[], failure, answers, poll.query, rfl, rfl, rfl⟩
        · obtain ⟨pages, failure, behind, query, rfl, first, rfl⟩ := ih (bind_pure_eq_error h)
          exact ⟨page :: pages, failure, behind, query, rfl, first, rfl⟩

theorem isOk_of_receiveAll_ok {columns : Columns} {polls received : List RegionPoll}
    {answers : List (Except CallFailure ResultsPage)}
    (h : receiveAll columns polls answers = .ok received)
    (asked : answers.length ≤ (unsettled polls).length) : answers.all Except.isOk := by
  induction polls generalizing answers received with
  | nil =>
      obtain rfl := List.eq_nil_of_length_eq_zero (Nat.le_zero.mp asked)
      rfl
  | cons poll polls ih =>
      by_cases settled : poll.settled
      · rw [receiveAll_of_settled columns settled] at h
        rw [unsettled_cons_of_settled polls settled] at asked
        obtain ⟨rest, hrest, -⟩ := bind_eq_ok h
        exact ih hrest asked
      · rw [unsettled_cons polls settled] at asked
        rcases answers with _ | ⟨failure | page, answers⟩ <;> rw [receiveAll, if_neg settled] at h
        · rfl
        · cases h
        · obtain ⟨rest, hrest, -⟩ := bind_eq_ok h
          have others : answers.all Except.isOk := ih hrest (Nat.le_of_succ_le_succ asked)
          exact others

end RegionPoll

namespace Polling

theorem start_query (columns : Columns) (shown? : Option (List String))
    (queries : List StartedQuery) :
    (start columns shown? queries).regions.map RegionPoll.query = queries := by
  have same : RegionPoll.query ∘ RegionPoll.start = id := rfl
  simp [start, same]

theorem receive_query {polling received : Polling}
    {answers : List (Except CallFailure ResultsPage)}
    (h : polling.receive answers = .ok received) :
    received.regions.map RegionPoll.query = polling.regions.map RegionPoll.query := by
  obtain ⟨regions, hregions, h⟩ := bind_eq_ok h
  cases h
  exact RegionPoll.receiveAll_query hregions

theorem receive_error {polling : Polling} {answers : List (Except CallFailure ResultsPage)}
    {e : QueryError} (h : polling.receive answers = .error e) :
    ∃ region id text, e = .queryPoll region id text := by
  obtain ⟨pages, failure, behind, query, -, -, rfl⟩ :=
    RegionPoll.first_of_receiveAll_error (bind_pure_eq_error h)
  exact ⟨_, _, _, rfl⟩

variable {polling received : Polling}
  {answers : Fin polling.unsettled.length → Except CallFailure ResultsPage}

theorem first_of_receive_error {e : QueryError}
    (h : polling.receive (List.ofFn answers) = .error e) :
    ∃ i failure, answers i = .error failure ∧ (∀ j < i, (answers j).isOk) ∧
      e = .queryPoll (polling.unsettled.get i).site.region (polling.unsettled.get i).id
        failure.message := by
  obtain ⟨pages, failure, behind, query, split, first, rfl⟩ :=
    RegionPoll.first_of_receiveAll_error (bind_pure_eq_error h)
  obtain ⟨bound, hquery⟩ := List.getElem?_eq_some_iff.mp first
  have answer (j : Fin polling.unsettled.length) :
      (pages.map .ok ++ .error failure :: behind)[j.val]? = some (answers j) := by
    simp [← split]
  refine ⟨⟨pages.length, bound⟩, failure, ?_, ?_, ?_⟩
  · simpa using (answer ⟨pages.length, bound⟩).symm
  · intro j before
    have before : j.val < pages.length := before
    have hpage := answer j
    rw [List.getElem?_append_left (by simpa using before), List.getElem?_map] at hpage
    obtain ⟨page, -, same⟩ := Option.map_eq_some_iff.mp hpage
    rw [← same]
    rfl
  · subst hquery
    rfl

theorem isOk_of_receive_ok (h : polling.receive (List.ofFn answers) = .ok received) :
    (List.ofFn answers).all Except.isOk := by
  obtain ⟨regions, hregions, _⟩ := bind_eq_ok h
  exact RegionPoll.isOk_of_receiveAll_ok hregions (Nat.le_of_eq List.length_ofFn)

@[simp] theorem afterShowing_regions (polling : Polling) :
    polling.afterShowing.regions = polling.regions := by
  unfold afterShowing
  split <;> rfl

end Polling

end LogQuery
