import LogQuery.Proofs.Execution.Course

namespace LogQuery

namespace Call

/-- The rows that were told last, once a call is made. -/
def latest (last? : Option Aggregate) : Call → Option Aggregate
  | report (.results result _) => some result
  | _ => last?

/-- Whether there are rows if it tells of them. -/
def Substantial : Call → Prop
  | report (.results result _) => result.rows ≠ []
  | _ => True

def FailsWith (e : QueryError) : (c : Call) → c.Answer → Prop
  | results asked, (answers : Fin asked.length → Except CallFailure ResultsPage) =>
    ∃ i failure, answers i = .error failure ∧ (∀ j < i, (answers j).isOk) ∧
      e = .queryPoll (asked.get i).site.region (asked.get i).id failure.message
  | _, _ => False

/-- Whether it neither asks for results nor tells of any. -/
def rowless : Call → Bool
  | results _ | report (.results ..) => false
  | _ => true

theorem latest_of_not_report {c : Call} {last? : Option Aggregate}
    (h : ∀ progress, c ≠ report progress) :
    c.latest last? = last? := by
  cases c with
  | report progress => exact absurd rfl (h progress)
  | _ => rfl

theorem rowless_of_prepares {c : Call} (h : c.prepares) : c.rowless := by
  unfold prepares at h
  split at h <;> first | rfl | cases h

theorem rowless_of_submits {c : Call} (h : c.submits) : c.rowless := by
  unfold submits at h
  split at h <;> first | rfl | cases h

end Call

/-- Whether an execution that has run to its end leaves the rows that were told last, or no
rows. -/
def Stage.Closes (last? : Option Aggregate) : Stage → Prop
  | ended (.ok report) =>
    report.ending = .completed → report.result.rows = [] ∨ last? = some report.result
  | _ => True

/-- Whether an execution closes as it should, whatever it is answered from now on. -/
def Task.Closes : Option Aggregate → Task Stage → Prop
  | last?, done stage => stage.Closes last?
  | last?, call c next => c.Substantial ∧ ∀ answer,
    (∀ e, c.FailsWith e answer → next answer = .done (.ended (.error e))) ∧
      (next answer).Closes (c.latest last?)

namespace Task

variable {last? : Option Aggregate}

theorem closes_call {c : Call} {next : c.Answer → Task Stage} (rowless : c.rowless)
    (h : ∀ answer, (next answer).Closes last?) : (call c next).Closes last? := by
  have plain : c.Substantial ∧ c.latest last? = last? ∧ ∀ e answer, ¬c.FailsWith e answer := by
    cases c with
    | results => cases rowless
    | report progress =>
        cases progress with
        | results => cases rowless
        | logGroups => exact ⟨trivial, rfl, fun _ _ => id⟩
        | started => exact ⟨trivial, rfl, fun _ _ => id⟩
    | _ => exact ⟨trivial, rfl, fun _ _ => id⟩
  obtain ⟨substantial, same, unfailing⟩ := plain
  refine ⟨substantial, fun answer => ⟨fun e fails => absurd fails (unfailing e answer), ?_⟩⟩
  rw [same]
  exact h answer

theorem Closes.bind {α : Type} {q : α → Prop} {task : Task α} {f : α → Task Stage}
    (h : task.Ensures (fun c => c.rowless) q) (hf : ∀ value, q value → (f value).Closes last?) :
    (task >>= f).Closes last? := by
  induction task with
  | done value => exact hf value h
  | call c next ih => exact closes_call h.1 fun answer => ih answer (h.2 answer)

end Task

theorem Polling.rows_aggregate_eq_nil_iff {polling : Polling} :
    polling.aggregate.rows = [] ↔ ¬polling.hasRows := by
  simp [aggregate, Aggregate.ofSnapshots, hasRows, RegionPoll.snapshot]

theorem Polling.afterShowing_aggregate (polling : Polling) :
    polling.afterShowing.aggregate = polling.aggregate := by
  rw [aggregate, afterShowing_regions, aggregate]

theorem first_failure_unique {n : Nat} {answers : Fin n → Except CallFailure ResultsPage}
    {i j : Fin n} {failure failure' : CallFailure} (fails : answers i = .error failure)
    (first : ∀ k < i, (answers k).isOk) (fails' : answers j = .error failure')
    (first' : ∀ k < j, (answers k).isOk) : i = j := by
  rcases Nat.lt_trichotomy i j with before | same | behind
  · have ok := first' i before
    rw [fails] at ok
    cases ok
  · exact Fin.ext same
  · have ok := first j behind
    rw [fails'] at ok
    cases ok

namespace Execution

variable (execution : Execution) {last? : Option Aggregate}

theorem Prepares.closes {task : Task Stage} (h : execution.Prepares (fun _ => True) task) :
    task.Closes last? := by
  induction h with
  | stop stage unstarted =>
      cases stage with
      | draining => trivial
      | polling => trivial
      | ended outcome =>
          cases outcome with
          | ok report => exact unstarted.elim
          | error e => trivial
  | call c next prepares later ih =>
      exact Task.closes_call (Call.rowless_of_prepares prepares) fun answer =>
        ih answer (c.admits_any answer)
  | submit found =>
      rw [submit_eq]
      have starts := (execution.startAll_ensures found execution.query.regions []).imp
        (fun _ => Call.rowless_of_submits) fun _ => id
      refine Task.closes_call rfl fun _ => .bind starts fun outcome _ => ?_
      cases outcome with
      | error e => trivial
      | ok queries => exact Task.closes_call rfl fun _ => trivial

theorem start_closes : execution.start.Closes last? :=
  execution.start_prepares.closes

theorem wait_closes (logGroups : List RegionLogGroups) {polling : Polling}
    (told : polling.aggregate.rows = [] ∨ last? = some polling.aggregate) :
    (execution.wait logGroups polling).Closes last? := by
  unfold wait
  split
  · exact fun _ => told
  · refine Task.closes_call rfl fun _ => Task.closes_call rfl fun stop => ?_
    cases stop with
    | true => exact nofun
    | false => trivial

theorem showAndWait_closes (logGroups : List RegionLogGroups) (polling : Polling) :
    (execution.showAndWait logGroups polling).Closes last? := by
  refine Task.closes_call rfl fun stop => ?_
  cases stop with
  | true => exact nofun
  | false =>
      change (showRows polling >>= execution.wait logGroups).Closes last?
      unfold showRows
      split
      · rename_i rows
        refine ⟨fun none => Polling.rows_aggregate_eq_nil_iff.mp none rows, fun _ => ⟨nofun, ?_⟩⟩
        refine execution.wait_closes logGroups (.inr ?_)
        rw [Polling.afterShowing_aggregate]
        rfl
      · rename_i none
        exact execution.wait_closes logGroups (.inl (Polling.rows_aggregate_eq_nil_iff.mpr none))

theorem round_closes (logGroups : List RegionLogGroups) (polling : Polling) :
    (execution.round logGroups polling).Closes last? := by
  rw [round_eq]
  refine ⟨trivial, fun answers => ?_⟩
  cases received : polling.receive (List.ofFn answers) with
  | ok later =>
      simp only [received]
      refine ⟨?_, execution.showAndWait_closes logGroups later⟩
      rintro e ⟨i, failure, fails, -⟩
      exact absurd (Polling.isOk_of_receive_ok received) (not_all_isOk fails)
  | error e =>
      simp only [received]
      refine ⟨?_, trivial⟩
      rintro e' ⟨i, failure, fails, first, rfl⟩
      obtain ⟨j, failure', fails', first', rfl⟩ := Polling.first_of_receive_error received
      cases first_failure_unique fails first fails' first'
      cases fails.symm.trans fails'
      rfl

theorem turn_closes {stage : Stage} (closes : stage.Closes last?) :
    (execution.turn stage).Closes last? := by
  cases stage with
  | draining found drain rest =>
      have prepares : execution.Prepares (fun _ => True)
          (execution.turn (.draining found drain rest)) := execution.turn_prepares trivial
      exact prepares.closes
  | polling logGroups polling => exact execution.round_closes logGroups polling
  | ended outcome => exact closes

end Execution

end LogQuery
