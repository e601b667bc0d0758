import LogQuery.Proofs.Execution.Course

namespace LogQuery

/-- How much an execution has told about itself. -/
inductive Phase where
  | nothing
  /-- The log groups are told, and the query is being started. -/
  | logGroups
  /-- The query has been started. -/
  | started
deriving DecidableEq, Repr

namespace Phase

/-- The phase after a call; there is none if the call tells something out of order. -/
def next? : Phase → Call → Option Phase
  | nothing, .report (.logGroups _) => some logGroups
  | logGroups, .report (.started _) => some started
  | started, .report (.results ..) => some started
  | _, .report _ => none
  | phase, _ => some phase

/-- Where an execution may stop or end in a phase, if access is refused with none but these
errors. -/
def Admits (refusals : QueryError → Prop) : Phase → Stage → Prop
  | nothing, stage => stage.Unstarted refusals
  | logGroups, stage => ∃ region text, stage = .ended (.error (.querySubmit region text))
  | started, stage => ∃ queries, stage.Asks queries

/-- Whether a task keeps to the order from a phase on, whatever it is answered. -/
def Runs (refusals : QueryError → Prop) : Phase → Task Stage → Prop
  | phase, .done stage => phase.Admits refusals stage
  | phase, .call c next => ∃ later, phase.next? c = some later ∧
      ∀ answer, c.Admits refusals answer → later.Runs refusals (next answer)

theorem next?_of_prepares {c : Call} (h : c.prepares) : nothing.next? c = some nothing := by
  unfold Call.prepares at h
  split at h <;> first | rfl | cases h

theorem next?_of_submits {c : Call} (h : c.submits) : logGroups.next? c = some logGroups := by
  unfold Call.submits at h
  split at h <;> first | rfl | cases h

theorem next?_of_polls {c : Call} (h : c.polls) : started.next? c = some started := by
  unfold Call.polls at h
  split at h <;> first | rfl | cases h

variable {refusals : QueryError → Prop}

theorem Runs.bind {α : Type} {phase : Phase} {q : α → Prop} {task : Task α} {f : α → Task Stage}
    (h : task.Ensures (fun c => phase.next? c = some phase) q)
    (hf : ∀ value, q value → phase.Runs refusals (f value)) :
    phase.Runs refusals (task >>= f) := by
  induction task with
  | done value => exact hf value h
  | call c next ih => exact ⟨phase, h.1, fun answer _ => ih answer (h.2 answer)⟩

theorem Runs.of_ensures {phase : Phase} {task : Task Stage}
    (h : task.Ensures (fun c => phase.next? c = some phase) (phase.Admits refusals)) :
    phase.Runs refusals task := by
  induction task with
  | done stage => exact h
  | call c next ih => exact ⟨phase, h.1, fun answer _ => ih answer (h.2 answer)⟩

end Phase

namespace Execution

variable (execution : Execution) {refusals : QueryError → Prop}

theorem submit_runs (found : List RegionLogGroups) :
    Phase.nothing.Runs refusals (execution.submit found) := by
  rw [submit_eq]
  have silent := (execution.startAll_ensures found execution.query.regions []).imp
    (fun _ => Phase.next?_of_submits) fun _ => id
  refine ⟨.logGroups, rfl, fun _ _ => .bind silent ?_⟩
  intro outcome submits
  cases outcome with
  | error e =>
      obtain ⟨region, text, rfl⟩ := submits e rfl
      exact ⟨region, text, rfl⟩
  | ok queries => exact ⟨.started, rfl, fun _ _ => ⟨_, rfl⟩⟩

theorem Prepares.runs {task : Task Stage} (h : execution.Prepares refusals task) :
    Phase.nothing.Runs refusals task := by
  induction h with
  | stop stage unstarted => exact unstarted
  | call c next prepares later ih => exact ⟨.nothing, Phase.next?_of_prepares prepares, ih⟩
  | submit found => exact execution.submit_runs found

theorem start_runs : Phase.nothing.Runs refusals execution.start :=
  execution.start_prepares.runs

theorem turn_runs {phase : Phase} {stage : Stage} (h : phase.Admits refusals stage) :
    phase.Runs refusals (execution.turn stage) := by
  cases phase with
  | nothing => exact (execution.turn_prepares h).runs
  | logGroups =>
      obtain ⟨region, text, rfl⟩ := h
      exact ⟨region, text, rfl⟩
  | started =>
      obtain ⟨queries, asks⟩ := h
      cases stage with
      | draining => exact asks.elim
      | ended outcome => exact ⟨queries, asks⟩
      | polling logGroups polling =>
          have polls := execution.round_polls logGroups polling
          exact .of_ensures (polls.imp (fun _ => Phase.next?_of_polls) fun _ asks => ⟨_, asks⟩)

end Execution

end LogQuery
