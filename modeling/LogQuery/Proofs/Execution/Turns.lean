import LogQuery.Execution.Stage
import LogQuery.Proofs.Transcript
import Mathlib.Logic.Function.Iterate

namespace LogQuery

/-- How far an execution has come: where it has stopped, the state of the service, and all calls
so far with their answers. -/
structure Standing (σ : Type) where
  stage : Stage
  state : σ
  transcript : List Exchange

def Stage.outcome? : Stage → Option (Except QueryError Report)
  | .ended outcome => some outcome
  | _ => none

theorem Stage.eq_ended_of_outcome? {stage : Stage} {outcome : Except QueryError Report}
    (h : stage.outcome? = some outcome) : stage = .ended outcome := by
  cases stage with
  | ended =>
      cases h
      rfl
  | draining => cases h
  | polling => cases h

namespace Execution

variable {σ : Type} (execution : Execution) (service : Service σ)

def opening (state : σ) : Standing σ where
  stage := (execution.start.run service state).1
  state := (execution.start.run service state).2
  transcript := execution.start.exchanges service state

def advance (standing : Standing σ) : Standing σ where
  stage := ((execution.turn standing.stage).run service standing.state).1
  state := ((execution.turn standing.stage).run service standing.state).2
  transcript :=
    standing.transcript ++ (execution.turn standing.stage).exchanges service standing.state

def after (turns : Nat) (standing : Standing σ) : Standing σ :=
  (execution.advance service)^[turns] standing

theorem after_succ (turns : Nat) (standing : Standing σ) :
    execution.after service (turns + 1) standing =
      execution.advance service (execution.after service turns standing) :=
  Function.iterate_succ_apply' _ _ _

theorem after_advance (turns : Nat) (standing : Standing σ) :
    execution.after service turns (execution.advance service standing) =
      execution.after service (turns + 1) standing :=
  (Function.iterate_succ_apply _ _ _).symm

theorem after_induction {p : Standing σ → Prop} {standing : Standing σ} (first : p standing)
    (next : ∀ standing, p standing → p (execution.advance service standing)) (turns : Nat) :
    p (execution.after service turns standing) := by
  induction turns with
  | zero => exact first
  | succ turns ih =>
      rw [after_succ]
      exact next _ ih

theorem advance_of_polling {standing : Standing σ} {logGroups : List RegionLogGroups}
    {polling : Polling} (h : standing.stage = .polling logGroups polling) :
    execution.advance service standing =
      { stage := ((execution.round logGroups polling).run service standing.state).1
        state := ((execution.round logGroups polling).run service standing.state).2
        transcript := standing.transcript ++
          (execution.round logGroups polling).exchanges service standing.state } := by
  rw [advance, h]
  rfl

theorem advance_of_ended {standing : Standing σ} {outcome : Except QueryError Report}
    (h : standing.stage = .ended outcome) : execution.advance service standing = standing := by
  obtain ⟨stage, state, transcript⟩ := standing
  subst h
  simp [advance, turn]

theorem runFrom_eq_after (turns : Nat) (standing : Standing σ) :
    execution.runFrom service turns standing.stage standing.state =
      (execution.after service turns standing).stage.outcome?.map fun outcome =>
        (outcome, (execution.after service turns standing).state) := by
  induction turns generalizing standing with
  | zero =>
      obtain ⟨stage, state, transcript⟩ := standing
      cases stage <;> rfl
  | succ turns ih =>
      rw [← after_advance, ← ih]
      obtain ⟨stage, state, transcript⟩ := standing
      cases stage with
      | ended outcome => cases turns <;> rfl
      | draining found drain rest => rfl
      | polling logGroups polling => rfl

theorem ended_of_runFrom (turns : Nat) (standing : Standing σ)
    {outcome : Except QueryError Report} {final : σ}
    (h : execution.runFrom service turns standing.stage standing.state = some (outcome, final)) :
    (execution.after service turns standing).stage = .ended outcome := by
  rw [runFrom_eq_after] at h
  obtain ⟨_, stopped, same⟩ := Option.map_eq_some_iff.mp h
  cases same
  exact Stage.eq_ended_of_outcome? stopped

theorem run_eq_after (turns : Nat) (state : σ) :
    execution.run service turns state =
      (execution.after service turns (execution.opening service state)).stage.outcome?.map
        fun outcome =>
          (outcome, (execution.after service turns (execution.opening service state)).state) :=
  execution.runFrom_eq_after service turns (execution.opening service state)

end Execution

end LogQuery
